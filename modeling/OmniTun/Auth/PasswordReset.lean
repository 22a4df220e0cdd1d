import OmniTun.Auth.RefreshTokens

/-! Password resets with one reset token, each a sequence of calls of the repository, next to logins
that store refresh tokens. -/

namespace OmniTun.Auth.PasswordReset

open OmniTun.Foundation OmniTun.Foundation.Transition OmniTun.Foundation.Processes
open RefreshTokens (RefreshTokenRecord)

structure PasswordResetToken where
  userID : Bytes
  expiresAt : ℤ
  usedAt : Option ℤ
  deriving DecidableEq

/-- How a text splits into runes, and the classes of runes. -/
structure Unicode where
  runes : Bytes → List ℕ
  isUpper : ℕ → Bool
  isLower : ℕ → Bool
  isDigit : ℕ → Bool

inductive PasswordError
  | tooShort
  | missingUpper
  | missingLower
  | missingDigit
  deriving DecidableEq, Repr

def PasswordError.error : PasswordError → String
  | .tooShort => "password must be at least 8 characters"
  | .missingUpper => "password must contain at least one uppercase letter"
  | .missingLower => "password must contain at least one lowercase letter"
  | .missingDigit => "password must contain at least one digit"

def validatePassword (u : Unicode) (password : Bytes) : Option PasswordError :=
  let rs := u.runes password
  if rs.length < 8 then some .tooShort
  else if ¬ rs.any u.isUpper then some .missingUpper
  else if ¬ rs.any fun r => !u.isUpper r && u.isLower r then some .missingLower
  else if ¬ rs.any fun r => !u.isUpper r && !u.isLower r && u.isDigit r then some .missingDigit
  else none

inductive Path
  | service
  | rest
  deriving DecidableEq, Repr

inductive Request
  | reset (path : Path) (newPassword : Bytes)
  | login (tokenHash : Bytes) (record : RefreshTokenRecord)

abbrev Tokens := Bytes → Option RefreshTokenRecord

/-- A reset keeps in mind which refresh tokens there were when it began. -/
inductive Local
  | received
  | found (userID : Bytes) (before : Tokens)
  | updated (userID : Bytes) (before : Tokens)
  | consumed (userID : Bytes) (before : Tokens)
  | done (result : Except AppError Bytes)
  | loggedIn

inductive Event (ι : Type*)
  | changed (i : ι)
  | succeeded (i : ι) (userID : Bytes) (before : Tokens) (now : ℤ)

structure Store (ι : Type*) where
  resetTokens : Bytes → Option PasswordResetToken
  refreshTokens : Tokens
  passwordHash : Bytes → Option Bytes
  events : List (Event ι)

structure Call where
  now : ℤ := 0
  fails : Bool := false
  hash : Option Bytes := none

variable {ι : Type*}

namespace Store

variable (s : Store ι)

def getPasswordResetToken (tokenHash : Bytes) (now : ℤ) : Option PasswordResetToken :=
  (s.resetTokens tokenHash).filter fun t => t.usedAt = none ∧ now < t.expiresAt

def updateUserPassword (userID passwordHash : Bytes) : Store ι :=
  { s with passwordHash := Function.update s.passwordHash userID (some passwordHash) }

def consumePasswordResetToken (tokenHash : Bytes) (now : ℤ) : Store ι :=
  { s with
    resetTokens := fun h =>
      if h = tokenHash then (s.resetTokens h).map fun t => { t with usedAt := some now }
      else s.resetTokens h }

def deleteUserRefreshTokens (userID : Bytes) : Store ι :=
  { s with refreshTokens := fun h => (s.refreshTokens h).filter fun r => r.userID ≠ userID }

def getRefreshToken (tokenHash : Bytes) (now : ℤ) : Option RefreshTokenRecord :=
  (s.refreshTokens tokenHash).filter fun r => now < r.expiresAt

def record (e : Event ι) : Store ι := { s with events := e :: s.events }

end Store

namespace Path

def missing : AppError :=
  ⟨ascii "invalid_request", ascii "token and new_password required", 400⟩

def invalidToken : Path → AppError
  | .service => .badRequest "invalid or expired reset token"
  | .rest => ⟨ascii "invalid_token", ascii "invalid or expired reset token", 400⟩

def weakPassword (err : PasswordError) : Path → AppError
  | .service => .badRequest err.error
  | .rest => ⟨ascii "weak_password", ascii err.error, 400⟩

def internalError (message : String) : Path → AppError
  | .service => .internal message
  | .rest => ⟨ascii "internal_error", ascii message, 500⟩

def success : Path → Bytes
  | .service => ascii "password reset successfully"
  | .rest => ascii "Password reset successfully"

end Path

section

variable (u : Unicode) (hashToken : Bytes → Bytes) (token : Bytes) (request : ι → Request)

/-- A request call by call: the checks after a call and before the next belong to the next. -/
def next (i : ι) (c : Call) : Local → Store ι → Option (Local × Store ι)
  | .received, s =>
    match request i with
    | .reset path newPassword =>
      if path = .rest ∧ (token = [] ∨ newPassword = []) then some (.done (.error Path.missing), s)
      else
        match if c.fails then none else s.getPasswordResetToken (hashToken token) c.now with
        | none => some (.done (.error path.invalidToken), s)
        | some record => some (.found record.userID s.refreshTokens, s)
    | .login tokenHash record =>
      if c.fails ∨ s.refreshTokens tokenHash ≠ none then some (.loggedIn, s)
      else
        some (.loggedIn,
          { s with refreshTokens := Function.update s.refreshTokens tokenHash (some record) })
  | .found userID before, s =>
    match request i with
    | .reset path newPassword =>
      match validatePassword u newPassword with
      | some err => some (.done (.error (path.weakPassword err)), s)
      | none =>
        match c.hash with
        | none => some (.done (.error (path.internalError "failed to process password")), s)
        | some passwordHash =>
          if c.fails then
            some (.done (.error (path.internalError "failed to update password")), s)
          else
            some (.updated userID before,
              (s.updateUserPassword userID passwordHash).record (.changed i))
    | .login _ _ => none
  | .updated userID before, s =>
    match request i with
    | .reset path _ =>
      -- a failure to consume the token is only logged
      let s' := if c.fails then s else s.consumePasswordResetToken (hashToken token) c.now
      match path with
      | .service =>
        some (.done (.ok Path.service.success), s'.record (.succeeded i userID before c.now))
      | .rest => some (.consumed userID before, s')
    | .login _ _ => none
  | .consumed userID before, s =>
    -- and so is a failure to revoke the refresh tokens
    let s' := if c.fails then s else s.deleteUserRefreshTokens userID
    some (.done (.ok Path.rest.success), s'.record (.succeeded i userID before c.now))
  | .done _, _ => none
  | .loggedIn, _ => none

end

def start (resetTokens : Bytes → Option PasswordResetToken) (refreshTokens : Tokens)
    (passwordHash : Bytes → Option Bytes) : World ι Local (Store ι) :=
  ⟨fun _ => .received, resetTokens, refreshTokens, passwordHash, []⟩

def Event.isChange : Event ι → Bool
  | .changed _ => true
  | .succeeded .. => false

def Revoked (s : Store ι) (userID : Bytes) (before : Tokens) (now : ℤ) : Prop :=
  ∀ h r, before h = some r → r.userID = userID → ∀ t, now ≤ t → s.getRefreshToken h t = none

structure Safe (s : Store ι) : Prop where
  once : (s.events.filter Event.isChange).length ≤ 1
  revoked : ∀ i userID before now, .succeeded i userID before now ∈ s.events →
    Revoked s userID before now

def Unused (s : Store ι) (tokenHash : Bytes) : Prop :=
  ∃ t, s.resetTokens tokenHash = some t ∧ t.usedAt = none

def Local.pending : Local → Bool
  | .updated .. => true
  | _ => false

def Local.before : Local → Option Tokens
  | .found _ before | .updated _ before | .consumed _ before => some before
  | _ => none

/-- The password is changed while the token is unused and no other reset is about to consume it,
which never fails. Where the refresh tokens are not deleted, none of those from before is live. A
login stores no token that was there when a reset began. -/
def Timely (u : Unicode) (hashToken : Bytes → Bytes) (token : Bytes) (request : ι → Request)
    (w : World ι Local (Store ι)) (a : ι × Call) : Prop :=
  match w.locals a.1, request a.1 with
  | .received, .login tokenHash _ =>
      (∀ j before, (w.locals j).before = some before → before tokenHash = none) ∧
        ∀ j userID before now, .succeeded j userID before now ∈ w.store.events →
          before tokenHash = none
  | .found _ _, .reset _ newPassword => validatePassword u newPassword = none →
      a.2.hash ≠ none → a.2.fails = false →
        Unused w.store (hashToken token) ∧ ∀ j, (w.locals j).pending = false
  | .updated userID before, .reset .service _ =>
      a.2.fails = false ∧ Revoked w.store userID before a.2.now
  | .updated _ _, .reset .rest _ => a.2.fails = false
  | .consumed userID before, _ => a.2.fails = true → Revoked w.store userID before a.2.now
  | _, _ => True

inductive Effect (u : Unicode) (tokenHash : Bytes) (i : ι) (c : Call) :
    Request → Local → Local → Store ι → Store ι → Prop
  | ends {r l l' s} (hl : l.pending = false) (hl' : l'.before = none) :
      Effect u tokenHash i c r l l' s s
  | finds {r l userID s} (hl : l.pending = false) :
      Effect u tokenHash i c r l (.found userID s.refreshTokens) s s
  | logsIn {h record s} :
      Effect u tokenHash i c (.login h record) .received .loggedIn s
        { s with refreshTokens := Function.update s.refreshTokens h (some record) }
  | changes {path newPassword userID before passwordHash s}
      (hv : validatePassword u newPassword = none) (hh : c.hash = some passwordHash)
      (hf : c.fails = false) :
      Effect u tokenHash i c (.reset path newPassword) (.found userID before)
        (.updated userID before) s
        ((s.updateUserPassword userID passwordHash).record (.changed i))
  | consumes {newPassword userID before s s'}
      (hs : c.fails = false → s' = s.consumePasswordResetToken tokenHash c.now) :
      Effect u tokenHash i c (.reset .rest newPassword) (.updated userID before)
        (.consumed userID before) s s'
  | answers {newPassword userID before res s s'}
      (hs : c.fails = false → s' = s.consumePasswordResetToken tokenHash c.now) :
      Effect u tokenHash i c (.reset .service newPassword) (.updated userID before)
        (.done (.ok res)) s (s'.record (.succeeded i userID before c.now))
  | revokes {r userID before res s s'}
      (hs : s' = if c.fails then s else s.deleteUserRefreshTokens userID) :
      Effect u tokenHash i c r (.consumed userID before) (.done (.ok res)) s
        (s'.record (.succeeded i userID before c.now))

section Steps

variable {u : Unicode} {hashToken : Bytes → Bytes} {token : Bytes} {request : ι → Request} {i : ι}
  {c : Call} {l l' : Local} {s s' : Store ι}

lemma next_effect (h : next u hashToken token request i c l s = some (l', s')) :
    Effect u (hashToken token) i c (request i) l l' s s' := by
  cases l with
  | received =>
    simp only [next] at h
    cases hr : request i with
    | reset path newPassword =>
      simp only [hr] at h
      by_cases hm : path = .rest ∧ (token = [] ∨ newPassword = [])
      · rw [if_pos hm] at h
        obtain ⟨rfl, rfl⟩ := Prod.mk.inj (Option.some.inj h)
        exact .ends rfl rfl
      · rw [if_neg hm] at h
        split at h <;> obtain ⟨rfl, rfl⟩ := Prod.mk.inj (Option.some.inj h)
        · exact .ends rfl rfl
        · exact .finds rfl
    | login tokenHash record =>
      simp only [hr] at h
      split_ifs at h <;> obtain ⟨rfl, rfl⟩ := Prod.mk.inj (Option.some.inj h)
      · exact .ends rfl rfl
      · exact .logsIn
  | found userID before =>
    simp only [next] at h
    cases hr : request i with
    | reset path newPassword =>
      simp only [hr] at h
      cases hv : validatePassword u newPassword with
      | some err =>
        simp only [hv, Option.some.injEq, Prod.mk.injEq] at h
        obtain ⟨rfl, rfl⟩ := h
        exact .ends rfl rfl
      | none =>
        cases hh : c.hash with
        | none =>
          simp only [hv, hh, Option.some.injEq, Prod.mk.injEq] at h
          obtain ⟨rfl, rfl⟩ := h
          exact .ends rfl rfl
        | some passwordHash =>
          cases hf : c.fails with
          | true =>
            simp only [hv, hh, hf, if_true, Option.some.injEq, Prod.mk.injEq] at h
            obtain ⟨rfl, rfl⟩ := h
            exact .ends rfl rfl
          | false =>
            simp only [hv, hh, hf, Bool.false_eq_true, if_false, Option.some.injEq,
              Prod.mk.injEq] at h
            obtain ⟨rfl, rfl⟩ := h
            exact .changes hv hh hf
    | login tokenHash record => simp [hr] at h
  | updated userID before =>
    simp only [next] at h
    cases hr : request i with
    | reset path newPassword =>
      cases path with
      | service =>
        simp only [hr, Option.some.injEq, Prod.mk.injEq] at h
        obtain ⟨rfl, rfl⟩ := h
        exact .answers fun hf => by simp [hf]
      | rest =>
        simp only [hr, Option.some.injEq, Prod.mk.injEq] at h
        obtain ⟨rfl, rfl⟩ := h
        exact .consumes fun hf => by simp [hf]
    | login tokenHash record => simp [hr] at h
  | consumed userID before =>
    simp only [next, Option.some.injEq, Prod.mk.injEq] at h
    obtain ⟨rfl, rfl⟩ := h
    exact .revokes rfl
  | done result => cases h
  | loggedIn => cases h

end Steps

structure Invariant (tokenHash : Bytes) (w : World ι Local (Store ι)) : Prop where
  safe : Safe w.store
  used : (∃ i, .changed i ∈ w.store.events) → Unused w.store tokenHash →
    ∃ i, (w.locals i).pending = true
  kept : ∀ i before, (w.locals i).before = some before → ∀ h r, before h = some r →
    w.store.refreshTokens h = some r ∨ w.store.refreshTokens h = none

section Stores

variable {s s' : Store ι} {i : ι} {userID tokenHash : Bytes} {before : Tokens} {now : ℤ}

lemma Revoked.mono (hr : Revoked s userID before now)
    (hs : ∀ h r, before h = some r → s'.refreshTokens h = s.refreshTokens h ∨
      s'.refreshTokens h = none) : Revoked s' userID before now := by
  intro h r hb hu t ht
  rcases hs h r hb with he | he
  · simpa only [Store.getRefreshToken, he] using hr h r hb hu t ht
  · simp [Store.getRefreshToken, he]

lemma revoked_delete (hk : ∀ h r, before h = some r →
    s.refreshTokens h = some r ∨ s.refreshTokens h = none) :
    Revoked (s.deleteUserRefreshTokens userID) userID before now := by
  intro h r hb hu t _
  rcases hk h r hb with he | he <;>
    simp [Store.getRefreshToken, Store.deleteUserRefreshTokens, he, hu]

lemma delete_eq_or (s : Store ι) (userID h : Bytes) :
    (s.deleteUserRefreshTokens userID).refreshTokens h = s.refreshTokens h ∨
      (s.deleteUserRefreshTokens userID).refreshTokens h = none := by
  simp only [Store.deleteUserRefreshTokens]
  cases s.refreshTokens h with
  | none => exact .inl rfl
  | some r => by_cases hu : r.userID = userID <;> simp [hu]

lemma safe_of_events (hs : Safe s) (he : s'.events = s.events)
    (hr : ∀ i userID before now, .succeeded i userID before now ∈ s.events → ∀ h r,
      before h = some r → s'.refreshTokens h = s.refreshTokens h ∨ s'.refreshTokens h = none) :
    Safe s' where
  once := he ▸ hs.once
  revoked i userID before now hmem := by
    rw [he] at hmem
    exact (hs.revoked i userID before now hmem).mono (hr i userID before now hmem)

lemma safe_changed (hs : Safe s) (hnone : ∀ j, .changed j ∉ s.events) :
    Safe (s.record (.changed i)) where
  once := by
    have hnil : s.events.filter Event.isChange = [] := by
      apply List.filter_eq_nil_iff.mpr
      rintro (j | _) he
      · exact absurd he (hnone j)
      · simp [Event.isChange]
    rw [Store.record, List.filter_cons_of_pos rfl, hnil]
    rfl
  revoked j userID before now hmem :=
    hs.revoked j userID before now (by simpa [Store.record] using hmem)

lemma safe_succeeded (hs : Safe s) (hr : Revoked s userID before now) :
    Safe (s.record (.succeeded i userID before now)) where
  once := by simpa [Store.record, Event.isChange] using hs.once
  revoked j userID' before' now' hmem := by
    rcases List.mem_cons.mp hmem with he | hmem
    · cases he
      exact hr
    · exact hs.revoked j userID' before' now' hmem

lemma not_unused_consumed (s : Store ι) :
    ¬ Unused (s.consumePasswordResetToken tokenHash now) tokenHash := by
  rintro ⟨t, ht, hu⟩
  simp only [Store.consumePasswordResetToken, if_true, Option.map_eq_some_iff] at ht
  obtain ⟨_, -, rfl⟩ := ht
  cases hu

end Stores

section Worlds

variable [DecidableEq ι] {u : Unicode} {hashToken : Bytes → Bytes} {token tokenHash : Bytes}
  {request : ι → Request} {i j : ι} {l' : Local} {w w' : World ι Local (Store ι)}

lemma before_update {before : Tokens}
    (h : (Function.update w.locals i l' j).before = some before) :
    (j = i ∧ l'.before = some before) ∨ (j ≠ i ∧ (w.locals j).before = some before) :=
  update_cases (fun l : Local => l.before = some before) h

lemma pending_other (hp : (w.locals i).pending = false) (h : ∃ j, (w.locals j).pending = true) :
    ∃ j, (Function.update w.locals i l' j).pending = true := by
  obtain ⟨j, hj⟩ := h
  have hne : j ≠ i := by
    rintro rfl
    simp [hp] at hj
  exact ⟨j, by rwa [Function.update_of_ne hne]⟩

lemma kept_update {tokens : Tokens} (hw : Invariant tokenHash w)
    (hl : ∀ before, l'.before = some before → (w.locals i).before = some before)
    (ht : ∀ h, tokens h = w.store.refreshTokens h ∨ tokens h = none) (j : ι) (before : Tokens)
    (hj : (Function.update w.locals i l' j).before = some before) (h : Bytes)
    (r : RefreshTokenRecord) (hb : before h = some r) : tokens h = some r ∨ tokens h = none := by
  have hold : (w.locals j).before = some before := by
    rcases before_update hj with ⟨rfl, he⟩ | ⟨-, he⟩
    · exact hl before he
    · exact he
  rcases ht h with he | he
  · exact (hw.kept j before hold h r hb).imp he.trans he.trans
  · exact .inr he

lemma invariant_same (hw : Invariant tokenHash w) (hp : (w.locals i).pending = false)
    (hb : ∀ before, l'.before = some before → ∀ h r, before h = some r →
      w.store.refreshTokens h = some r ∨ w.store.refreshTokens h = none) :
    Invariant tokenHash ⟨Function.update w.locals i l', w.store⟩ where
  safe := hw.safe
  used hc hu := pending_other hp (hw.used hc hu)
  kept j before hj := by
    rcases before_update hj with ⟨-, he⟩ | ⟨-, he⟩
    · exact hb before he
    · exact hw.kept j before he

lemma invariant_logsIn {h : Bytes} {record : RefreshTokenRecord} (hw : Invariant tokenHash w)
    (hl : w.locals i = .received)
    (hbefore : ∀ j before, (w.locals j).before = some before → before h = none)
    (hdone : ∀ j userID before now, .succeeded j userID before now ∈ w.store.events →
      before h = none) :
    Invariant tokenHash ⟨Function.update w.locals i .loggedIn,
      { w.store with refreshTokens := Function.update w.store.refreshTokens h (some record) }⟩ where
  safe := by
    refine safe_of_events (s := w.store) hw.safe (Eq.refl w.store.events) ?_
    intro j userID before now hmem h' r hr
    have hne : h' ≠ h := by
      rintro rfl
      simp [hdone j userID before now hmem] at hr
    exact .inl (Function.update_of_ne hne ..)
  used hc hu := by
    have hp : (w.locals i).pending = false := by
      rw [hl]
      rfl
    exact pending_other hp (hw.used hc hu)
  kept j before hj h' r hr := by
    rcases before_update hj with ⟨-, he⟩ | ⟨-, he⟩
    · cases he
    · have hne : h' ≠ h := by
        rintro rfl
        simp [hbefore j before he] at hr
      simpa only [Function.update_of_ne hne] using hw.kept j before he h' r hr

lemma invariant_changes {userID passwordHash : Bytes} {before : Tokens}
    (hw : Invariant tokenHash w) (hl : w.locals i = .found userID before)
    (hunused : Unused w.store tokenHash) (hpending : ∀ j, (w.locals j).pending = false) :
    Invariant tokenHash ⟨Function.update w.locals i (.updated userID before),
      (w.store.updateUserPassword userID passwordHash).record (.changed i)⟩ where
  safe := by
    -- an unused token has changed nothing while nobody is about to consume it
    have hnone : ∀ j, .changed j ∉ w.store.events := by
      intro j hj
      obtain ⟨k, hk⟩ := hw.used ⟨j, hj⟩ hunused
      simp [hpending k] at hk
    refine safe_changed (s := w.store.updateUserPassword userID passwordHash) ?_ hnone
    exact safe_of_events hw.safe rfl fun _ _ _ _ _ _ _ _ => .inl rfl
  used _ _ := ⟨i, by simp [Local.pending]⟩
  kept := kept_update hw (fun _ he => hl ▸ he) fun _ => .inl rfl

lemma invariant_consumes {userID : Bytes} {before : Tokens} {now : ℤ}
    (hw : Invariant tokenHash w) (hl : w.locals i = .updated userID before) :
    Invariant tokenHash ⟨Function.update w.locals i (.consumed userID before),
      w.store.consumePasswordResetToken tokenHash now⟩ where
  safe := safe_of_events hw.safe rfl fun _ _ _ _ _ _ _ _ => .inl rfl
  used _ hu := absurd hu (not_unused_consumed w.store)
  kept := kept_update hw (fun _ he => hl ▸ he) fun _ => .inl rfl

lemma invariant_answers {userID : Bytes} {before : Tokens} {now : ℤ} {res : Bytes}
    (hw : Invariant tokenHash w) (hr : Revoked w.store userID before now) :
    Invariant tokenHash ⟨Function.update w.locals i (.done (.ok res)),
      (w.store.consumePasswordResetToken tokenHash now).record
        (.succeeded i userID before now)⟩ where
  safe := by
    refine safe_succeeded (safe_of_events hw.safe rfl fun _ _ _ _ _ _ _ _ => .inl rfl) ?_
    exact hr.mono fun _ _ _ => .inl rfl
  used _ hu := absurd hu (not_unused_consumed w.store)
  kept := kept_update hw (by simp [Local.before]) fun _ => .inl rfl

lemma invariant_revokes {userID : Bytes} {before : Tokens} {c : Call} {res : Bytes} {s' : Store ι}
    (hw : Invariant tokenHash w) (hl : w.locals i = .consumed userID before)
    (hs : s' = if c.fails then w.store else w.store.deleteUserRefreshTokens userID)
    (hr : c.fails = true → Revoked w.store userID before c.now) :
    Invariant tokenHash ⟨Function.update w.locals i (.done (.ok res)),
      s'.record (.succeeded i userID before c.now)⟩ := by
  have hp : (w.locals i).pending = false := by
    rw [hl]
    rfl
  cases hf : c.fails with
  | true =>
    simp only [hf, if_true] at hs
    subst hs
    refine ⟨safe_succeeded hw.safe (hr hf), fun hc hu => pending_other hp (hw.used ?_ hu), ?_⟩
    · simpa [Store.record] using hc
    · exact kept_update hw (by simp [Local.before]) fun _ => .inl rfl
  | false =>
    simp only [hf, Bool.false_eq_true, if_false] at hs
    subst hs
    refine ⟨safe_succeeded ?_ ?_, fun hc hu => pending_other hp (hw.used ?_ hu), ?_⟩
    · exact safe_of_events hw.safe rfl fun _ _ _ _ _ h _ _ => delete_eq_or w.store userID h
    · exact revoked_delete (hw.kept i before (by rw [hl]; rfl))
    · simpa [Store.record, Store.deleteUserRefreshTokens] using hc
    · exact kept_update hw (by simp [Local.before]) (delete_eq_or w.store userID)

lemma invariant_step {a : ι × Call} (hw : Invariant (hashToken token) w)
    (hg : Timely u hashToken token request w a)
    (h : Processes.step (next u hashToken token request) w a = some w') :
    Invariant (hashToken token) w' := by
  obtain ⟨i, c⟩ := a
  obtain ⟨l', s', hnext, rfl⟩ := step_eq_some h
  have he := next_effect hnext
  generalize hl : w.locals i = l at he
  generalize hr : request i = r at he
  generalize hs : w.store = s at he
  simp only [Timely, hl, hr] at hg
  cases he with
  | ends hp hb =>
    subst hs
    exact invariant_same hw (hl ▸ hp) fun before he => by simp [hb] at he
  | finds hp =>
    subst hs
    refine invariant_same hw (hl ▸ hp) fun before he => ?_
    obtain rfl := Option.some.inj he
    exact fun h r hr => .inl hr
  | logsIn =>
    subst hs
    exact invariant_logsIn hw hl hg.1 hg.2
  | changes hv hh hf =>
    subst hs
    obtain ⟨hunused, hpending⟩ := hg hv (ne_of_eq_of_ne hh (Option.some_ne_none _)) hf
    exact invariant_changes hw hl hunused hpending
  | consumes hc =>
    subst hs
    rw [hc hg]
    exact invariant_consumes hw hl
  | answers hc =>
    subst hs
    rw [hc hg.1]
    exact invariant_answers hw hg.2
  | revokes hc =>
    subst hs
    exact invariant_revokes hw hl hc hg

theorem password_reset_safe (u : Unicode) (hashToken : Bytes → Bytes) (token : Bytes)
    (request : ι → Request) (resetTokens : Bytes → Option PasswordResetToken)
    (refreshTokens : Tokens) (passwordHash : Bytes → Option Bytes) (steps : List (ι × Call))
    (htimely : Guarded (Processes.step (next u hashToken token request))
      (Timely u hashToken token request) (start resetTokens refreshTokens passwordHash) steps) :
    Always (Processes.step (next u hashToken token request)) (fun w => Safe w.store)
      (start resetTokens refreshTokens passwordHash) steps := by
  have hstart : Invariant (hashToken token)
      (start (ι := ι) resetTokens refreshTokens passwordHash) := by
    constructor
    · exact ⟨by simp [start], by simp [start]⟩
    · simp [start]
    · simp [start, Local.before]
  apply Always.mono (P := Invariant (hashToken token))
  · exact always_of_guarded hstart htimely fun w a w' hw hg h => invariant_step hw hg h
  · exact fun w hw => hw.safe

end Worlds

section Runs

def asciiUnicode : Unicode where
  runes s := s.map UInt8.toNat
  isUpper r := 65 ≤ r && r ≤ 90
  isLower r := 97 ≤ r && r ≤ 122
  isDigit r := 48 ≤ r && r ≤ 57

def presented : Bytes := ascii "reset"

def newPassword : Bytes := ascii "Passw0rd"

def issuedReset (h : Bytes) : Option PasswordResetToken :=
  if h = presented then some ⟨[1], 100, none⟩ else none

def session (h : Bytes) : Option RefreshTokenRecord :=
  if h = ascii "session" then some ⟨[1], 100⟩ else none

inductive Caller
  | first
  | second
  | owner
  deriving DecidableEq

def three : Caller → Request
  | .first | .second => .reset .rest newPassword
  | .owner => .login (ascii "login") ⟨[1], 200⟩

def oneByOne : List (Caller × Call) :=
  [(.first, {}), (.owner, {}), (.first, { hash := some (ascii "bcrypt") }), (.first, {}),
    (.first, {}), (.second, {})]

theorem password_reset_safe_three :
    Always (Processes.step (next asciiUnicode id presented three)) (fun w => Safe w.store)
      (start issuedReset session fun _ => none) oneByOne := by
  apply password_reset_safe
  refine .cons rfl trivial ?_
  refine .cons rfl ⟨fun j before hj => ?_, by rintro j _ _ _ ⟨⟩⟩ ?_
  · cases j with
    | first =>
      obtain rfl := Option.some.inj hj
      decide
    | second | owner => cases hj
  refine .cons rfl (fun _ _ _ => ⟨⟨_, rfl, rfl⟩, fun j => by cases j <;> decide⟩) ?_
  refine .cons rfl rfl ?_
  refine .cons rfl (by rintro ⟨⟩) ?_
  exact .cons rfl trivial trivial

theorem password_reset_safe_fails :
    ¬ Always
      (Processes.step (next asciiUnicode id presented fun _ : Unit => .reset .service newPassword))
      (fun w => Safe w.store) (start issuedReset session fun _ => none)
      [((), {}), ((), { hash := some (ascii "bcrypt") }), ((), {})] := by
  intro h
  have hrevoked := (h.last rfl).revoked () [1] session 0 List.mem_cons_self
  have hlive := hrevoked (ascii "session") ⟨[1], 100⟩ (by decide) rfl 0 le_rfl
  revert hlive
  decide

end Runs

end OmniTun.Auth.PasswordReset
