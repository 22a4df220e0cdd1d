import OmniTun.Auth.Service
import OmniTun.Foundation.Processes
import OmniTun.Foundation.Table

/-! Requests that present one refresh token, each a sequence of calls of the repository. -/

namespace OmniTun.Auth.RefreshTokens

open OmniTun.Foundation OmniTun.Foundation.Transition OmniTun.Foundation.Processes

structure RefreshTokenRecord where
  userID : Bytes
  expiresAt : ℤ
  deriving DecidableEq

structure RefreshResponse where
  accessToken : Bytes
  refreshToken : Bytes
  deriving DecidableEq

inductive Request
  | refresh
  | logout
  deriving DecidableEq, Repr

inductive Local
  | received
  | found (record : RefreshTokenRecord)
  | identified (user : User)
  | deleted (user : User) (newToken : Bytes) (expiry : ℤ)
  | stored (newToken : Bytes)
  | refreshed (result : Except AppError RefreshResponse)
  | loggedOut

inductive Event (ι : Type*)
  | refreshed (i : ι)
  | loggedOut (i : ι)

/-- The tokens by their hashes, and which requests have returned new tokens or have logged out, the
last one first. -/
structure Store (ι : Type*) where
  tokens : Table Bytes RefreshTokenRecord
  events : List (Event ι)

structure Call where
  now : ℤ := 0
  fails : Bool := false
  draw : Option Bytes := none
  access : Option Bytes := none

def refreshLifetime : ℤ := 30 * 24 * 3600 * 10 ^ 9

variable {ι : Type*}

def Store.getRefreshToken (s : Store ι) (tokenHash : Bytes) (now : ℤ) :
    Option RefreshTokenRecord :=
  (s.tokens.lookup tokenHash).filter fun r => now < r.expiresAt

def Store.deleteRefreshToken (s : Store ι) (tokenHash : Bytes) : Store ι :=
  { s with tokens := s.tokens.erase tokenHash }

def Store.storeRefreshToken (s : Store ι) (tokenHash : Bytes) (r : RefreshTokenRecord) :
    Option (Store ι) :=
  if s.tokens.lookup tokenHash = none then some { s with tokens := s.tokens.insert tokenHash r }
  else none

section

variable (hashToken : Bytes → Bytes) (users : Bytes → Option User) (token : Bytes)
  (request : ι → Request)

/-- `RefreshToken` and `Logout`, call by call; `users` is `GetUserByID`. -/
def next (i : ι) (c : Call) : Local → Store ι → Option (Local × Store ι)
  | .received, s =>
    match request i with
    | .refresh =>
      match if c.fails then none else s.getRefreshToken (hashToken token) c.now with
      | none => some (.refreshed (.error (.unauthorized "invalid or expired refresh token")), s)
      | some record => some (.found record, s)
    | .logout =>
      -- a failure to delete is only logged
      let s' := if c.fails then s else s.deleteRefreshToken (hashToken token)
      some (.loggedOut, { s' with events := .loggedOut i :: s'.events })
  | .found record, s =>
    match if c.fails then none else users record.userID with
    | none => some (.refreshed (.error (.unauthorized "user not found")), s)
    | some user => some (.identified user, s)
  | .identified user, s =>
    match c.draw with
    | none => some (.refreshed (.error (.internal "failed to generate refresh token")), s)
    | some newToken =>
      if c.fails then some (.refreshed (.error (.internal "failed to rotate refresh token")), s)
      else
        some (.deleted user newToken (c.now + refreshLifetime),
          s.deleteRefreshToken (hashToken token))
  | .deleted user newToken expiry, s =>
    match if c.fails then none
      else s.storeRefreshToken (hashToken newToken) ⟨user.id, expiry⟩ with
    | none => some (.refreshed (.error (.internal "failed to store new refresh token")), s)
    | some s => some (.stored newToken, s)
  | .stored newToken, s =>
    match c.access with
    | none => some (.refreshed (.error (.internal "failed to generate access token")), s)
    | some access =>
      some (.refreshed (.ok ⟨access, newToken⟩), { s with events := .refreshed i :: s.events })
  | .refreshed _, _ => none
  | .loggedOut, _ => none

end

def start (tokens : Table Bytes RefreshTokenRecord) : World ι Local (Store ι) :=
  ⟨fun _ => .received, tokens, []⟩

def Event.isRefresh : Event ι → Bool
  | .refreshed _ => true
  | .loggedOut _ => false

/-- At most one request has returned new tokens, and none after a logout. -/
structure SingleUse (s : Store ι) : Prop where
  once : (s.events.filter Event.isRefresh).length ≤ 1
  revoked : ∀ later i earlier, s.events = later ++ .refreshed i :: earlier →
    ∀ j, .loggedOut j ∉ earlier

def Local.rotating : Local → Bool
  | .deleted .. | .stored _ => true
  | _ => false

/-- A refresh deletes the token while its row is stored and does not draw it again. A logout deletes
it, and no request is rotating meanwhile. -/
def Serial (hashToken : Bytes → Bytes) (token : Bytes) (request : ι → Request)
    (w : World ι Local (Store ι)) (a : ι × Call) : Prop :=
  match w.locals a.1, request a.1 with
  | .received, .logout => a.2.fails = false ∧ ∀ j, (w.locals j).rotating = false
  | .identified _, _ => a.2.fails = false → ∀ newToken, a.2.draw = some newToken →
      w.store.tokens.lookup (hashToken token) ≠ none ∧ hashToken newToken ≠ hashToken token
  | _, _ => True

def Local.past : Local → Bool
  | .deleted .. | .stored _ | .refreshed (.ok _) => true
  | _ => false

structure Invariant (hashToken : Bytes → Bytes) (token : Bytes) (w : World ι Local (Store ι)) :
    Prop where
  single : SingleUse w.store
  gone : (∃ i, (w.locals i).past = true) ∨ w.store.events ≠ [] →
    w.store.tokens.lookup (hashToken token) = none
  unique : ∀ i j, (w.locals i).past = true → (w.locals j).past = true → i = j
  quiet : ∀ i, (w.locals i).rotating = true → w.store.events = []
  distinct : ∀ i user newToken expiry, w.locals i = .deleted user newToken expiry →
    hashToken newToken ≠ hashToken token

section Steps

variable {hashToken : Bytes → Bytes} {users : Bytes → Option User} {token : Bytes}
  {request : ι → Request} {i : ι} {c : Call} {l l' : Local} {s s' : Store ι}

lemma past_of_rotating (h : l.rotating = true) : l.past = true := by
  cases l <;> simp_all [Local.rotating, Local.past]

lemma next_cases (h : next hashToken users token request i c l s = some (l', s')) :
    (s' = s ∧ l'.past = false) ∨
    (∃ user newToken expiry, l = .identified user ∧ l' = .deleted user newToken expiry ∧
      c.fails = false ∧ c.draw = some newToken ∧ s' = s.deleteRefreshToken (hashToken token)) ∨
    (∃ user newToken expiry, l = .deleted user newToken expiry ∧ l' = .stored newToken ∧
      s.storeRefreshToken (hashToken newToken) ⟨user.id, expiry⟩ = some s') ∨
    (∃ newToken r, l = .stored newToken ∧ l' = .refreshed (.ok r) ∧
      s' = { s with events := .refreshed i :: s.events }) ∨
    (l = .received ∧ request i = .logout ∧ l' = .loggedOut ∧ (c.fails = false →
      s' = ⟨s.tokens.erase (hashToken token), .loggedOut i :: s.events⟩)) := by
  cases l with
  | received =>
    simp only [next] at h
    cases hr : request i with
    | refresh =>
      refine .inl ?_
      simp only [hr] at h
      split at h <;> obtain ⟨rfl, rfl⟩ := Prod.mk.inj (Option.some.inj h) <;> exact ⟨rfl, rfl⟩
    | logout =>
      simp only [hr, Option.some.injEq, Prod.mk.injEq] at h
      obtain ⟨rfl, rfl⟩ := h
      refine .inr (.inr (.inr (.inr ⟨rfl, rfl, rfl, fun hf => ?_⟩)))
      simp [hf, Store.deleteRefreshToken]
  | found record =>
    refine .inl ?_
    simp only [next] at h
    split at h <;> obtain ⟨rfl, rfl⟩ := Prod.mk.inj (Option.some.inj h) <;> exact ⟨rfl, rfl⟩
  | identified user =>
    simp only [next] at h
    cases hd : c.draw with
    | none =>
      simp only [hd, Option.some.injEq, Prod.mk.injEq] at h
      obtain ⟨rfl, rfl⟩ := h
      exact .inl ⟨rfl, rfl⟩
    | some newToken =>
      cases hf : c.fails with
      | true =>
        simp only [hd, hf, if_true, Option.some.injEq, Prod.mk.injEq] at h
        obtain ⟨rfl, rfl⟩ := h
        exact .inl ⟨rfl, rfl⟩
      | false =>
        simp only [hd, hf, Bool.false_eq_true, if_false, Option.some.injEq, Prod.mk.injEq] at h
        obtain ⟨rfl, rfl⟩ := h
        exact .inr (.inl ⟨user, newToken, _, rfl, rfl, rfl, rfl, rfl⟩)
  | deleted user newToken expiry =>
    simp only [next] at h
    split at h
    · obtain ⟨rfl, rfl⟩ := Prod.mk.inj (Option.some.inj h)
      exact .inl ⟨rfl, rfl⟩
    next s₁ hs₁ =>
      obtain ⟨rfl, rfl⟩ := Prod.mk.inj (Option.some.inj h)
      exact .inr (.inr (.inl ⟨user, newToken, expiry, rfl, rfl,
        (Option.ite_none_left_eq_some.mp hs₁).2⟩))
  | stored newToken =>
    simp only [next] at h
    split at h <;> obtain ⟨rfl, rfl⟩ := Prod.mk.inj (Option.some.inj h)
    · exact .inl ⟨rfl, rfl⟩
    · exact .inr (.inr (.inr (.inl ⟨newToken, _, rfl, rfl, rfl⟩)))
  | refreshed result => cases h
  | loggedOut => cases h

lemma singleUse_singleton (tokens : Table Bytes RefreshTokenRecord) :
    SingleUse ⟨tokens, [.refreshed i]⟩ where
  once := List.length_filter_le _ _
  revoked later k earlier h j := by
    cases later with
    | nil =>
      obtain ⟨-, rfl⟩ := List.cons.inj h
      simp
    | cons e later =>
      have hlen := congrArg List.length h
      simp at hlen

lemma singleUse_loggedOut {tokens : Table Bytes RefreshTokenRecord} (hs : SingleUse s) :
    SingleUse ⟨tokens, .loggedOut i :: s.events⟩ where
  once := by simpa [Event.isRefresh] using hs.once
  revoked later k earlier h := by
    cases later with
    | nil => cases h
    | cons e later => exact hs.revoked later k earlier (List.cons.inj h).2

end Steps

section Worlds

variable [DecidableEq ι] {hashToken : Bytes → Bytes} {users : Bytes → Option User} {token : Bytes}
  {request : ι → Request} {i j : ι} {c : Call} {l' : Local} {s' : Store ι}
  {w : World ι Local (Store ι)}

lemma past_update (h : (Function.update w.locals i l' j).past = true) :
    (j = i ∧ l'.past = true) ∨ (j ≠ i ∧ (w.locals j).past = true) :=
  update_cases (fun l : Local => l.past = true) h

lemma rotating_update (h : (Function.update w.locals i l' j).rotating = true) :
    (j = i ∧ l'.rotating = true) ∨ (j ≠ i ∧ (w.locals j).rotating = true) :=
  update_cases (fun l : Local => l.rotating = true) h

lemma past_of_update (hp : (w.locals i).past = true)
    (h : (Function.update w.locals i l' j).past = true) : (w.locals j).past = true := by
  rcases past_update h with ⟨rfl, -⟩ | ⟨-, hj⟩
  · exact hp
  · exact hj

lemma distinct_update (hw : Invariant hashToken token w)
    (hl : ∀ user newToken expiry, l' = .deleted user newToken expiry →
      hashToken newToken ≠ hashToken token) (j : ι) (user : User) (newToken : Bytes) (expiry : ℤ)
    (hj : Function.update w.locals i l' j = .deleted user newToken expiry) :
    hashToken newToken ≠ hashToken token := by
  rcases update_cases (· = Local.deleted user newToken expiry) hj with ⟨-, he⟩ | ⟨-, he⟩
  · exact hl user newToken expiry he
  · exact hw.distinct j user newToken expiry he

lemma invariant_unpast (hw : Invariant hashToken token w) (hl : l'.past = false) :
    Invariant hashToken token ⟨Function.update w.locals i l', w.store⟩ where
  single := hw.single
  gone := by
    rintro (⟨j, hj⟩ | he)
    · rcases past_update hj with ⟨-, hp⟩ | ⟨-, hp⟩
      · simp [hl] at hp
      · exact hw.gone (.inl ⟨j, hp⟩)
    · exact hw.gone (.inr he)
  unique j k hj hk := by
    rcases past_update hj with ⟨-, hp⟩ | ⟨-, hp⟩
    · simp [hl] at hp
    · rcases past_update hk with ⟨-, hq⟩ | ⟨-, hq⟩
      · simp [hl] at hq
      · exact hw.unique j k hp hq
  quiet j hj := by
    rcases rotating_update hj with ⟨-, hp⟩ | ⟨-, hp⟩
    · simp [past_of_rotating hp] at hl
    · exact hw.quiet j hp
  distinct := distinct_update hw fun _ _ _ he => by simp [he, Local.past] at hl

lemma invariant_deleted {user : User} {newToken : Bytes} {expiry : ℤ}
    (hw : Invariant hashToken token w)
    (hstored : w.store.tokens.lookup (hashToken token) ≠ none)
    (hne : hashToken newToken ≠ hashToken token) :
    Invariant hashToken token ⟨Function.update w.locals i (.deleted user newToken expiry),
      w.store.deleteRefreshToken (hashToken token)⟩ := by
  -- the row is still there, so nobody has deleted it and nothing has happened
  have hnone : ∀ j, (w.locals j).past ≠ true := fun j hj => hstored (hw.gone (.inl ⟨j, hj⟩))
  have hevents : w.store.events = [] := by
    by_contra he
    exact hstored (hw.gone (.inr he))
  have honly : ∀ j, (Function.update w.locals i (.deleted user newToken expiry) j).past = true →
      j = i := by
    intro j hj
    rcases past_update hj with ⟨hji, -⟩ | ⟨-, hp⟩
    · exact hji
    · exact absurd hp (hnone j)
  constructor
  · exact ⟨hw.single.once, hw.single.revoked⟩
  · intro _
    exact Finmap.lookup_erase _ _
  · intro j k hj hk
    rw [honly j hj, honly k hk]
  · intro _ _
    exact hevents
  · apply distinct_update hw
    rintro _ _ _ ⟨rfl⟩
    exact hne

lemma invariant_stored {user : User} {newToken : Bytes} {expiry : ℤ}
    (hw : Invariant hashToken token w) (hl : w.locals i = .deleted user newToken expiry)
    (hs : w.store.storeRefreshToken (hashToken newToken) ⟨user.id, expiry⟩ = some s') :
    Invariant hashToken token ⟨Function.update w.locals i (.stored newToken), s'⟩ := by
  have hne := hw.distinct i user newToken expiry hl
  obtain ⟨-, hs⟩ := Option.ite_none_right_eq_some.mp hs
  obtain rfl := Option.some.inj hs
  have hpast : (w.locals i).past = true := by
    rw [hl]
    rfl
  constructor
  · exact ⟨hw.single.once, hw.single.revoked⟩
  · intro h
    rw [Table.lookup_insert, if_neg hne.symm]
    exact hw.gone (h.imp_left fun ⟨j, hj⟩ => ⟨j, past_of_update hpast hj⟩)
  · exact fun j k hj hk => hw.unique j k (past_of_update hpast hj) (past_of_update hpast hk)
  · intro j hj
    rcases rotating_update hj with ⟨rfl, -⟩ | ⟨-, hp⟩
    · exact hw.quiet j (by rw [hl]; rfl)
    · exact hw.quiet j hp
  · exact distinct_update hw (by simp)

lemma invariant_refreshed {newToken : Bytes} {r : RefreshResponse}
    (hw : Invariant hashToken token w) (hl : w.locals i = .stored newToken) :
    Invariant hashToken token ⟨Function.update w.locals i (.refreshed (.ok r)),
      { w.store with events := .refreshed i :: w.store.events }⟩ := by
  have hrot : (w.locals i).rotating = true := by
    rw [hl]
    rfl
  have hpast := past_of_rotating hrot
  constructor
  · rw [hw.quiet i hrot]
    exact singleUse_singleton _
  · exact fun _ => hw.gone (.inl ⟨i, hpast⟩)
  · exact fun j k hj hk => hw.unique j k (past_of_update hpast hj) (past_of_update hpast hk)
  · intro j hj
    rcases rotating_update hj with ⟨-, hp⟩ | ⟨hji, hp⟩
    · cases hp
    · exact absurd (hw.unique j i (past_of_rotating hp) hpast) hji
  · exact distinct_update hw (by simp)

lemma invariant_loggedOut (hw : Invariant hashToken token w)
    (hrot : ∀ j, (w.locals j).rotating = false) :
    Invariant hashToken token ⟨Function.update w.locals i .loggedOut,
      ⟨w.store.tokens.erase (hashToken token), .loggedOut i :: w.store.events⟩⟩ where
  single := singleUse_loggedOut hw.single
  gone _ := Finmap.lookup_erase _ _
  unique := (invariant_unpast hw (show Local.loggedOut.past = false from rfl)).unique
  quiet j hj := by
    rcases rotating_update hj with ⟨-, hp⟩ | ⟨-, hp⟩
    · cases hp
    · simp [hrot j] at hp
  distinct := (invariant_unpast hw (show Local.loggedOut.past = false from rfl)).distinct

lemma invariant_step {a : ι × Call} {w' : World ι Local (Store ι)}
    (hw : Invariant hashToken token w) (hg : Serial hashToken token request w a)
    (h : Processes.step (next hashToken users token request) w a = some w') :
    Invariant hashToken token w' := by
  obtain ⟨i, c⟩ := a
  obtain ⟨l', s', hnext, rfl⟩ := step_eq_some h
  rcases next_cases hnext with ⟨rfl, hl'⟩ | ⟨user, newToken, expiry, hl, rfl, hf, hd, rfl⟩ |
    ⟨user, newToken, expiry, hl, rfl, hs⟩ | ⟨newToken, r, hl, rfl, rfl⟩ | ⟨hl, hr, rfl, hs⟩
  · exact invariant_unpast hw hl'
  · simp only [Serial, hl] at hg
    obtain ⟨hstored, hne⟩ := hg hf newToken hd
    exact invariant_deleted hw hstored hne
  · exact invariant_stored hw hl hs
  · exact invariant_refreshed hw hl
  · simp only [Serial, hl, hr] at hg
    rw [hs hg.1]
    exact invariant_loggedOut hw hg.2

theorem refresh_single_use (hashToken : Bytes → Bytes) (users : Bytes → Option User) (token : Bytes)
    (request : ι → Request) (tokens : Table Bytes RefreshTokenRecord) (steps : List (ι × Call))
    (hserial : Guarded (Processes.step (next hashToken users token request))
      (Serial hashToken token request) (start tokens) steps) :
    Always (Processes.step (next hashToken users token request)) (fun w => SingleUse w.store)
      (start tokens) steps := by
  have hstart : Invariant hashToken token (start (ι := ι) tokens) := by
    constructor
    · exact ⟨by simp [start], by simp [start]⟩
    all_goals simp [start, Local.past, Local.rotating]
  apply Always.mono (P := Invariant hashToken token)
  · exact always_of_guarded hstart hserial fun w a w' hw hg h => invariant_step hw hg h
  · exact fun w hw => hw.single

end Worlds

section Runs

def presented : Bytes := ascii "old"

def storedToken : Table Bytes RefreshTokenRecord := (∅ : Table Bytes RefreshTokenRecord).insert
  presented ⟨[1], 100⟩

def account (id : Bytes) : Option User := Saml.oneUser.users.find? fun u => u.id = id

def three : Fin 3 → Request
  | 0 | 1 => .refresh
  | 2 => .logout

def oneByOne : List (Fin 3 × Call) :=
  [(0, {}), (0, {}), (0, { draw := some (ascii "new") }), (1, {}), (0, {}),
    (0, { access := some (ascii "jwt") }), (2, {})]

theorem refresh_single_use_three :
    Always (Processes.step (next id account presented three)) (fun w => SingleUse w.store)
      (start storedToken) oneByOne := by
  apply refresh_single_use
  refine .cons rfl trivial ?_
  refine .cons rfl trivial ?_
  refine .cons rfl ?_ ?_
  · rintro _ newToken ⟨rfl⟩
    exact ⟨by decide, by decide⟩
  refine .cons rfl trivial ?_
  refine .cons rfl trivial ?_
  refine .cons rfl trivial ?_
  exact .cons rfl ⟨rfl, by decide⟩ trivial

def interleaved : List (Bool × Call) :=
  [(false, {}), (true, {}), (false, {}), (true, {}), (false, { draw := some (ascii "a") }),
    (true, { draw := some (ascii "b") }), (false, {}), (true, {}),
    (false, { access := some (ascii "x") }), (true, { access := some (ascii "y") })]

theorem refresh_single_use_fails :
    ¬ Always (Processes.step (next id account presented fun _ : Bool => .refresh))
      (fun w => SingleUse w.store) (start storedToken) interleaved := by
  intro h
  have hs := h.last rfl
  exact absurd hs.once (by decide +kernel)

end Runs

end OmniTun.Auth.RefreshTokens
