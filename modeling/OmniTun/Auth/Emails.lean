import OmniTun.Auth.DirectoryEffects

/-! Whether an email names one account. -/

namespace OmniTun.Auth

open OmniTun.Foundation

def User.liveEmail (v : User) : Option Bytes := if v.deleted then none else some v.email

namespace Directory

open LabelledRows PasswordReset Saml Transition

def OneAccount (d : Directory) : Prop := Unambiguous User.id User.liveEmail d.db.store.users

def Owned (d : Directory) (email : Bytes) : Prop :=
  ∃ v ∈ d.db.store.users, v.liveEmail = some email

section

variable (u : Unicode) (hashPassword : Bytes → Option Bytes) (checkPassword : Bytes → Bytes → Bool)
  (hmacSHA1 : Bytes → Bytes → Vector UInt8 20) (hashToken : Bytes → Bytes)

def Conflicts (d : Directory) (a : Operation) : Prop :=
  match a with
  | .register o req => Owned d req.email →
      ∃ err, (register u hashPassword o d.db req).1 = .error err ∧ err.code = ascii "CONFLICT"
  | _ => True

def RefusesUser (d : Directory) (o : Outcome) (req : RegisterRequest) : Prop :=
  (∃ passwordHash, Registers u hashPassword req passwordHash) ∧
    InsertsOrganization o d.db.store (emailToSlug req.email) ∧ ¬ InsertsUser o d.db.store req.email

structure Spares (d : Directory) (a : Operation) : Prop where
  added : ∀ email, Adds u hashPassword d.db.store a email → ¬ Owned d email
  changed : ∀ st v, a.statement d.db.store = some st → st.Changes d.db.store v →
    ∀ email, (st.assignment.apply v).liveEmail = some email →
      ∀ w ∈ d.db.store.users, w.id ≠ st.id → w.liveEmail ≠ some email
  registered : ∀ o req, a = .register o req → Owned d req.email → RefusesUser u hashPassword d o req

end

section Steps

variable {u : Unicode} {hashPassword : Bytes → Option Bytes} {checkPassword : Bytes → Bytes → Bool}
  {hmacSHA1 : Bytes → Bytes → Vector UInt8 20} {hashToken : Bytes → Bytes} {d d' : Directory}
  {a : Operation} {s : Store} {email email' : Bytes} {v : User}

lemma liveEmail_eq_some : v.liveEmail = some email ↔ v.deleted = false ∧ v.email = email := by
  cases hdeleted : v.deleted <;> simp [User.liveEmail, hdeleted]

lemma findUserByEmail_of_mem (hd : OneAccount d) (hv : v ∈ d.db.store.users)
    (hemail : v.liveEmail = some email) : d.db.store.findUserByEmail email = some v := by
  obtain ⟨hlive, rfl⟩ := liveEmail_eq_some.mp hemail
  have hkey : ∀ w ∈ d.db.store.users, decide (w.email = v.email ∧ w.deleted = false) = true →
      w = v := by
    intro w hw hp
    obtain ⟨hsame, hwlive⟩ := of_decide_eq_true hp
    have hid := hd w hw v hv v.email (liveEmail_eq_some.mpr ⟨hwlive, hsame⟩) hemail
    exact List.inj_on_of_nodup_map d.db.store.keyed hw hv hid
  cases hfind : d.db.store.findUserByEmail v.email with
  | none =>
    have hnone := List.find?_eq_none.mp hfind v hv
    simp [hlive] at hnone
  | some w =>
    have hp := List.find?_some hfind
    rw [hkey w (List.mem_of_find?_eq_some hfind) (by simpa using hp)]

lemma adds_unique (h : Adds u hashPassword s a email) (h' : Adds u hashPassword s a email') :
    email = email' := by
  cases a with
  | register o req => exact h.1.trans h'.1.symm
  | oauth o l g => exact h.1.trans h'.1.symm
  | saml o user g => exact h.1.trans h'.1.symm
  | scimCreate o body =>
    obtain ⟨user, rfl, rfl, -⟩ := h
    obtain ⟨user', hbody, rfl, -⟩ := h'
    rw [Option.some.inj hbody]
  | _ => exact absurd h id

lemma spared_of_none (hadds : ∀ email, ¬ Adds u hashPassword s a email)
    (hchanges : ∀ st v, a.statement s = some st → ¬ st.Changes s v) {P : Bytes → Prop}
    {Q : Statement → User → Prop} :
    (∀ email, Adds u hashPassword s a email → P email) ∧
      ∀ st v, a.statement s = some st → st.Changes s v → Q st v :=
  ⟨fun email he => absurd he (hadds email), fun st v hst hv => absurd hv (hchanges st v hst)⟩

lemma oneAccount_iff (hd : OneAccount d) (h : Effect u hashPassword d a d') :
    OneAccount d' ↔ (∀ email, Adds u hashPassword d.db.store a email → ¬ Owned d email) ∧
      (∀ st v, a.statement d.db.store = some st → st.Changes d.db.store v →
        ∀ email, (st.assignment.apply v).liveEmail = some email →
          ∀ w ∈ d.db.store.users, w.id ≠ st.id → w.liveEmail ≠ some email) := by
  cases h with
  | same hadds hchanges hsame =>
    apply iff_of_true
    · rw [OneAccount, hsame.users]
      exact hd
    · exact spared_of_none hadds hchanges
  | @adds _ email user hadds hnone hadded =>
    rw [OneAccount, hadded.users, unambiguous_concat_iff hd hadded.fresh]
    have hlabel : user.liveEmail = some email := liveEmail_eq_some.mpr ⟨hadded.live, hadded.email⟩
    constructor
    · intro hfree
      refine ⟨fun email' he => ?_, by simp [hnone]⟩
      obtain rfl := adds_unique hadds he
      rintro ⟨v, hv, hlive⟩
      exact hfree email hlabel v hv hlive
    · rintro ⟨hfree, -⟩ email' he v hv hlive
      obtain rfl : email = email' := Option.some.inj (hlabel.symm.trans he)
      exact hfree email hadds ⟨v, hv, hlive⟩
  | @changes _ st v hst hv hadds hchanged =>
    obtain ⟨hmem, hid⟩ := Store.row_eq_some.mp hv.row
    have hiff := unambiguous_update_iff hd d.db.store.keyed hmem hid
      (f := st.assignment.apply) hid
    rw [OneAccount, hchanged.store]
    refine hiff.trans ?_
    constructor
    · intro hfree
      refine ⟨fun email he => absurd he (hadds email), fun st' v' hst' hv' => ?_⟩
      obtain rfl := Option.some.inj (hst.symm.trans hst')
      obtain rfl := Option.some.inj (hv.row.symm.trans hv'.row)
      exact hfree
    · rintro ⟨-, hfree⟩
      exact hfree st v hst hv
  | ignores hadds hchanges hrow =>
    exact iff_of_true hd (spared_of_none hadds hchanges)
  | freezes hadds hnone horg hid =>
    exact iff_of_true hd (spared_of_none hadds (by simp [hnone]))

lemma conflict_iff (o : Outcome) (req : RegisterRequest) :
    (∃ err, (register u hashPassword o d.db req).1 = .error err ∧ err.code = ascii "CONFLICT") ↔
      RefusesUser u hashPassword d o req := by
  have hregistered := register_registered u hashPassword o d.db req
  generalize register u hashPassword o d.db req = r at hregistered ⊢
  cases hregistered with
  | refused h hcode =>
    apply iff_of_false
    · rintro ⟨_, ⟨rfl⟩, hconflict⟩
      exact hcode hconflict
    · rintro ⟨⟨passwordHash, hreg⟩, -⟩
      exact h passwordHash hreg
  | noOrganization h horg =>
    apply iff_of_false
    · rintro ⟨_, ⟨rfl⟩, hconflict⟩
      revert hconflict
      decide
    · rintro ⟨-, horg', -⟩
      exact horg horg'
  | noUser h horg huser hs hu =>
    apply iff_of_true
    · exact ⟨_, rfl, rfl⟩
    · exact ⟨⟨_, h⟩, horg, huser⟩
  | both h horg huser hs hu hfree hrow =>
    apply iff_of_false
    · rintro ⟨_, ⟨⟩, -⟩
    · rintro ⟨-, -, huser'⟩
      exact huser' huser

lemma conflicts_iff : Conflicts u hashPassword d a ↔
    ∀ o req, a = .register o req → Owned d req.email → RefusesUser u hashPassword d o req := by
  cases a with
  | register o req =>
    simp only [Conflicts, conflict_iff]
    constructor
    · rintro h _ _ ⟨⟩
      exact h
    · exact fun h => h o req rfl
  | _ => exact iff_of_true trivial (by rintro _ _ ⟨⟩)

theorem emails_unique_iff (u : Unicode) (hashPassword : Bytes → Option Bytes)
    (checkPassword : Bytes → Bytes → Bool) (hmacSHA1 : Bytes → Bytes → Vector UInt8 20)
    (hashToken : Bytes → Bytes) (ops : List Operation) :
    Always (step u hashPassword checkPassword hmacSHA1 hashToken) OneAccount start ops ∧
      Guarded (step u hashPassword checkPassword hmacSHA1 hashToken) (Conflicts u hashPassword)
        start ops ↔
    Guarded (step u hashPassword checkPassword hmacSHA1 hashToken) (Spares u hashPassword)
      start ops := by
  apply always_and_guarded_iff
  · exact unambiguous_nil
  · intro d a t hd hstep
    obtain rfl := Option.some.inj hstep
    rw [oneAccount_iff hd (perform_effect d a), conflicts_iff]
    constructor
    · rintro ⟨⟨hadded, hchanged⟩, hregistered⟩
      exact ⟨hadded, hchanged, hregistered⟩
    · rintro ⟨hadded, hchanged, hregistered⟩
      exact ⟨⟨hadded, hchanged⟩, hregistered⟩

end Steps

def drawn (n : UInt8) : Outcome := { organizationID := some [n], userID := some [n] }

def registeredAgain : List Operation :=
  [.oauth (drawn 1) (.google ⟨ascii "7", ascii "a_b@x.dev", [], []⟩) ⟨ascii "r", 0, false⟩,
    .register (drawn 2) ⟨ascii "a_b@x.dev", newPassword, []⟩]

def registeredTwice : Directory := registeredAgain.foldl
  (perform asciiUnicode some (fun _ _ => true) (fun _ _ => Vector.replicate 20 0) id) start

lemma exists_live {d : Directory} {id email : Bytes}
    (h : (d.db.store.row id).bind User.liveEmail = some email) :
    ∃ v ∈ d.db.store.users, v.id = id ∧ v.liveEmail = some email := by
  obtain ⟨v, hrow, hlive⟩ := Option.bind_eq_some_iff.mp h
  obtain ⟨hv, hid⟩ := Store.row_eq_some.mp hrow
  exact ⟨v, hv, hid, hlive⟩

theorem emails_unique_fails :
    ¬ (Always (step asciiUnicode some (fun _ _ => true) (fun _ _ => Vector.replicate 20 0) id)
        OneAccount start registeredAgain ∧
      Guarded (step asciiUnicode some (fun _ _ => true) (fun _ _ => Vector.replicate 20 0) id)
        (Conflicts asciiUnicode some) start registeredAgain) := by
  rintro ⟨h, -⟩
  have hone : OneAccount registeredTwice := h.last rfl
  have hfirst : (registeredTwice.db.store.row [1]).bind User.liveEmail =
      some (ascii "a_b@x.dev") := by
    decide +kernel
  have hsecond : (registeredTwice.db.store.row [2]).bind User.liveEmail =
      some (ascii "a_b@x.dev") := by
    decide +kernel
  obtain ⟨v, hv, hid, hlive⟩ := exists_live hfirst
  obtain ⟨w, hw, hid', hlive'⟩ := exists_live hsecond
  have hsame := hone v hv w hw _ hlive hlive'
  rw [hid, hid'] at hsame
  cases hsame

end Directory

end OmniTun.Auth
