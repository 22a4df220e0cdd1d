import OmniTun.Auth.Mfa

/-! Whether every login of a user with a second factor asks for it. -/

namespace OmniTun.Auth.SecondFactor

open OmniTun.Foundation OmniTun.Foundation.Transition Identities Mfa Saml

section

variable (hmacSHA1 : Bytes → Bytes → Vector UInt8 20)

/-- Tokens of a user with MFA enabled were issued on a code that was valid then. -/
def Authorized : Event → Prop
  | .issued _ c code => c.mfaEnabled = true → ∃ secret mfaCode now, c.mfaSecret = some secret ∧
      code = some (mfaCode, now) ∧ validateTOTPCode hmacSHA1 secret mfaCode now = true
  | _ => True

def Enforced (s : State) : Prop := ∀ e ∈ s.history, Authorized hmacSHA1 e

end

def lookupOAuth (o : Outcome) (s : Store) (l : Login) : Option User :=
  (lookupByProvider o s l.info).or
    (if l.isOIDC ∧ l.info.email = [] then none else lookupByEmail o s l.info)

/-- No login through a provider to which tokens can be issued matches the row of a user with MFA
enabled. -/
def Allowed (s : State) : Operation → Prop
  | .oauth o l => o.tokensFail = false →
      ∀ u, lookupOAuth o s.db.store l = some u → (s.db.credentials u.id).mfaEnabled = false
  | .saml o user => o.issueFails = false →
      ∀ u, lookupSAML o s.db.store user = some u → (s.db.credentials u.id).mfaEnabled = false
  | _ => True

section Logins

variable {o : Outcome} {s s' : Store} {u : User} {r : Except LoginError User} {l : Login}

lemma lookupOAuth_mem (h : lookupOAuth o s l = some u) : u ∈ s.users := by
  rcases Option.or_eq_some_iff.mp h with h | ⟨-, h⟩
  · exact (lookupByProvider_some h).1
  · exact (lookupByEmail_some (Option.ite_none_left_eq_some.mp h).2).1

lemma lookupSAML_mem {o : ACSOutcome} {user : SAMLUser} (h : lookupSAML o s user = some u) :
    u ∈ s.users := by
  rcases Option.or_eq_some_iff.mp h with h | ⟨-, h⟩
  · exact List.mem_of_find?_eq_some (Option.ite_none_left_eq_some.mp h).2
  · exact List.mem_of_find?_eq_some (Option.ite_none_left_eq_some.mp h).2

structure Account (s : Store) (found : Option User) (r : Except LoginError User × Store) : Prop where
  matched : ∀ u, found = some u → r = (.ok u, s)
  created : found = none → Created s r.2 r.1

lemma Account.of_some (h : r = .ok u) : Account s (some u) (r, s) :=
  ⟨fun _ hu => by rw [h, Option.some.inj hu], by simp⟩

lemma Account.of_none {res : Except LoginError User × Store} (h : Created s res.2 res.1) :
    Account s none res :=
  ⟨by simp, fun _ => h⟩

lemma createAccount_created (info : OAuthUserInfo) :
    Created s (createAccount o s info).2 (createAccount o s info).1 := by
  rw [createAccount]
  exact createRows_created rfl

lemma findOrCreate_eq (o : Outcome) (s : Store) (l : Login) : l.findOrCreate o s =
    match lookupOAuth o s l with
    | some user => (.ok user, s)
    | none => createAccount o s l.info := by
  have hoauth : l.isOIDC = false → findOrCreateOAuthUser o s l.info =
      match lookupOAuth o s l with
      | some user => (.ok user, s)
      | none => createAccount o s l.info := by
    intro hl
    simp only [findOrCreateOAuthUser, lookupOAuth, hl, Bool.false_eq_true, false_and, if_false]
    cases lookupByProvider o s l.info with
    | some user => rfl
    | none => cases lookupByEmail o s l.info <;> rfl
  cases l with
  | github user emails => exact hoauth rfl
  | google user => exact hoauth rfl
  | oidc user =>
    have hinfo : (Login.oidc user).info = user.info := rfl
    have hemail : user.info.email = user.email := rfl
    simp only [Login.findOrCreate, findOrCreateOIDCUser, lookupOAuth, hinfo, hemail, Login.isOIDC,
      true_and]
    cases lookupByProvider o s user.info with
    | some user => rfl
    | none =>
      by_cases hempty : user.email = []
      · simp [hempty]
      · cases lookupByEmail o s user.info <;> simp [hempty]

lemma findOrCreate_account (o : Outcome) (s : Store) (l : Login) :
    Account s (lookupOAuth o s l) (l.findOrCreate o s) := by
  rw [findOrCreate_eq]
  cases lookupOAuth o s l with
  | some u => exact .of_some rfl
  | none => exact .of_none (createAccount_created l.info)

lemma findOrCreateSAMLUser_account (o : ACSOutcome) (s : Store) (user : SAMLUser) :
    Account s (lookupSAML o s user) (findOrCreateSAMLUser o s user) := by
  simp only [findOrCreateSAMLUser]
  cases lookupSAML o s user with
  | some u => exact .of_some rfl
  | none => exact .of_none (createRows_created rfl)

def withTokens (fails : Bool) (r : Except LoginError User × Store) :
    Except LoginError User × Store :=
  match r with
  | (.error err, s) => (.error err, s)
  | (.ok u, s) => if fails then (.error .tokens, s) else (.ok u, s)

lemma handle_eq (o : Outcome) (s : Store) (l : Login) :
    l.handle o s = withTokens o.tokensFail (l.findOrCreate o s) := by
  simp only [Login.handle]
  obtain ⟨_ | u, s'⟩ := l.findOrCreate o s <;> rfl

lemma loginSAML_eq (o : ACSOutcome) (s : Store) (user : SAMLUser) :
    loginSAML o s user = withTokens o.issueFails (findOrCreateSAMLUser o s user) := by
  simp only [loginSAML]
  obtain ⟨_ | u, s'⟩ := findOrCreateSAMLUser o s user <;> rfl

end Logins

section Runs

variable {hmacSHA1 : Bytes → Bytes → Vector UInt8 20} {checkPassword : Bytes → Bytes → Bool}
  {s : State} {found : Option User} {r : Except LoginError User × Store} {db : Database}
  {e : Event}

lemma enforced_cons : Enforced hmacSHA1 ⟨db, e :: s.history⟩ ↔
    Authorized hmacSHA1 e ∧ Enforced hmacSHA1 s := by
  simp [Enforced]

lemma authorized_without_code {user : User} {c : Credentials} :
    Authorized hmacSHA1 (.issued user c none) ↔ c.mfaEnabled = false := by
  simp [Authorized]

lemma issue_enforced_iff (hs : Enforced hmacSHA1 s) (ha : Account s.db.store found r)
    (hmem : ∀ u, found = some u → u ∈ s.db.store.users) (fails : Bool) :
    Enforced hmacSHA1 (issue s (withTokens fails r)) ↔
      (fails = false → ∀ u, found = some u → (s.db.credentials u.id).mfaEnabled = false) := by
  cases fails with
  | true =>
    obtain ⟨_ | u, s'⟩ := r
    · exact iff_of_true hs (by simp)
    · exact iff_of_true hs (by simp)
  | false =>
    cases found with
    | some u =>
      have hid : u.id ∈ s.db.ids := List.mem_map_of_mem (hmem u rfl)
      have hissue : issue s (withTokens false r) =
          ⟨s.db.inserted s.db.store, .issued u (s.db.credentials u.id) none :: s.history⟩ := by
        rw [ha.matched u rfl]
        simp only [withTokens, issue, Bool.false_eq_true, if_false, inserted_of_mem hid]
      rw [hissue, enforced_cons, authorized_without_code]
      simp [hs]
    | none =>
      refine iff_of_true ?_ (by simp)
      have hc := ha.created rfl
      obtain ⟨_ | u, s'⟩ := r
      · exact hs
      · -- the row of the new user has MFA off
        have hfresh : u.id ∉ s.db.ids := hc.fresh u rfl
        refine enforced_cons.mpr ⟨authorized_without_code.mpr ?_, hs⟩
        rw [inserted_of_notMem hfresh]

lemma perform_enforced_iff (hs : Enforced hmacSHA1 s) (a : Operation) :
    Enforced hmacSHA1 (perform hmacSHA1 checkPassword s a) ↔ Allowed s a := by
  cases a with
  | enroll o userID draw =>
    refine iff_of_true ?_ trivial
    simp only [perform]
    obtain ⟨_ | secret, db⟩ := enrollMFA o s.db userID draw
    · exact hs
    · exact enforced_cons.mpr ⟨trivial, hs⟩
  | verify o userID code now =>
    refine iff_of_true ?_ trivial
    simp only [perform]
    obtain ⟨_ | _ | _, db⟩ := verifyMFA hmacSHA1 o s.db userID code now
    · exact hs
    · exact hs
    · exact enforced_cons.mpr ⟨trivial, hs⟩
  | disable o userID =>
    refine iff_of_true ?_ trivial
    simp only [perform]
    obtain ⟨_ | _, db⟩ := disableMFA o s.db userID
    · exact hs
    · exact enforced_cons.mpr ⟨trivial, hs⟩
  | login o req now =>
    refine iff_of_true ?_ trivial
    cases h : login hmacSHA1 checkPassword o s.db req now with
    | error err => simpa only [perform, h] using hs
    | ok user =>
      simp only [perform, h]
      refine enforced_cons.mpr ⟨fun he => ?_, hs⟩
      obtain ⟨secret, hsecret, hv⟩ := checkSecondFactor_ok (login_ok h) he
      exact ⟨secret, req.mfaCode, now, hsecret, rfl, hv⟩
  | oauth o l =>
    simp only [perform, handle_eq]
    exact issue_enforced_iff hs (findOrCreate_account o s.db.store l) (fun _ => lookupOAuth_mem)
      o.tokensFail
  | saml o user =>
    simp only [perform, loginSAML_eq]
    exact issue_enforced_iff hs (findOrCreateSAMLUser_account o s.db.store user)
      (fun _ => lookupSAML_mem) o.issueFails

theorem second_factor_iff (hmacSHA1 : Bytes → Bytes → Vector UInt8 20)
    (checkPassword : Bytes → Bytes → Bool) (db : Database) (ops : List Operation) :
    Always (step hmacSHA1 checkPassword) (Enforced hmacSHA1) (start db) ops ↔
      Guarded (step hmacSHA1 checkPassword) Allowed (start db) ops := by
  apply always_iff_guarded_of_step
  · simp [Enforced, start]
  · intro s a t hs hstep
    obtain rfl := Option.some.inj hstep
    exact perform_enforced_iff hs a

def securedUser : Database where
  store := oneUser
  credentials _ :=
    { passwordHash := some (ascii "hash"), mfaEnabled := true, mfaSecret := some (ascii "GEZDGNBV") }

theorem second_factor_fails :
    ¬ Always (step (fun _ _ => digest) fun _ _ => true) (Enforced fun _ _ => digest)
      (start securedUser)
      [.oauth { organizationID := none, userID := none } (googleLogin (ascii "7") (ascii "a@x.dev"))] := by
  intro h
  have hevents := h.last (run_eq_foldl _)
  have hmem : Event.issued existingUser (securedUser.credentials [1]) none ∈
      (perform (fun _ _ => digest) (fun _ _ => true) (start securedUser)
        (.oauth { organizationID := none, userID := none }
          (googleLogin (ascii "7") (ascii "a@x.dev")))).history := by
    decide +kernel
  have henabled := authorized_without_code.mp (hevents _ hmem)
  cases henabled

end Runs

end OmniTun.Auth.SecondFactor
