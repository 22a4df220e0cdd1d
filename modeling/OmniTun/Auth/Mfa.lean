import OmniTun.Auth.Identities
import OmniTun.Auth.Service
import OmniTun.Foundation.Transition

/-! The second factor over runs of the service. -/

namespace OmniTun.Auth.Mfa

open OmniTun.Foundation OmniTun.Foundation.Transition Saml

/-- What operations have done. Tokens are issued with the columns as they were then and with the code
that the request carried, and when. -/
inductive Event
  | enrolled (userID secret : Bytes)
  | verified (userID : Bytes)
  | disabled (userID : Bytes)
  | issued (user : User) (credentials : Credentials) (code : Option (Bytes × ℕ))
  deriving DecidableEq

structure State where
  db : Database
  history : List Event

inductive Operation
  | enroll (o : ServiceOutcome) (userID : Option Bytes) (draw : Option (Vector UInt8 20))
  | verify (o : ServiceOutcome) (userID : Option Bytes) (code : Bytes) (now : ℕ)
  | disable (o : ServiceOutcome) (userID : Option Bytes)
  | login (o : ServiceOutcome) (req : LoginRequest) (now : ℕ)
  | oauth (o : Outcome) (l : Login)
  | saml (o : ACSOutcome) (user : SAMLUser)

def issue (s : State) (r : Except LoginError User × Store) : State :=
  let db := s.db.inserted r.2
  match r.1 with
  | .error _ => ⟨db, s.history⟩
  | .ok user => ⟨db, .issued user (db.credentials user.id) none :: s.history⟩

section

variable (hmacSHA1 : Bytes → Bytes → Vector UInt8 20) (checkPassword : Bytes → Bytes → Bool)

def perform (s : State) : Operation → State
  | .enroll o userID draw =>
    match enrollMFA o s.db userID draw with
    | (.error _, db) => ⟨db, s.history⟩
    | (.ok secret, db) => ⟨db, .enrolled (userID.getD []) secret :: s.history⟩
  | .verify o userID code now =>
    match verifyMFA hmacSHA1 o s.db userID code now with
    | (.ok true, db) => ⟨db, .verified (userID.getD []) :: s.history⟩
    | (_, db) => ⟨db, s.history⟩
  | .disable o userID =>
    match disableMFA o s.db userID with
    | (.error _, db) => ⟨db, s.history⟩
    | (.ok (), db) => ⟨db, .disabled (userID.getD []) :: s.history⟩
  | .login o req now =>
    match login hmacSHA1 checkPassword o s.db req now with
    | .error _ => s
    | .ok user =>
      ⟨s.db, .issued user (s.db.credentials user.id) (some (req.mfaCode, now)) :: s.history⟩
  | .oauth o l => issue s (l.handle o s.db.store)
  | .saml o user => issue s (loginSAML o s.db.store user)

def step (s : State) (a : Operation) : Option State := some (perform hmacSHA1 checkPassword s a)

end

def start (db : Database) : State := ⟨db, []⟩

def initial (store : Store) (passwordHash : Bytes → Option Bytes) : Database where
  store := store
  credentials id := { passwordHash := passwordHash id }

def sinceDisable (id : Bytes) (history : List Event) : List Event :=
  history.takeWhile (· ≠ .disabled id)

structure Sound (s : State) : Prop where
  stays : ∀ id, .verified id ∈ sinceDisable id s.history → (s.db.credentials id).mfaEnabled = true
  generated : ∀ id, (s.db.credentials id).mfaEnabled = true →
    ∃ secret, (s.db.credentials id).mfaSecret = some secret ∧
      .enrolled id secret ∈ sinceDisable id s.history

/-- No user who has MFA enabled enrols, and no code of the empty secret is verified. -/
def Allowed (hmacSHA1 : Bytes → Bytes → Vector UInt8 20) (s : State) : Operation → Prop
  | .enroll o userID draw => ∀ user, currentUser o s.db userID = .ok user → draw ≠ none →
      o.updateFails = false → (s.db.credentials user.id).mfaEnabled = false
  | .verify o userID code now => ∀ user, currentUser o s.db userID = .ok user →
      validateTOTPCode hmacSHA1 [] code now = true → o.updateFails = false →
        (s.db.credentials user.id).mfaSecret ≠ some []
  | _ => True

structure Tracked (s : State) : Prop where
  known : ∀ id, .verified id ∈ s.history → id ∈ s.db.ids
  enabled : ∀ id, (s.db.credentials id).mfaEnabled = true →
    .verified id ∈ sinceDisable id s.history
  stored : ∀ id secret, (s.db.credentials id).mfaSecret = some secret →
    secret = [] ∨ .enrolled id secret ∈ sinceDisable id s.history
  nonempty : ∀ id secret, .enrolled id secret ∈ s.history → secret ≠ []

section History

variable {id id' : Bytes} {e x : Event} {history : List Event}

lemma mem_sinceDisable_cons :
    x ∈ sinceDisable id (e :: history) ↔
      e ≠ .disabled id ∧ (x = e ∨ x ∈ sinceDisable id history) := by
  by_cases h : e = .disabled id <;> simp [sinceDisable, h]

lemma mem_of_mem_sinceDisable (h : x ∈ sinceDisable id history) : x ∈ history :=
  (List.takeWhile_prefix _).subset h

end History

section Columns

variable {db : Database} {id id' secret : Bytes} {enabled : Bool} {store : Store}

@[simp] lemma updateMFA_ids : (db.updateMFA id enabled secret).ids = db.ids := rfl

lemma updateMFA_self : (db.updateMFA id enabled secret).credentials id =
    { db.credentials id with mfaEnabled := enabled, mfaSecret := some secret } :=
  Function.update_self ..

lemma updateMFA_of_ne (h : id' ≠ id) :
    (db.updateMFA id enabled secret).credentials id' = db.credentials id' :=
  Function.update_of_ne h ..

lemma inserted_of_mem (h : id ∈ db.ids) : (db.inserted store).credentials id = db.credentials id :=
  if_pos h

lemma inserted_of_notMem (h : id ∉ db.ids) : (db.inserted store).credentials id = {} := if_neg h

end Columns

section Steps

variable {s : State} {id secret : Bytes} {e : Event}

lemma Sound.generated_cons (hs : Sound s) (hne : e ≠ .disabled id)
    (h : (s.db.credentials id).mfaEnabled = true) :
    ∃ secret, (s.db.credentials id).mfaSecret = some secret ∧
      .enrolled id secret ∈ sinceDisable id (e :: s.history) := by
  obtain ⟨secret, hsecret, hmem⟩ := hs.generated id h
  exact ⟨secret, hsecret, mem_sinceDisable_cons.mpr ⟨hne, .inr hmem⟩⟩

lemma Tracked.enabled_cons (ht : Tracked s) (hne : e ≠ .disabled id)
    (h : (s.db.credentials id).mfaEnabled = true) :
    .verified id ∈ sinceDisable id (e :: s.history) :=
  mem_sinceDisable_cons.mpr ⟨hne, .inr (ht.enabled id h)⟩

lemma Tracked.stored_cons (ht : Tracked s) (hne : e ≠ .disabled id)
    (h : (s.db.credentials id).mfaSecret = some secret) :
    secret = [] ∨ .enrolled id secret ∈ sinceDisable id (e :: s.history) :=
  (ht.stored id secret h).imp_right fun h => mem_sinceDisable_cons.mpr ⟨hne, .inr h⟩

lemma enrolled_sound_iff (hs : Sound s) (ht : Tracked s) :
    Sound ⟨s.db.updateMFA id false secret, .enrolled id secret :: s.history⟩ ↔
      (s.db.credentials id).mfaEnabled = false := by
  constructor
  · intro h
    by_contra he
    have hv := ht.enabled id (Bool.eq_true_of_not_eq_false he)
    have hstays := h.stays id (mem_sinceDisable_cons.mpr ⟨by simp, .inr hv⟩)
    simp [updateMFA_self] at hstays
  · intro he
    constructor
    · intro id' hv
      obtain ⟨-, hv | hv⟩ := mem_sinceDisable_cons.mp hv
      · cases hv
      · have hstays := hs.stays id' hv
        by_cases hid : id' = id
        · simp [hid, he] at hstays
        · rwa [updateMFA_of_ne hid]
    · intro id' he'
      by_cases hid : id' = id
      · simp [hid, updateMFA_self] at he'
      · simp only [updateMFA_of_ne hid] at he' ⊢
        exact hs.generated_cons (by simp) he'

lemma enrolled_tracked (ht : Tracked s) (hne : secret ≠ []) :
    Tracked ⟨s.db.updateMFA id false secret, .enrolled id secret :: s.history⟩ where
  known id' h := ht.known id' (by simpa using h)
  enabled id' h := by
    by_cases hid : id' = id
    · simp [hid, updateMFA_self] at h
    · simp only [updateMFA_of_ne hid] at h
      exact ht.enabled_cons (by simp) h
  stored id' secret' h := by
    by_cases hid : id' = id
    · subst hid
      simp only [updateMFA_self, Option.some.injEq] at h
      exact .inr (mem_sinceDisable_cons.mpr ⟨by simp, .inl (by rw [h])⟩)
    · simp only [updateMFA_of_ne hid] at h
      exact ht.stored_cons (by simp) h
  nonempty id' secret' h := by
    rcases List.mem_cons.mp h with h | h
    · cases h
      exact hne
    · exact ht.nonempty id' secret' h

lemma verified_sound_iff (hs : Sound s) (ht : Tracked s)
    (hstored : (s.db.credentials id).mfaSecret = some secret) :
    Sound ⟨s.db.updateMFA id true secret, .verified id :: s.history⟩ ↔ secret ≠ [] := by
  constructor
  · rintro h rfl
    obtain ⟨secret', hsecret, hmem⟩ := h.generated id (by simp [updateMFA_self])
    simp only [updateMFA_self, Option.some.injEq] at hsecret
    obtain ⟨-, hmem | hmem⟩ := mem_sinceDisable_cons.mp hmem
    · cases hmem
    · exact ht.nonempty id secret' (mem_of_mem_sinceDisable hmem) hsecret.symm
  · intro hne
    constructor
    · intro id' hv
      by_cases hid : id' = id
      · simp [hid, updateMFA_self]
      · obtain ⟨-, hv | hv⟩ := mem_sinceDisable_cons.mp hv
        · exact absurd (Event.verified.inj hv) hid
        · rw [updateMFA_of_ne hid]
          exact hs.stays id' hv
    · intro id' he'
      by_cases hid : id' = id
      · subst hid
        refine ⟨secret, by simp [updateMFA_self], mem_sinceDisable_cons.mpr ⟨by simp, .inr ?_⟩⟩
        exact (ht.stored id' secret hstored).resolve_left hne
      · simp only [updateMFA_of_ne hid] at he' ⊢
        exact hs.generated_cons (by simp) he'

lemma verified_tracked (ht : Tracked s) (hid : id ∈ s.db.ids)
    (hstored : (s.db.credentials id).mfaSecret = some secret) :
    Tracked ⟨s.db.updateMFA id true secret, .verified id :: s.history⟩ where
  known id' h := by
    rcases List.mem_cons.mp h with h | h
    · exact Event.verified.inj h ▸ hid
    · exact ht.known id' h
  enabled id' h := by
    by_cases hid : id' = id
    · exact mem_sinceDisable_cons.mpr ⟨by simp, .inl (by rw [hid])⟩
    · simp only [updateMFA_of_ne hid] at h
      exact ht.enabled_cons (by simp) h
  stored id' secret' h := by
    have hold : (s.db.credentials id').mfaSecret = some secret' := by
      by_cases hid : id' = id
      · simpa [hid, updateMFA_self, hstored] using h
      · simpa only [updateMFA_of_ne hid] using h
    exact ht.stored_cons (by simp) hold
  nonempty id' secret' h := ht.nonempty id' secret' (by simpa using h)

lemma disabled_sound (hs : Sound s) :
    Sound ⟨s.db.updateMFA id false [], .disabled id :: s.history⟩ where
  stays id' h := by
    obtain ⟨hne, h | h⟩ := mem_sinceDisable_cons.mp h
    · cases h
    · have hid : id' ≠ id := fun hid => hne (by rw [hid])
      rw [updateMFA_of_ne hid]
      exact hs.stays id' h
  generated id' h := by
    by_cases hid : id' = id
    · simp [hid, updateMFA_self] at h
    · simp only [updateMFA_of_ne hid] at h ⊢
      exact hs.generated_cons (fun he => hid (Event.disabled.inj he).symm) h

lemma disabled_tracked (ht : Tracked s) :
    Tracked ⟨s.db.updateMFA id false [], .disabled id :: s.history⟩ where
  known id' h := ht.known id' (by simpa using h)
  enabled id' h := by
    by_cases hid : id' = id
    · simp [hid, updateMFA_self] at h
    · simp only [updateMFA_of_ne hid] at h
      exact ht.enabled_cons (fun he => hid (Event.disabled.inj he).symm) h
  stored id' secret h := by
    by_cases hid : id' = id
    · simp only [hid, updateMFA_self, Option.some.injEq] at h
      exact .inl h.symm
    · simp only [updateMFA_of_ne hid] at h
      exact ht.stored_cons (fun he => hid (Event.disabled.inj he).symm) h
  nonempty id' secret h := ht.nonempty id' secret (by simpa using h)

lemma issued_sound {user : User} {c : Credentials} {code : Option (Bytes × ℕ)} (hs : Sound s) :
    Sound ⟨s.db, .issued user c code :: s.history⟩ where
  stays id h := hs.stays id (by simpa [mem_sinceDisable_cons] using h)
  generated _ h := hs.generated_cons (by simp) h

lemma issued_tracked {user : User} {c : Credentials} {code : Option (Bytes × ℕ)} (ht : Tracked s) :
    Tracked ⟨s.db, .issued user c code :: s.history⟩ where
  known id h := ht.known id (by simpa using h)
  enabled _ h := ht.enabled_cons (by simp) h
  stored _ _ h := ht.stored_cons (by simp) h
  nonempty id secret h := ht.nonempty id secret (by simpa using h)

variable {store : Store}

lemma inserted_sound (hs : Sound s) (ht : Tracked s) : Sound ⟨s.db.inserted store, s.history⟩ where
  stays id h := by
    rw [inserted_of_mem (ht.known id (mem_of_mem_sinceDisable h))]
    exact hs.stays id h
  generated id h := by
    by_cases hid : id ∈ s.db.ids
    · simp only [inserted_of_mem hid] at h ⊢
      exact hs.generated id h
    · simp [inserted_of_notMem hid] at h

lemma inserted_tracked (ht : Tracked s) (hkept : ∀ u ∈ s.db.store.users, u ∈ store.users) :
    Tracked ⟨s.db.inserted store, s.history⟩ where
  known id h := by
    obtain ⟨u, hu, rfl⟩ := List.mem_map.mp (ht.known id h)
    exact List.mem_map_of_mem (hkept u hu)
  enabled id h := by
    by_cases hid : id ∈ s.db.ids
    · simp only [inserted_of_mem hid] at h
      exact ht.enabled id h
    · simp [inserted_of_notMem hid] at h
  stored id secret h := by
    by_cases hid : id ∈ s.db.ids
    · simp only [inserted_of_mem hid] at h
      exact ht.stored id secret h
    · simp [inserted_of_notMem hid] at h
  nonempty := ht.nonempty

lemma issue_sound {r : Except LoginError User × Store} (hs : Sound s) (ht : Tracked s) :
    Sound (issue s r) := by
  obtain ⟨_ | user, store⟩ := r
  · exact inserted_sound hs ht
  · exact issued_sound (inserted_sound hs ht)

lemma issue_tracked {r : Except LoginError User × Store} (ht : Tracked s)
    (hkept : ∀ u ∈ s.db.store.users, u ∈ r.2.users) : Tracked (issue s r) := by
  obtain ⟨_ | user, store⟩ := r
  · exact inserted_tracked ht hkept
  · exact issued_tracked (inserted_tracked ht hkept)

end Steps

section Accounts

open Identities

variable {o : Outcome} {s s' : Store} {r : Except LoginError User}

structure Created (s s' : Store) (r : Except LoginError User) : Prop where
  kept : ∀ u ∈ s.users, u ∈ s'.users
  fresh : ∀ u, r = .ok u → u.id ∉ s.users.map User.id

lemma createRows_created {org : Bytes → Organization} {row : Bytes → Bytes → User}
    (h : createRows o s org row = (r, s')) : Created s s' r := by
  rcases createRows_cases o s org row with ⟨err, s₁, hrows, husers⟩ | ⟨_, _, s₁, hrows, hadd, hfresh⟩
  · obtain ⟨rfl, rfl⟩ := Prod.mk.inj (hrows.symm.trans h)
    exact ⟨fun u hu => husers ▸ hu, by simp⟩
  · obtain ⟨rfl, rfl⟩ := Prod.mk.inj (hrows.symm.trans h)
    constructor
    · intro u hu
      rw [hadd]
      exact List.mem_append_left _ hu
    · intro u hu
      obtain rfl := Except.ok.inj hu
      exact hfresh

lemma findOrCreateSAMLUser_kept {o : ACSOutcome} {user : SAMLUser}
    (h : findOrCreateSAMLUser o s user = (r, s')) : ∀ u ∈ s.users, u ∈ s'.users := by
  simp only [findOrCreateSAMLUser] at h
  cases hl : lookupSAML o s user with
  | some u =>
    simp only [hl, Prod.mk.injEq] at h
    exact fun _ hu => h.2 ▸ hu
  | none =>
    simp only [hl] at h
    exact (createRows_created h).kept

lemma loginSAML_store (o : ACSOutcome) (s : Store) (user : SAMLUser) :
    (loginSAML o s user).2 = (findOrCreateSAMLUser o s user).2 := by
  simp only [loginSAML]
  obtain ⟨_ | u, s'⟩ := findOrCreateSAMLUser o s user
  · rfl
  · cases o.issueFails <;> rfl

lemma loginSAML_kept (o : ACSOutcome) (s : Store) (user : SAMLUser) :
    ∀ u ∈ s.users, u ∈ (loginSAML o s user).2.users := by
  rw [loginSAML_store]
  exact findOrCreateSAMLUser_kept rfl

end Accounts

section Runs

variable {hmacSHA1 : Bytes → Bytes → Vector UInt8 20} {checkPassword : Bytes → Bytes → Bool}
  {s : State}

lemma perform_tracked (ht : Tracked s) (a : Operation) :
    Tracked (perform hmacSHA1 checkPassword s a) := by
  cases a with
  | enroll o userID draw =>
    rcases enrollMFA_cases o s.db userID draw with ⟨⟨err, he⟩, -⟩ | ⟨user, d, hu, -, -, he⟩
    · simpa only [perform, he] using ht
    · obtain ⟨rfl, -⟩ := currentUser_ok hu
      simp only [perform, he, Option.getD_some]
      exact enrolled_tracked ht (generateTOTPSecret_ne_nil d)
  | verify o userID code now =>
    rcases verifyMFA_cases hmacSHA1 o s.db userID code now with
      ⟨r, he, hr, -⟩ | ⟨user, secret, hu, hs, -, -, he⟩
    · rcases r with err | _ | _
      · simpa only [perform, he] using ht
      · simpa only [perform, he] using ht
      · exact absurd rfl hr
    · obtain ⟨rfl, hmem⟩ := currentUser_ok hu
      simp only [perform, he, Option.getD_some]
      exact verified_tracked ht (List.mem_map_of_mem hmem) hs
  | disable o userID =>
    rcases disableMFA_cases o s.db userID with ⟨err, he⟩ | ⟨id, rfl, he⟩
    · simpa only [perform, he] using ht
    · simp only [perform, he, Option.getD_some]
      exact disabled_tracked ht
  | login o req now =>
    cases h : login hmacSHA1 checkPassword o s.db req now with
    | error err => simpa only [perform, h] using ht
    | ok user =>
      simp only [perform, h]
      exact issued_tracked ht
  | oauth o l => exact issue_tracked ht (Identities.handle_handled rfl).kept
  | saml o user => exact issue_tracked ht (loginSAML_kept o s.db.store user)

lemma perform_sound_iff (hs : Sound s) (ht : Tracked s) (a : Operation) :
    Sound (perform hmacSHA1 checkPassword s a) ↔ Allowed hmacSHA1 s a := by
  cases a with
  | enroll o userID draw =>
    rcases enrollMFA_cases o s.db userID draw with ⟨⟨err, he⟩, hno⟩ | ⟨user, d, hu, rfl, hf, he⟩
    · refine iff_of_true (by simpa only [perform, he] using hs) fun user hu hd hf => ?_
      simp [hno user hu hd] at hf
    · obtain ⟨rfl, -⟩ := currentUser_ok hu
      simp only [perform, he, Option.getD_some, enrolled_sound_iff hs ht]
      constructor
      · intro h user' hu' _ _
        obtain rfl := Except.ok.inj (hu.symm.trans hu')
        exact h
      · intro h
        exact h user hu (by simp) hf
  | verify o userID code now =>
    rcases verifyMFA_cases hmacSHA1 o s.db userID code now with
      ⟨r, he, hr, hno⟩ | ⟨user, secret, hu, hsecret, hv, hf, he⟩
    · have hsound : Sound (perform hmacSHA1 checkPassword s (.verify o userID code now)) := by
        rcases r with err | _ | _
        · simpa only [perform, he] using hs
        · simpa only [perform, he] using hs
        · exact absurd rfl hr
      refine iff_of_true hsound fun user hu hv hf hempty => ?_
      simp [hno user [] hu hempty hv] at hf
    · obtain ⟨rfl, -⟩ := currentUser_ok hu
      simp only [perform, he, Option.getD_some, verified_sound_iff hs ht hsecret]
      constructor
      · intro hne user' hu' _ _ hempty
        obtain rfl := Except.ok.inj (hu.symm.trans hu')
        exact hne (Option.some.inj (hsecret.symm.trans hempty))
      · rintro h rfl
        exact h user hu hv hf hsecret
  | disable o userID =>
    refine iff_of_true ?_ trivial
    rcases disableMFA_cases o s.db userID with ⟨err, he⟩ | ⟨id, rfl, he⟩
    · simpa only [perform, he] using hs
    · simp only [perform, he, Option.getD_some]
      exact disabled_sound hs
  | login o req now =>
    refine iff_of_true ?_ trivial
    cases h : login hmacSHA1 checkPassword o s.db req now with
    | error err => simpa only [perform, h] using hs
    | ok user =>
      simp only [perform, h]
      exact issued_sound hs
  | oauth o l => exact iff_of_true (issue_sound hs ht) trivial
  | saml o user => exact iff_of_true (issue_sound hs ht) trivial

theorem mfa_sound_iff (hmacSHA1 : Bytes → Bytes → Vector UInt8 20)
    (checkPassword : Bytes → Bytes → Bool) (store : Store) (passwordHash : Bytes → Option Bytes)
    (ops : List Operation) :
    Always (step hmacSHA1 checkPassword) Sound (start (initial store passwordHash)) ops ↔
      Guarded (step hmacSHA1 checkPassword) (Allowed hmacSHA1)
        (start (initial store passwordHash)) ops := by
  have hs : Sound (start (initial store passwordHash)) :=
    ⟨by simp [start, sinceDisable], by simp [start, initial]⟩
  have ht : Tracked (start (initial store passwordHash)) :=
    ⟨by simp [start], by simp [start, initial], by simp [start, initial], by simp [start]⟩
  apply always_iff_guarded hs ht
  intro s a t hs ht hstep
  obtain rfl := Option.some.inj hstep
  exact ⟨perform_sound_iff hs ht a, fun _ => perform_tracked ht a⟩

def digest : Vector UInt8 20 :=
  #v[117, 164, 138, 25, 212, 203, 225, 0, 100, 78, 138, 193, 57, 126, 234, 116, 122, 45, 51, 171]

def secretDraw : Vector UInt8 20 :=
  #v[49, 50, 51, 52, 53, 54, 55, 56, 57, 48, 49, 50, 51, 52, 53, 54, 55, 56, 57, 48]

def enrolledTwice : List Operation :=
  [.enroll {} (some [1]) (some secretDraw), .verify {} (some [1]) (ascii "287082") 59,
    .enroll {} (some [1]) (some secretDraw)]

lemma run_eq_foldl (ops : List Operation) : run (step hmacSHA1 checkPassword) s ops =
    some (ops.foldl (perform hmacSHA1 checkPassword) s) := by
  induction ops generalizing s with
  | nil => rfl
  | cons a ops ih => exact ih

theorem mfa_sound_fails :
    ¬ Always (step (fun _ _ => digest) fun _ _ => true) Sound
      (start (initial oneUser fun _ => none)) enrolledTwice := by
  intro h
  have hstays := (h.last (run_eq_foldl enrolledTwice)).stays [1] (by decide +kernel)
  revert hstays
  decide +kernel

end Runs

end OmniTun.Auth.Mfa
