import OmniTun.Auth.Accounts

/-! Which identities share an account. -/

namespace OmniTun.Auth.Identities

open OmniTun.Foundation

/-- An account is either the identity's own or was found under the address that it presents. -/
def Reached (l : Login) (u : User) : Prop :=
  u.authProvider = l.info.provider ∧ u.authProviderID = some l.info.providerUserID ∨
    l.info.email = u.email ∧ (l.isOIDC = true → u.email ≠ [])

/-- Every account of an identity was created with an address that the identity has presented. -/
def Accounted (history : List Login) (s : Store) : Prop :=
  ∀ u ∈ s.users, ∀ id, u.authProviderID = some id →
    ∃ l ∈ history, l.identity = (u.authProvider, id) ∧ l.info.email = u.email

structure Handled (s s' : Store) (l : Login) (r : Except LoginError User) : Prop where
  kept : ∀ u ∈ s.users, u ∈ s'.users
  created : ∀ u ∈ s'.users, u ∈ s.users ∨
    u.authProvider = l.info.provider ∧ u.authProviderID = some l.info.providerUserID ∧
      u.email = l.info.email
  found : ∀ u, r = .ok u → u ∈ s'.users ∧ Reached l u

section Handle

variable {s s' : Store} {o : Outcome} {l : Login} {info : OAuthUserInfo} {u : User}
  {r : Except LoginError User} {history : List Login}

lemma lookupByProvider_some (h : lookupByProvider o s info = some u) :
    u ∈ s.users ∧ u.authProvider = info.provider ∧ u.authProviderID = some info.providerUserID := by
  simp only [lookupByProvider] at h
  split_ifs at h
  have hp := List.find?_some h
  simp only [decide_eq_true_eq] at hp
  exact ⟨List.mem_of_find?_eq_some h, hp.1, hp.2.1⟩

lemma lookupByEmail_some (h : lookupByEmail o s info = some u) :
    u ∈ s.users ∧ info.email = u.email := by
  simp only [lookupByEmail] at h
  split_ifs at h
  have hp := List.find?_some h
  simp only [decide_eq_true_eq] at hp
  exact ⟨List.mem_of_find?_eq_some h, hp.1.symm⟩

lemma createOrganization_users {org : Organization} (h : s.createOrganization org = some s') :
    s'.users = s.users := by
  simp only [Store.createOrganization] at h
  split_ifs at h
  exact Option.some.inj h ▸ rfl

lemma createUser_users (h : s.createUser u = some s') : s'.users = s.users ++ [u] := by
  simp only [Store.createUser] at h
  split_ifs at h
  exact Option.some.inj h ▸ rfl

lemma handled_of_error {err : LoginError} (h : s'.users = s.users) : Handled s s' l (.error err) where
  kept u hu := h ▸ hu
  created u hu := .inl (h ▸ hu)
  found u hu := by cases hu

lemma handled_of_found (hu : u ∈ s.users) (hr : Reached l u) : Handled s s l (.ok u) where
  kept _ h := h
  created _ h := .inl h
  found _ h := Except.ok.inj h ▸ ⟨hu, hr⟩

lemma handled_of_created (h : s'.users = s.users ++ [u])
    (hp : u.authProvider = l.info.provider) (hid : u.authProviderID = some l.info.providerUserID)
    (he : u.email = l.info.email) : Handled s s' l (.ok u) where
  kept v hv := by
    rw [h]
    exact List.mem_append_left _ hv
  created v hv := by
    rw [h] at hv
    rcases List.mem_append.mp hv with hv | hv
    · exact .inl hv
    · obtain rfl := List.mem_singleton.mp hv
      exact .inr ⟨hp, hid, he⟩
  found v hv := by
    obtain rfl := Except.ok.inj hv
    refine ⟨?_, .inl ⟨hp, hid⟩⟩
    rw [h]
    exact List.mem_append_right _ List.mem_cons_self

lemma createUser_fresh (h : s.createUser u = some s') : u.id ∉ s.users.map User.id := by
  simp only [Store.createUser] at h
  split_ifs at h with hc
  intro hmem
  obtain ⟨v, hv, hid⟩ := List.mem_map.mp hmem
  exact hc ⟨v, hv, .inl hid⟩

lemma createRows_cases (o : Outcome) (s : Store) (org : Bytes → Organization)
    (row : Bytes → Bytes → User) :
    (∃ err s', createRows o s org row = (.error err, s') ∧ s'.users = s.users) ∨
    ∃ organizationID id s', createRows o s org row = (.ok (row organizationID id), s') ∧
      s'.users = s.users ++ [row organizationID id] ∧
      (row organizationID id).id ∉ s.users.map User.id := by
  simp only [createRows]
  cases horg : o.organizationID.bind fun id => (s.createOrganization (org id)).map (id, ·) with
  | none => exact .inl ⟨_, _, rfl, rfl⟩
  | some p =>
    obtain ⟨id, -, hmap⟩ := Option.bind_eq_some_iff.mp horg
    obtain ⟨s₁, hs₁, rfl⟩ := Option.map_eq_some_iff.mp hmap
    have husers := createOrganization_users hs₁
    cases huser : o.userID.bind fun uid => (s₁.createUser (row id uid)).map (uid, ·) with
    | none => exact .inl ⟨.createUser, s₁, by simp only [huser], husers⟩
    | some q =>
      obtain ⟨uid, -, hmap'⟩ := Option.bind_eq_some_iff.mp huser
      obtain ⟨s₂, hs₂, rfl⟩ := Option.map_eq_some_iff.mp hmap'
      have hadd := createUser_users hs₂
      have hfresh := createUser_fresh hs₂
      rw [husers] at hadd hfresh
      exact .inr ⟨id, uid, s₂, by simp only [huser], hadd, hfresh⟩

lemma createAccount_handled (h : createAccount o s l.info = (r, s')) : Handled s s' l r := by
  rw [createAccount] at h
  rcases createRows_cases o s _ _ with ⟨err, s₁, hrows, husers⟩ | ⟨_, _, s₁, hrows, hadd, -⟩
  · obtain ⟨rfl, rfl⟩ := Prod.mk.inj (hrows.symm.trans h)
    exact handled_of_error husers
  · obtain ⟨rfl, rfl⟩ := Prod.mk.inj (hrows.symm.trans h)
    exact handled_of_created hadd rfl rfl rfl

lemma reached_of_provider (h : lookupByProvider o s l.info = some u) : u ∈ s.users ∧ Reached l u :=
  ⟨(lookupByProvider_some h).1, .inl (lookupByProvider_some h).2⟩

lemma oauth_handled (hl : l.isOIDC = false) (h : findOrCreateOAuthUser o s l.info = (r, s')) :
    Handled s s' l r := by
  simp only [findOrCreateOAuthUser] at h
  cases hp : lookupByProvider o s l.info with
  | some u =>
    simp only [hp, Prod.mk.injEq] at h
    obtain ⟨rfl, rfl⟩ := h
    exact handled_of_found (reached_of_provider hp).1 (reached_of_provider hp).2
  | none =>
    cases he : lookupByEmail o s l.info with
    | some u =>
      simp only [hp, he, Prod.mk.injEq] at h
      obtain ⟨rfl, rfl⟩ := h
      obtain ⟨hu, hemail⟩ := lookupByEmail_some he
      exact handled_of_found hu (.inr ⟨hemail, by simp [hl]⟩)
    | none =>
      simp only [hp, he] at h
      exact createAccount_handled h

lemma oidc_handled {user : OIDCUser} (h : findOrCreateOIDCUser o s user = (r, s')) :
    Handled s s' (.oidc user) r := by
  have hinfo : (Login.oidc user).info = user.info := rfl
  simp only [findOrCreateOIDCUser] at h
  cases hp : lookupByProvider o s user.info with
  | some u =>
    simp only [hp, Prod.mk.injEq] at h
    obtain ⟨rfl, rfl⟩ := h
    rw [← hinfo] at hp
    exact handled_of_found (reached_of_provider hp).1 (reached_of_provider hp).2
  | none =>
    by_cases hempty : user.email = []
    · simp only [hp, hempty, ne_eq, not_true_eq_false, if_false] at h
      exact createAccount_handled h
    · cases he : lookupByEmail o s user.info with
      | some u =>
        simp only [hp, he, hempty, ne_eq, not_false_eq_true, if_true, Prod.mk.injEq] at h
        obtain ⟨rfl, rfl⟩ := h
        obtain ⟨hu, hemail⟩ := lookupByEmail_some he
        exact handled_of_found hu (.inr ⟨hemail, fun _ => hemail ▸ hempty⟩)
      | none =>
        simp only [hp, he, hempty, ne_eq, not_false_eq_true, if_true] at h
        exact createAccount_handled h

lemma findOrCreate_handled (h : l.findOrCreate o s = (r, s')) : Handled s s' l r := by
  cases l with
  | github user emails => exact oauth_handled rfl h
  | google user => exact oauth_handled rfl h
  | oidc user => exact oidc_handled h

lemma handle_handled (h : l.handle o s = (r, s')) : Handled s s' l r := by
  rcases hf : l.findOrCreate o s with ⟨_ | u, s₁⟩
  · simp only [Login.handle, hf, Prod.mk.injEq] at h
    obtain ⟨rfl, rfl⟩ := h
    exact findOrCreate_handled hf
  · have hh := findOrCreate_handled hf
    simp only [Login.handle, hf] at h
    split_ifs at h
    · obtain ⟨rfl, rfl⟩ := Prod.mk.inj h
      exact ⟨hh.kept, hh.created, fun v hv => by cases hv⟩
    · obtain ⟨rfl, rfl⟩ := Prod.mk.inj h
      exact hh

lemma Accounted.step (ha : Accounted history s) (h : Handled s s' l r) :
    Accounted (history ++ [l]) s' := by
  intro u hu id hid
  rcases h.created u hu with hu | ⟨hp, hid', he⟩
  · obtain ⟨l', hl', hsame⟩ := ha u hu id hid
    exact ⟨l', List.mem_append_left _ hl', hsame⟩
  · obtain rfl : l.info.providerUserID = id := Option.some.inj (hid'.symm.trans hid)
    exact ⟨l, List.mem_append_right _ List.mem_cons_self, by rw [Login.identity, hp], he.symm⟩

end Handle

section Runs

variable {s : Store} {l : Login} {u : User} {history : List Login} {k : ℕ}

def after : Store → List (Outcome × Login) → Store
  | s, [] => s
  | s, (o, l) :: rest => after (l.handle o s).2 rest

lemma after_kept (steps : List (Outcome × Login)) (hu : u ∈ s.users) : u ∈ (after s steps).users := by
  induction steps generalizing s with
  | nil => exact hu
  | cons step rest ih => exact ih ((handle_handled rfl).kept u hu)

lemma logins_spec {steps : List (Outcome × Login)} (ha : Accounted history s)
    (hk : (logins s steps)[k]? = some (l, .ok u)) :
    u ∈ (after s steps).users ∧ Reached l u ∧
      ∀ id, u.authProviderID = some id →
        ∃ l' ∈ history ++ ((logins s steps).take (k + 1)).map Prod.fst,
          l'.identity = (u.authProvider, id) ∧ l'.info.email = u.email := by
  induction steps generalizing s history k with
  | nil => simp [logins] at hk
  | cons step rest ih =>
    obtain ⟨o, l₁⟩ := step
    have hh : Handled s (l₁.handle o s).2 l₁ (l₁.handle o s).1 := handle_handled rfl
    have ha' := ha.step hh
    cases k with
    | zero =>
      simp only [logins, List.getElem?_cons_zero, Option.some.injEq, Prod.mk.injEq] at hk
      obtain ⟨rfl, hr⟩ := hk
      obtain ⟨hu, hreach⟩ := hh.found u hr
      refine ⟨after_kept rest hu, hreach, fun id hid => ?_⟩
      simpa [logins] using ha' u hu id hid
    | succ k =>
      simp only [logins, List.getElem?_cons_succ] at hk
      obtain ⟨hu, hreach, hown⟩ := ih ha' hk
      refine ⟨hu, hreach, fun id hid => ?_⟩
      simpa [logins] using hown id hid

end Runs

def Presented (results : List (Login × Except LoginError User)) (k : ℕ) (identity : Bytes × Bytes)
    (email : Bytes) : Prop :=
  ∃ l ∈ (results.take (k + 1)).map Prod.fst, l.identity = identity ∧ l.info.email = email

lemma presented_of_reached {s : Store} {steps : List (Outcome × Login)} {k : ℕ} {l : Login}
    {u : User} (hs : ∀ u ∈ s.users, u.authProviderID = none)
    (hk : (logins s steps)[k]? = some (l, .ok u)) :
    u ∈ (after s steps).users ∧ Reached l u ∧ Presented (logins s steps) k l.identity u.email := by
  have ha : Accounted [] s := by
    intro u hu id hid
    rw [hs u hu] at hid
    cases hid
  obtain ⟨hu, hreach, hown⟩ := logins_spec ha hk
  refine ⟨hu, hreach, ?_⟩
  rcases hreach with ⟨hp, hid⟩ | ⟨hemail, _⟩
  · obtain ⟨l', hl', hidentity, he⟩ := hown _ hid
    exact ⟨l', by simpa using hl', by rw [hidentity, hp]; rfl, he⟩
  · refine ⟨l, List.mem_map.mpr ⟨(l, .ok u), ?_, rfl⟩, rfl, hemail⟩
    obtain ⟨hlt, hget⟩ := List.getElem?_eq_some_iff.mp hk
    exact List.mem_take_iff_getElem.mpr ⟨k, by omega, hget⟩

theorem identities_separate (s : Store) (steps : List (Outcome × Login)) (i j : ℕ)
    (l l' : Login) (u u' : User) (hs : ∀ u ∈ s.users, u.authProviderID = none)
    (hi : (logins s steps)[i]? = some (l, .ok u)) (hj : (logins s steps)[j]? = some (l', .ok u'))
    (hu : u.id = u'.id) (hne : l.identity ≠ l'.identity) :
    (u.email ≠ [] → Presented (logins s steps) i l.identity u.email ∧
      Presented (logins s steps) j l'.identity u.email) ∧
    (l.isOIDC = true → l'.isOIDC = true → u.email ≠ []) := by
  obtain ⟨hmem, hreach, hpres⟩ := presented_of_reached hs hi
  obtain ⟨hmem', hreach', hpres'⟩ := presented_of_reached hs hj
  obtain rfl : u = u' := List.inj_on_of_nodup_map (after s steps).keyed hmem hmem' hu
  refine ⟨fun _ => ⟨hpres, hpres'⟩, fun hl hl' => ?_⟩
  rcases hreach with ⟨hp, hid⟩ | ⟨_, hset⟩
  · rcases hreach' with ⟨hp', hid'⟩ | ⟨_, hset⟩
    · refine absurd ?_ hne
      rw [hid] at hid'
      rw [Login.identity, Login.identity, ← hp, ← hp', Option.some.inj hid']
    · exact hset hl'
  · exact hset hl

def emptyStore : Store := ⟨[], [], List.nodup_nil⟩

def githubLogin (id : ℤ) (email : Bytes) : Login :=
  .github ⟨id, ascii "octo", [], [], email⟩ none

def googleLogin (id email : Bytes) : Login := .google ⟨id, email, [], []⟩

def drawing (n : UInt8) : Outcome := { organizationID := some [n], userID := some [n] }

def changedAddress : List (Outcome × Login) :=
  [(drawing 1, githubLogin 1 (ascii "a@x.dev")), (drawing 2, googleLogin (ascii "2") (ascii "a@x.dev")),
    (drawing 3, githubLogin 1 (ascii "b@x.dev"))]

def sharedUser : User where
  id := [1]
  organizationID := [1]
  email := ascii "a@x.dev"
  displayName := ascii "octo"
  avatarURL := none
  role := ascii "owner"
  authProvider := ascii "github"
  authProviderID := some (ascii "1")
  deleted := false

theorem identities_separate_changed :
    Presented (logins emptyStore changedAddress) 2 (ascii "github", ascii "1") (ascii "a@x.dev") ∧
      Presented (logins emptyStore changedAddress) 1 (ascii "google", ascii "2")
        (ascii "a@x.dev") :=
  (identities_separate emptyStore changedAddress 2 1 (githubLogin 1 (ascii "b@x.dev"))
    (googleLogin (ascii "2") (ascii "a@x.dev")) sharedUser sharedUser (by simp [emptyStore]) rfl rfl
    rfl (by decide)).1 (by decide)

theorem identities_separate_fails :
    (logins emptyStore changedAddress)[1]? =
      some (googleLogin (ascii "2") (ascii "a@x.dev"), .ok sharedUser) ∧
    (logins emptyStore changedAddress)[2]? =
      some (githubLogin 1 (ascii "b@x.dev"), .ok sharedUser) ∧
    (googleLogin (ascii "2") (ascii "a@x.dev")).identity ≠
      (githubLogin 1 (ascii "b@x.dev")).identity ∧
    (googleLogin (ascii "2") (ascii "a@x.dev")).info.email ≠
      (githubLogin 1 (ascii "b@x.dev")).info.email :=
  ⟨rfl, rfl, by decide, by decide⟩

end OmniTun.Auth.Identities
