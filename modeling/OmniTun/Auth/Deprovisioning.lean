import OmniTun.Auth.DirectoryEffects

/-! Whether users who are not to be active get tokens. -/

namespace OmniTun.Auth.Directory

open OmniTun.Foundation PasswordReset Saml SecondFactor Identities Transition
open AccountCreation (oauthRows samlRows)

def lastRequest (d : Directory) (id : Bytes) : Option ActiveRequest :=
  d.requests.find? fun r => r.id = id

def Deprovisioned (d : Directory) (v : User) : Prop :=
  (∃ r, d.lastRequest v.id = some r ∧ r.active = false) ∨ d.frozen v.organizationID = true

def Ignored (d : Directory) (id : Bytes) : Prop :=
  ∃ r, d.lastRequest id = some r ∧ r.active = false ∧ r.done = false

section

variable (checkPassword : Bytes → Bytes → Bool) (hmacSHA1 : Bytes → Bytes → Vector UInt8 20)
  (hashToken : Bytes → Bytes)

def Honoured (d : Directory) (a : Operation) : Prop :=
  ∀ v, subject checkPassword hmacSHA1 hashToken d a = some v → ¬ Deprovisioned d v

structure Authenticates (db : Database) (req : LoginRequest) (now : ℕ) (v : User)
    (passwordHash : Bytes) : Prop where
  stored : (db.credentials v.id).passwordHash = some passwordHash
  password : checkPassword passwordHash req.password = true
  second : checkSecondFactor hmacSHA1 (db.credentials v.id) req.mfaCode now = .ok ()

structure Refreshes (d : Directory) (o : RefreshOutcome) (token : Bytes) (v : User)
    (r : RefreshTokens.RefreshTokenRecord) (newToken : Bytes) : Prop where
  lookup : o.lookupFails = false
  record : d.getRefreshToken (hashToken token) o.now = some r
  lookupUser : o.userFails = false
  user : d.db.getUserByID r.userID = some v
  draw : o.draw = some newToken
  delete : o.deleteFails = false
  store : o.storeFails = false
  free : hashToken newToken = hashToken token ∨ d.refreshTokens (hashToken newToken) = none
  access : o.accessFails = false

def Serves (d : Directory) (a : Operation) (v : User) : Prop :=
  match a with
  | .login o req now g => o.lookupFails = false ∧ d.db.store.findUserByEmail req.email = some v ∧
      (∃ passwordHash, Authenticates checkPassword hmacSHA1 d.db req now v passwordHash) ∧
      o.accessFails = false ∧ o.refreshFails = false ∧ o.storeFails = false ∧
      d.storeFails hashToken g = false
  | .refresh o token => ∃ r newToken, Refreshes hashToken d o token v r newToken
  | .oauth o l g => lookupOAuth o d.db.store l = some v ∧ o.tokensFail = false ∧
      d.storeFails hashToken g = false
  | .saml o user _ => lookupSAML o d.db.store user = some v ∧ o.issueFails = false
  | _ => False

/-- No user is served whose organisation is frozen or whose deactivation was ignored. -/
def ServesActive (d : Directory) (a : Operation) : Prop :=
  ∀ v, Serves checkPassword hmacSHA1 hashToken d a v →
    d.frozen v.organizationID = false ∧ ¬ Ignored d v.id

end

structure Recorded (d : Directory) : Prop where
  known : ∀ r ∈ d.requests, ∃ v ∈ d.db.store.users, v.id = r.id
  heeded : ∀ v ∈ d.db.store.users, ∀ r, d.lastRequest v.id = some r → r.active = false →
    r.done = true → v.deleted = true
  owned : ∀ id, d.frozen id = true → ∃ org ∈ d.db.store.organizations, org.id = id

section Steps

variable {u : Unicode} {hashPassword : Bytes → Option Bytes} {checkPassword : Bytes → Bytes → Bool}
  {hmacSHA1 : Bytes → Bytes → Vector UInt8 20} {hashToken : Bytes → Bytes} {d d' : Directory}
  {a : Operation} {v : User} {r : ActiveRequest} {id : Bytes}

lemma lastRequest_mem (h : d.lastRequest id = some r) : r ∈ d.requests ∧ r.id = id := by
  have hid := List.find?_some h
  exact ⟨List.mem_of_find?_eq_some h, by simpa using hid⟩

lemma lastRequest_cons (h : d'.requests = r :: d.requests) :
    d'.lastRequest id = if r.id = id then some r else d.lastRequest id := by
  simp only [lastRequest, h, List.find?_cons]
  by_cases hid : r.id = id <;> simp [hid]

lemma lastRequest_congr (h : d'.requests = d.requests) : d'.lastRequest id = d.lastRequest id := by
  rw [lastRequest, h]
  rfl

lemma recorded_start : Recorded start := ⟨by simp [start], by simp [start], by simp [start]⟩

lemma owned_of_keeps (hd : Recorded d) (h : Keeps d.db.store d'.db.store)
    (hfrozen : d'.frozen = d.frozen) (id : Bytes) (hid : d'.frozen id = true) :
    ∃ org ∈ d'.db.store.organizations, org.id = id := by
  rw [hfrozen] at hid
  obtain ⟨org, horg, rfl⟩ := hd.owned id hid
  exact h org horg

lemma recorded_same (hd : Recorded d) (h : Same d d') : Recorded d' where
  known r hr := by
    rw [h.requests] at hr
    rw [h.users]
    exact hd.known r hr
  heeded v hv r hr := by
    rw [h.users] at hv
    rw [lastRequest_congr h.requests] at hr
    exact hd.heeded v hv r hr
  owned := owned_of_keeps hd h.organizations h.frozen

lemma recorded_added {email : Bytes} (hd : Recorded d) (h : Added d d' email v) : Recorded d' where
  known r hr := by
    rw [h.requests] at hr
    obtain ⟨w, hw, hid⟩ := hd.known r hr
    rw [h.users]
    exact ⟨w, List.mem_append_left _ hw, hid⟩
  heeded w hw r hr := by
    rw [lastRequest_congr h.requests] at hr
    rw [h.users] at hw
    rcases List.mem_append.mp hw with hw | hw
    · exact hd.heeded w hw r hr
    · -- nobody has asked for a user who was not there
      obtain rfl := List.mem_singleton.mp hw
      obtain ⟨hmem, hid⟩ := lastRequest_mem hr
      obtain ⟨v', hv', hid'⟩ := hd.known r hmem
      exact absurd (hid'.trans hid) (h.fresh v' hv')
  owned := owned_of_keeps hd h.organizations h.frozen

lemma recorded_changed {st : Statement} (hd : Recorded d) (hv : st.Changes d.db.store v)
    (h : Changed d d' st) : Recorded d' := by
  have hmem : ∀ w, w ∈ d'.db.store.users ↔
      w ∈ d.db.store.users ∧ w.id ≠ st.id ∨ w = st.assignment.apply v := by
    intro w
    rw [h.store]
    exact Store.mem_assign hv.row
  obtain ⟨hvmem, hvid⟩ := Store.row_eq_some.mp hv.row
  have hrow : st.assignment.apply v ∈ d'.db.store.users := (hmem _).mpr (.inr rfl)
  have hkeeps : Keeps d.db.store d'.db.store := by
    rw [h.store]
    exact keeps_refl _
  have howned := owned_of_keeps hd hkeeps h.frozen
  have hkept : ∀ r ∈ d.requests, ∃ w ∈ d'.db.store.users, w.id = r.id := by
    intro r hr
    obtain ⟨w, hw, hid⟩ := hd.known r hr
    by_cases hwid : w.id = st.id
    · exact ⟨_, hrow, hvid.trans (hwid.symm.trans hid)⟩
    · exact ⟨w, (hmem w).mpr (.inl ⟨hw, hwid⟩), hid⟩
  have hrequests := h.requests
  cases hdeleted : st.assignment.deleted with
  | none =>
    simp only [hdeleted, Option.map_none, Option.toList_none, List.nil_append] at hrequests
    refine ⟨fun r hr => hkept r (hrequests ▸ hr), fun w hw r hr => ?_, howned⟩
    rw [lastRequest_congr hrequests] at hr
    rcases (hmem w).mp hw with ⟨hw, -⟩ | rfl
    · exact hd.heeded w hw r hr
    · have hsame : (st.assignment.apply v).deleted = v.deleted := by
        simp [Assignment.apply, hdeleted]
      rw [hsame]
      exact hd.heeded v hvmem r hr
  | some deleted =>
    simp only [hdeleted, Option.map_some, Option.toList_some, List.singleton_append] at hrequests
    refine ⟨fun r hr => ?_, fun w hw r hr hactive _ => ?_, howned⟩
    · rw [hrequests] at hr
      rcases List.mem_cons.mp hr with rfl | hr
      · exact ⟨_, hrow, hvid⟩
      · exact hkept r hr
    · rw [lastRequest_cons hrequests] at hr
      rcases (hmem w).mp hw with ⟨hw, hwid⟩ | rfl
      · rw [if_neg (Ne.symm hwid)] at hr
        exact hd.heeded w hw r hr hactive ‹_›
      · have hsame : st.id = (st.assignment.apply v).id := hvid.symm
        rw [if_pos hsame] at hr
        obtain rfl := Option.some.inj hr
        simpa [Assignment.apply, hdeleted] using hactive

lemma recorded_ignored {active : Bool} (hd : Recorded d) (hrow : d.db.store.row id ≠ none) :
    Recorded (d.ask id active false) := by
  obtain ⟨v, hv⟩ := Option.ne_none_iff_exists'.mp hrow
  obtain ⟨hvmem, hvid⟩ := Store.row_eq_some.mp hv
  have hrequests : (d.ask id active false).requests = ⟨id, active, false⟩ :: d.requests := rfl
  refine ⟨fun r hr => ?_, fun w hw r hr hactive hdone => ?_, hd.owned⟩
  · rcases List.mem_cons.mp hr with rfl | hr
    · exact ⟨v, hvmem, hvid⟩
    · exact hd.known r hr
  · rw [lastRequest_cons hrequests] at hr
    split_ifs at hr with hid
    · obtain rfl := Option.some.inj hr
      cases hdone
    · exact hd.heeded w hw r hr hactive hdone

lemma recorded_frozen {frozen : Bool} {org : Organization} (hd : Recorded d)
    (horg : org ∈ d.db.store.organizations) (hid : org.id = id) :
    Recorded { d with frozen := Function.update d.frozen id frozen } where
  known := hd.known
  heeded := hd.heeded
  owned id' h := by
    by_cases hsame : id' = id
    · exact ⟨org, horg, hid.trans hsame.symm⟩
    · simp only [Function.update_of_ne hsame] at h
      exact hd.owned id' h

lemma recorded_effect (hd : Recorded d) (h : Effect u hashPassword d a d') : Recorded d' := by
  cases h with
  | same _ _ h => exact recorded_same hd h
  | adds _ _ h => exact recorded_added hd h
  | changes _ hv _ h => exact recorded_changed hd hv h
  | ignores _ _ hrow => exact recorded_ignored hd hrow
  | freezes _ _ horg hid => exact recorded_frozen hd horg hid

lemma find_live {users : List User} {p : User → Bool} (hp : ∀ w, p w = true → w.deleted = false)
    (h : users.find? p = some v) : v ∈ users ∧ v.deleted = false :=
  ⟨List.mem_of_find?_eq_some h, hp v (List.find?_some h)⟩

lemma findUserByEmail_live {s : Store} {email : Bytes} (h : s.findUserByEmail email = some v) :
    v ∈ s.users ∧ v.deleted = false :=
  find_live (fun _ hw => (of_decide_eq_true hw).2) h

lemma getUserByProvider_live {s : Store} {provider providerID : Bytes}
    (h : s.getUserByProvider provider providerID = some v) : v ∈ s.users ∧ v.deleted = false :=
  find_live (fun _ hw => (of_decide_eq_true hw).2.2) h

lemma getUserByID_live {db : Database} (h : db.getUserByID id = some v) :
    v ∈ db.store.users ∧ v.deleted = false :=
  find_live (fun _ hw => (of_decide_eq_true hw).2) h

lemma lookupOAuth_live {o : Outcome} {s : Store} {l : Login} (h : lookupOAuth o s l = some v) :
    v ∈ s.users ∧ v.deleted = false := by
  rcases Option.or_eq_some_iff.mp h with h | ⟨-, h⟩
  · exact getUserByProvider_live (Option.ite_none_left_eq_some.mp h).2
  · have hemail := (Option.ite_none_left_eq_some.mp h).2
    exact findUserByEmail_live (Option.ite_none_left_eq_some.mp hemail).2

lemma lookupSAML_live {o : ACSOutcome} {s : Store} {user : SAMLUser}
    (h : lookupSAML o s user = some v) : v ∈ s.users ∧ v.deleted = false := by
  rcases Option.or_eq_some_iff.mp h with h | ⟨-, h⟩
  · exact findUserByEmail_live (Option.ite_none_left_eq_some.mp h).2
  · exact getUserByProvider_live (Option.ite_none_left_eq_some.mp h).2

lemma login_eq_ok {o : ServiceOutcome} {db : Database} {req : LoginRequest} {now : ℕ} :
    login hmacSHA1 checkPassword o db req now = .ok v ↔
      o.lookupFails = false ∧ db.store.findUserByEmail req.email = some v ∧
        (∃ passwordHash, Authenticates checkPassword hmacSHA1 db req now v passwordHash) ∧
        o.accessFails = false ∧ o.refreshFails = false ∧ o.storeFails = false := by
  simp only [login]
  constructor
  · intro h
    split at h
    · cases h
    next w hw =>
      obtain ⟨hlookup, hw⟩ := Option.ite_none_left_eq_some.mp hw
      split at h
      · cases h
      next passwordHash hstored =>
        split at h
        · cases h
        next hpassword =>
          split at h
          · cases h
          next hsecond =>
            split_ifs at h with haccess hrefresh hstore
            obtain rfl := Except.ok.inj h
            have hauth : Authenticates checkPassword hmacSHA1 db req now w passwordHash :=
              ⟨hstored, by simpa using hpassword, hsecond⟩
            exact ⟨by simpa using hlookup, hw, ⟨passwordHash, hauth⟩, by simpa using haccess,
              by simpa using hrefresh, by simpa using hstore⟩
  · rintro ⟨hlookup, hfind, ⟨passwordHash, hauth⟩, haccess, hrefresh, hstore⟩
    simp [hlookup, hfind, hauth.stored, hauth.password, hauth.second, haccess, hrefresh, hstore]

lemma refreshToken_eq_ok {o : RefreshOutcome} {token : Bytes} :
    (d.refreshToken hashToken o token).1 = .ok v ↔
      ∃ r newToken, Refreshes hashToken d o token v r newToken := by
  simp only [refreshToken]
  constructor
  · intro h
    split at h
    · cases h
    next r hr =>
      obtain ⟨hlookup, hr⟩ := Option.ite_none_left_eq_some.mp hr
      split at h
      · cases h
      next user huser =>
        obtain ⟨hlookupUser, huser⟩ := Option.ite_none_left_eq_some.mp huser
        split at h
        · cases h
        next newToken hdraw =>
          split at h
          · cases h
          next hdelete =>
            split at h
            · cases h
            next d' hd' =>
              obtain ⟨hstore, hd'⟩ := Option.ite_none_left_eq_some.mp hd'
              obtain ⟨hfree, -⟩ := Option.ite_none_right_eq_some.mp hd'
              split at h
              · cases h
              next haccess =>
                obtain rfl := Except.ok.inj h
                refine ⟨r, newToken, by simpa using hlookup, hr, by simpa using hlookupUser, huser,
                  hdraw, by simpa using hdelete, by simpa using hstore, ?_, by simpa using haccess⟩
                by_cases hsame : hashToken newToken = hashToken token
                · exact .inl hsame
                · simp only [Function.update_of_ne hsame] at hfree
                  exact .inr hfree
  · rintro ⟨r, newToken, h⟩
    have hfree : Function.update d.refreshTokens (hashToken token) none (hashToken newToken) =
        none := by
      by_cases hsame : hashToken newToken = hashToken token
      · simp [hsame]
      · rw [Function.update_of_ne hsame]
        exact h.free.resolve_left hsame
    simp [h.lookup, h.record, h.lookupUser, h.user, h.draw, h.delete, h.store, h.access,
      storeRefreshToken, hfree]

structure Fresh (s : Store) (v : User) : Prop where
  user : ∀ w ∈ s.users, w.id ≠ v.id
  organization : ∀ org ∈ s.organizations, org.id ≠ v.organizationID

lemma createRows_fresh {o : Outcome} {s : Store} {org : Bytes → Organization}
    {row : Bytes → Bytes → User} {slug email : Bytes} (hrows : OwnerRows org row slug email)
    (h : (createRows o s org row).1 = .ok v) : Fresh s v := by
  have hcreated := createRows_rows (o := o) (s := s) hrows
  generalize createRows o s org row = r at hcreated h
  cases hcreated with
  | noOrganization => cases h
  | noUser => cases h
  | both horg huser hs hu hfree hnew =>
    obtain rfl := Except.ok.inj h
    exact ⟨by rw [hrows.user_id]; exact hfree, by rw [hrows.user_organization]; exact hnew⟩

lemma toOption_eq_some {ε α : Type*} {r : Except ε α} {x : α} :
    r.toOption = some x ↔ r = .ok x := by
  cases r <;> simp [Except.toOption]

lemma withTokens_eq_ok {fails : Bool} {r : Except LoginError User × Store} :
    (withTokens fails r).1 = .ok v ↔ fails = false ∧ r.1 = .ok v := by
  obtain ⟨_ | w, s⟩ := r <;> cases fails <;> simp [withTokens]

lemma found_or_fresh {o : Outcome} {s : Store} {found : Option User}
    {r : Except LoginError User × Store} {org : Bytes → Organization}
    {row : Bytes → Bytes → User} {slug email : Bytes} (hrows : OwnerRows org row slug email)
    (hr : r = match found with
      | some w => (.ok w, s)
      | none => createRows o s org row)
    (h : r.1 = .ok v) : found = some v ∨ Fresh s v := by
  cases found with
  | some w =>
    rw [hr] at h
    exact .inl (congrArg some (Except.ok.inj h))
  | none =>
    rw [hr] at h
    exact .inr (createRows_fresh hrows h)

lemma oauthLogin_eq_ok {o : Outcome} {l : Login} {g : Grant} :
    (oauthLogin hashToken d o l g).1 = .ok v ↔
      (o.tokensFail = false ∧ d.storeFails hashToken g = false) ∧
        (l.findOrCreate o d.db.store).1 = .ok v := by
  have hsame : l.findOrCreate { o with tokensFail := o.tokensFail || d.storeFails hashToken g }
      d.db.store = l.findOrCreate o d.db.store := by
    cases l <;> rfl
  rw [oauthLogin, handle_eq, withTokens_eq_ok, Bool.or_eq_false_iff, hsame]

lemma serves_live (h : Serves checkPassword hmacSHA1 hashToken d a v) :
    v ∈ d.db.store.users ∧ v.deleted = false := by
  cases a with
  | login o req now g => exact findUserByEmail_live h.2.1
  | refresh o token =>
    obtain ⟨r, newToken, hrefreshes⟩ := h
    exact getUserByID_live hrefreshes.user
  | oauth o l g => exact lookupOAuth_live h.1
  | saml o user g => exact lookupSAML_live h.1
  | _ => exact absurd h id

lemma subject_cases (h : subject checkPassword hmacSHA1 hashToken d a = some v) :
    Serves checkPassword hmacSHA1 hashToken d a v ∨ Fresh d.db.store v := by
  cases a with
  | login o req now g =>
    obtain ⟨hlookup, hfind, hauth, haccess, hrefresh, hstore⟩ :=
      login_eq_ok.mp (toOption_eq_some.mp h)
    obtain ⟨hstore, hgrant⟩ := Bool.or_eq_false_iff.mp hstore
    exact .inl ⟨hlookup, hfind, hauth, haccess, hrefresh, hstore, hgrant⟩
  | refresh o token =>
    exact .inl (refreshToken_eq_ok.mp (toOption_eq_some.mp h))
  | oauth o l g =>
    obtain ⟨⟨htokens, hgrant⟩, hok⟩ := oauthLogin_eq_ok.mp (toOption_eq_some.mp h)
    rcases found_or_fresh (oauthRows l.info) (findOrCreate_eq o d.db.store l) hok with
      hfound | hfresh
    · exact .inl ⟨hfound, htokens, hgrant⟩
    · exact .inr hfresh
  | saml o user g =>
    have hok := toOption_eq_some.mp h
    rw [loginSAML_eq, withTokens_eq_ok] at hok
    rcases found_or_fresh (samlRows user) rfl hok.2 with hfound | hfresh
    · exact .inl ⟨hfound, hok.1⟩
    · exact .inr hfresh
  | _ => cases h

lemma subject_of_serves (h : Serves checkPassword hmacSHA1 hashToken d a v) :
    subject checkPassword hmacSHA1 hashToken d a = some v := by
  cases a with
  | login o req now g =>
    obtain ⟨hlookup, hfind, hauth, haccess, hrefresh, hstore, hgrant⟩ := h
    exact toOption_eq_some.mpr (login_eq_ok.mpr ⟨hlookup, hfind, hauth, haccess, hrefresh,
      Bool.or_eq_false_iff.mpr ⟨hstore, hgrant⟩⟩)
  | refresh o token => exact toOption_eq_some.mpr (refreshToken_eq_ok.mpr h)
  | oauth o l g =>
    obtain ⟨hfound, htokens, hgrant⟩ := h
    refine toOption_eq_some.mpr (oauthLogin_eq_ok.mpr ⟨⟨htokens, hgrant⟩, ?_⟩)
    rw [findOrCreate_eq, hfound]
  | saml o user g =>
    obtain ⟨hfound, hissue⟩ := h
    refine toOption_eq_some.mpr ?_
    rw [loginSAML_eq, withTokens_eq_ok, findOrCreateSAMLUser, hfound]
    exact ⟨hissue, rfl⟩
  | _ => exact absurd h id

lemma not_deprovisioned_of_fresh (hd : Recorded d) (h : Fresh d.db.store v) :
    ¬ Deprovisioned d v := by
  rintro (⟨r, hr, -⟩ | hfrozen)
  · obtain ⟨hmem, hid⟩ := lastRequest_mem hr
    obtain ⟨w, hw, hwid⟩ := hd.known r hmem
    exact h.user w hw (hwid.trans hid)
  · obtain ⟨org, horg, hid⟩ := hd.owned _ hfrozen
    exact h.organization org horg hid

lemma not_deprovisioned_iff (hd : Recorded d) (hv : v ∈ d.db.store.users)
    (hlive : v.deleted = false) :
    ¬ Deprovisioned d v ↔ d.frozen v.organizationID = false ∧ ¬ Ignored d v.id := by
  constructor
  · intro h
    refine ⟨by simpa using fun hfrozen => h (.inr hfrozen), ?_⟩
    rintro ⟨r, hr, hactive, -⟩
    exact h (.inl ⟨r, hr, hactive⟩)
  · rintro ⟨hfrozen, hheeded⟩ (⟨r, hr, hactive⟩ | hfrozen')
    · cases hdone : r.done with
      | false => exact hheeded ⟨r, hr, hactive, hdone⟩
      | true =>
        have hdeleted := hd.heeded v hv r hr hactive hdone
        simp [hlive] at hdeleted
    · simp [hfrozen] at hfrozen'

lemma honoured_iff (hd : Recorded d) : Honoured checkPassword hmacSHA1 hashToken d a ↔
    ServesActive checkPassword hmacSHA1 hashToken d a := by
  constructor
  · intro h v hserves
    obtain ⟨hv, hlive⟩ := serves_live hserves
    exact (not_deprovisioned_iff hd hv hlive).mp (h v (subject_of_serves hserves))
  · intro h v hsubject
    rcases subject_cases hsubject with hserves | hfresh
    · obtain ⟨hv, hlive⟩ := serves_live hserves
      exact (not_deprovisioned_iff hd hv hlive).mpr (h v hserves)
    · exact not_deprovisioned_of_fresh hd hfresh

theorem deprovisioned_unserved_iff (u : Unicode) (hashPassword : Bytes → Option Bytes)
    (checkPassword : Bytes → Bytes → Bool) (hmacSHA1 : Bytes → Bytes → Vector UInt8 20)
    (hashToken : Bytes → Bytes) (ops : List Operation) :
    Guarded (step u hashPassword checkPassword hmacSHA1 hashToken)
        (Honoured checkPassword hmacSHA1 hashToken) start ops ↔
      Guarded (step u hashPassword checkPassword hmacSHA1 hashToken)
        (ServesActive checkPassword hmacSHA1 hashToken) start ops := by
  apply guarded_congr_of_invariant recorded_start
  intro d a t hd hstep
  obtain rfl := Option.some.inj hstep
  exact ⟨recorded_effect hd (perform_effect d a), honoured_iff hd⟩

end Steps

def annLogin (g : Grant) : Operation :=
  .oauth { organizationID := some [1], userID := some [1] }
    (.google ⟨ascii "7", ascii "ann@x.dev", [], []⟩) g

def frozenBetween : List Operation :=
  [annLogin ⟨ascii "r1", 0, false⟩, .freeze false [1], annLogin ⟨ascii "r2", 1, false⟩]

def annFrozen : Directory := (frozenBetween.take 2).foldl
  (perform asciiUnicode some (fun _ _ => true) (fun _ _ => Vector.replicate 20 0) id) start

def annRow : User where
  id := [1]
  organizationID := [1]
  email := ascii "ann@x.dev"
  displayName := []
  avatarURL := none
  role := ascii "owner"
  authProvider := ascii "google"
  authProviderID := some (ascii "7")
  deleted := false

theorem deprovisioned_unserved_fails :
    ¬ Guarded (step asciiUnicode some (fun _ _ => true) (fun _ _ => Vector.replicate 20 0) id)
      (Honoured (fun _ _ => true) (fun _ _ => Vector.replicate 20 0) id) start frozenBetween := by
  intro h
  have hlast : Honoured (fun _ _ => true) (fun _ _ => Vector.replicate 20 0) id annFrozen
      (annLogin ⟨ascii "r2", 1, false⟩) := (((h _ rfl).2 _ rfl).2 _ rfl).1
  have hsubject : subject (fun _ _ => true) (fun _ _ => Vector.replicate 20 0) id annFrozen
      (annLogin ⟨ascii "r2", 1, false⟩) = some annRow := by
    decide +kernel
  have hfrozen : annFrozen.frozen [1] = true := by decide +kernel
  exact hlast annRow hsubject (.inr hfrozen)

end OmniTun.Auth.Directory
