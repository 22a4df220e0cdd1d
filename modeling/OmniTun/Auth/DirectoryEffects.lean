import OmniTun.Auth.AccountCreation
import OmniTun.Auth.Directory

/-! What an operation can do to the accounts. -/

namespace OmniTun.Auth.Directory

open OmniTun.Foundation PasswordReset Saml SecondFactor Mfa Identities Transition
open AccountCreation (oauthRows samlRows)

structure Statement where
  fails : Bool
  id : Bytes
  condition : User → Bool
  assignment : Assignment

def Statement.run (st : Statement) (s : Store) : Option Store :=
  s.updateUser st.fails st.id st.condition st.assignment

structure Statement.Changes (st : Statement) (s : Store) (u : User) : Prop where
  row : s.row st.id = some u
  condition : st.condition u = true
  succeeds : st.fails = false
  free : ¬ s.Taken (st.assignment.apply u)

def Operation.statement (s : Store) : Operation → Option Statement
  | .scimReplace fails id (some user) => some ⟨fails, id, User.live, user.assignment⟩
  | .scimPatch fails id e => e.assignment.map fun c => ⟨fails, id, fun _ => true, c⟩
  | .scimDelete fails id => some ⟨fails, id, User.live, { deleted := some true }⟩
  | .scimMember fails orgID userID =>
    if ∃ org ∈ s.organizations, org.id = orgID then
      some ⟨fails, userID, fun _ => true, { organizationID := some orgID }⟩
    else none
  | .disable fails _ id => some ⟨fails, id, User.live, { deleted := some true }⟩
  | .enable fails id => some ⟨fails, id, User.deleted, { deleted := some false }⟩
  | _ => none

section

variable (u : Unicode) (hashPassword : Bytes → Option Bytes) (checkPassword : Bytes → Bytes → Bool)
  (hmacSHA1 : Bytes → Bytes → Vector UInt8 20) (hashToken : Bytes → Bytes)

def Adds (s : Store) (a : Operation) (email : Bytes) : Prop :=
  match a with
  | .register o req => email = req.email ∧
      (∃ passwordHash, Registers u hashPassword req passwordHash) ∧
      InsertsOrganization o s (emailToSlug req.email) ∧ InsertsUser o s req.email
  | .oauth o l _ => email = l.info.email ∧ lookupOAuth o s l = none ∧
      InsertsOrganization o s (sanitizeSlug l.info.email) ∧ InsertsUser o s l.info.email
  | .saml o user _ => email = user.email ∧ lookupSAML o s user = none ∧
      InsertsOrganization o.toOutcome s (emailToSlug user.email) ∧
      InsertsUser o.toOutcome s user.email
  | .scimCreate o body => ∃ user, body = some user ∧ email = user.userName ∧ user.userName ≠ [] ∧
      Scim.InsertsUser o s user.userName
  | _ => False

def Keeps (s s' : Store) : Prop :=
  ∀ org ∈ s.organizations, ∃ org' ∈ s'.organizations, org'.id = org.id

structure Same (d d' : Directory) : Prop where
  users : d'.db.store.users = d.db.store.users
  organizations : Keeps d.db.store d'.db.store
  frozen : d'.frozen = d.frozen
  requests : d'.requests = d.requests

structure Added (d d' : Directory) (email : Bytes) (user : User) : Prop where
  users : d'.db.store.users = d.db.store.users ++ [user]
  fresh : ∀ v ∈ d.db.store.users, v.id ≠ user.id
  email : user.email = email
  live : user.deleted = false
  organizations : Keeps d.db.store d'.db.store
  frozen : d'.frozen = d.frozen
  requests : d'.requests = d.requests

structure Changed (d d' : Directory) (st : Statement) : Prop where
  store : d'.db.store = d.db.store.assign st.id st.assignment
  frozen : d'.frozen = d.frozen
  requests : d'.requests = (st.assignment.deleted.map fun deleted =>
    ⟨st.id, !deleted, true⟩).toList ++ d.requests

inductive Effect (d : Directory) (a : Operation) : Directory → Prop
  | same {d'} (hadds : ∀ email, ¬ Adds u hashPassword d.db.store a email)
      (hchanges : ∀ st v, a.statement d.db.store = some st → ¬ st.Changes d.db.store v)
      (h : Same d d') : Effect d a d'
  | adds {d' email user} (hadds : Adds u hashPassword d.db.store a email)
      (hnone : a.statement d.db.store = none) (h : Added d d' email user) : Effect d a d'
  | changes {d' st v} (hst : a.statement d.db.store = some st) (hv : st.Changes d.db.store v)
      (hadds : ∀ email, ¬ Adds u hashPassword d.db.store a email) (h : Changed d d' st) :
      Effect d a d'
  | ignores {id active} (hadds : ∀ email, ¬ Adds u hashPassword d.db.store a email)
      (hchanges : ∀ st v, a.statement d.db.store = some st → ¬ st.Changes d.db.store v)
      (hrow : d.db.store.row id ≠ none) : Effect d a (d.ask id active false)
  | freezes {orgID frozen org} (hadds : ∀ email, ¬ Adds u hashPassword d.db.store a email)
      (hnone : a.statement d.db.store = none) (horg : org ∈ d.db.store.organizations)
      (hid : org.id = orgID) :
      Effect d a { d with frozen := Function.update d.frozen orgID frozen }

end

section Effects

variable {u : Unicode} {hashPassword : Bytes → Option Bytes} {checkPassword : Bytes → Bytes → Bool}
  {hmacSHA1 : Bytes → Bytes → Vector UInt8 20} {hashToken : Bytes → Bytes} {d d' : Directory}
  {a : Operation} {s s' : Store} {st : Statement} {email : Bytes}

lemma keeps_refl (s : Store) : Keeps s s := fun org horg => ⟨org, horg, rfl⟩

lemma keeps_append {orgs : List Organization} (h : s'.organizations = s.organizations ++ orgs) :
    Keeps s s' := by
  intro org horg
  exact ⟨org, h ▸ List.mem_append_left _ horg, rfl⟩

lemma same_refl (d : Directory) : Same d d := ⟨rfl, keeps_refl _, rfl, rfl⟩

lemma run_eq_some : st.run s = some s' ↔
    ∃ v, st.Changes s v ∧ s' = s.assign st.id st.assignment := by
  rw [Statement.run, Store.updateUser_eq_some]
  constructor
  · rintro ⟨v, hrow, hcondition, hfails, hfree, rfl⟩
    exact ⟨v, ⟨hrow, hcondition, hfails, hfree⟩, rfl⟩
  · rintro ⟨v, h, rfl⟩
    exact ⟨v, h.row, h.condition, h.succeeds, h.free, rfl⟩

lemma run_eq_none (h : st.run s = none) (v : User) : ¬ st.Changes s v := by
  intro hv
  simpa [h] using run_eq_some.mpr ⟨v, hv, rfl⟩

lemma keeps_rename {orgID : Bytes} {req : UpdateOrgRequest}
    (h : s'.organizations = OwnedRows.update Organization.id orgID (.rename req) s.organizations) :
    Keeps s s' := by
  intro org horg
  rw [h]
  refine ⟨_, List.mem_map_of_mem horg, ?_⟩
  split_ifs <;> rfl

lemma same_granted {g : Grant} {userID : Bytes} : Same d ((d.granted hashToken g userID).getD d) := by
  simp only [granted, storeRefreshToken]
  split_ifs
  · exact same_refl d
  · exact ⟨rfl, keeps_refl _, rfl, rfl⟩
  · exact same_refl d

lemma loggedIn_store {g : Grant} {r : Except LoginError User × Store} :
    (loggedIn hashToken d g r).db.store = r.2 ∧ (loggedIn hashToken d g r).frozen = d.frozen ∧
      (loggedIn hashToken d g r).requests = d.requests := by
  obtain ⟨_ | user, s⟩ := r
  · exact ⟨rfl, rfl, rfl⟩
  · simp only [loggedIn, granted, storeRefreshToken]
    split_ifs <;> exact ⟨rfl, rfl, rfl⟩

lemma effect_created {o : Outcome} {org : Bytes → Organization} {row : Bytes → Bytes → User}
    {slug : Bytes} {r : Except LoginError User × Store} (hrows : OwnerRows org row slug email)
    (hr : RowsCreated o d.db.store org row slug email r) (hnone : a.statement d.db.store = none)
    (hadds : ∀ e, Adds u hashPassword d.db.store a e ↔
      e = email ∧ InsertsOrganization o d.db.store slug ∧ InsertsUser o d.db.store email)
    (hs : d'.db.store = r.2) (hfrozen : d'.frozen = d.frozen)
    (hrequests : d'.requests = d.requests) : Effect u hashPassword d a d' := by
  cases hr with
  | noOrganization horg =>
    apply Effect.same
    · exact fun e he => horg ((hadds e).mp he).2.1
    · simp [hnone]
    · exact ⟨by rw [hs], hs ▸ keeps_refl _, hfrozen, hrequests⟩
  | noUser horg huser horgs husers =>
    apply Effect.same
    · exact fun e he => huser ((hadds e).mp he).2.2
    · simp [hnone]
    · exact ⟨by rw [hs, husers], hs ▸ keeps_append horgs, hfrozen, hrequests⟩
  | @both organizationID id s' horg huser horgs husers hfree =>
    have hadded : Added d d' email (row organizationID id) := by
      constructor
      · rw [hs, husers]
      · rw [hrows.user_id]
        exact hfree
      · exact hrows.user_email _ _
      · exact hrows.user_live _ _
      · exact hs ▸ keeps_append horgs
      · exact hfrozen
      · exact hrequests
    exact .adds ((hadds email).mpr ⟨rfl, horg, huser⟩) hnone hadded

lemma effect_register (o : Outcome) (req : RegisterRequest) :
    Effect u hashPassword d (.register o req)
      { d with db := (register u hashPassword o d.db req).2 } := by
  have hregistered := register_registered u hashPassword o d.db req
  generalize register u hashPassword o d.db req = r at hregistered ⊢
  cases hregistered with
  | refused h =>
    apply Effect.same
    · rintro email ⟨-, ⟨passwordHash, hreg⟩, -⟩
      exact h passwordHash hreg
    · simp [Operation.statement]
    · exact same_refl d
  | noOrganization h horg =>
    apply Effect.same
    · rintro email ⟨-, -, horg', -⟩
      exact horg horg'
    · simp [Operation.statement]
    · exact same_refl d
  | noUser h horg huser hs hu =>
    apply Effect.same
    · rintro email ⟨-, -, -, huser'⟩
      exact huser huser'
    · simp [Operation.statement]
    · exact ⟨hu, keeps_append hs, rfl, rfl⟩
  | @both passwordHash org user s message h horg huser hs hu hfree hrow =>
    have hadds : Adds u hashPassword d.db.store (.register o req) req.email :=
      ⟨rfl, ⟨_, h⟩, horg, huser⟩
    refine .adds hadds rfl ⟨hu, hfree, ?_, ?_, keeps_append hs, rfl, rfl⟩
    · rw [hrow]
      rfl
    · rw [hrow]
      rfl

lemma withTokens_store (fails : Bool) (r : Except LoginError User × Store) :
    (withTokens fails r).2 = r.2 := by
  obtain ⟨_ | user, s⟩ := r
  · rfl
  · cases fails <;> rfl

lemma oauthLogin_store (o : Outcome) (l : Login) (g : Grant) : (oauthLogin hashToken d o l g).2 =
    match lookupOAuth o d.db.store l with
    | some _ => d.db.store
    | none => (createAccount o d.db.store l.info).2 := by
  have hlookup : lookupOAuth { o with tokensFail := o.tokensFail || d.storeFails hashToken g }
      d.db.store l = lookupOAuth o d.db.store l := rfl
  rw [oauthLogin, handle_eq, withTokens_store, findOrCreate_eq, hlookup]
  cases lookupOAuth o d.db.store l <;> rfl

lemma loginSAML_created (o : ACSOutcome) (s : Store) (user : SAMLUser) : (loginSAML o s user).2 =
    match lookupSAML o s user with
    | some _ => s
    | none => (createSAMLAccount o s user).2 := by
  rw [loginSAML_store, findOrCreateSAMLUser]
  cases lookupSAML o s user <;> rfl

lemma effect_login {o : Outcome} {org : Bytes → Organization} {row : Bytes → Bytes → User}
    {slug : Bytes} {found : Option User} {g : Grant} {r : Except LoginError User × Store}
    (hrows : OwnerRows org row slug email) (hnone : a.statement d.db.store = none)
    (hr : r.2 = match found with
      | some _ => d.db.store
      | none => (createRows o d.db.store org row).2)
    (hadds : ∀ e, Adds u hashPassword d.db.store a e ↔ e = email ∧ found = none ∧
      InsertsOrganization o d.db.store slug ∧ InsertsUser o d.db.store email) :
    Effect u hashPassword d a (loggedIn hashToken d g r) := by
  obtain ⟨hs, hfrozen, hrequests⟩ : (loggedIn hashToken d g r).db.store = r.2 ∧ _ ∧ _ :=
    loggedIn_store
  rw [hr] at hs
  cases found with
  | some user =>
    apply Effect.same
    · intro e he
      simpa using ((hadds e).mp he).2.1
    · simp [hnone]
    · exact ⟨by rw [hs], hs ▸ keeps_refl _, hfrozen, hrequests⟩
  | none =>
    refine effect_created hrows (createRows_rows hrows) hnone (fun e => ?_) hs hfrozen hrequests
    rw [hadds e]
    simp

lemma effect_statement (hst : a.statement d.db.store = some st)
    (hadds : ∀ email, ¬ Adds u hashPassword d.db.store a email)
    (hrefused : st.run d.db.store = none → Effect u hashPassword d a d')
    (hchanged : ∀ s, st.run d.db.store = some s → Changed d d' st) :
    Effect u hashPassword d a d' := by
  cases hrun : st.run d.db.store with
  | none => exact hrefused hrun
  | some s =>
    obtain ⟨v, hv, -⟩ := run_eq_some.mp hrun
    exact .changes hst hv hadds (hchanged s hrun)

lemma effect_same (hadds : ∀ email, ¬ Adds u hashPassword d.db.store a email)
    (hnone : a.statement d.db.store = none) (h : Same d d') : Effect u hashPassword d a d' :=
  .same hadds (by simp [hnone]) h

lemma effect_refused (hst : a.statement d.db.store = some st)
    (hadds : ∀ email, ¬ Adds u hashPassword d.db.store a email)
    (hrun : st.run d.db.store = none) : Effect u hashPassword d a d := by
  refine .same hadds (fun st' v hst' => ?_) (same_refl d)
  obtain rfl := Option.some.inj (hst.symm.trans hst')
  exact run_eq_none hrun v

lemma changed_setStore {s : Store} (hrun : st.run d.db.store = some s)
    (hnone : st.assignment.deleted = none) : Changed d (d.setStore s) st := by
  obtain ⟨-, -, rfl⟩ := run_eq_some.mp hrun
  exact ⟨rfl, rfl, by simp [hnone, setStore]⟩

lemma changed_ask {s : Store} {deleted : Bool} (hrun : st.run d.db.store = some s)
    (hsome : st.assignment.deleted = some deleted) :
    Changed d ((d.setStore s).ask st.id (!deleted) true) st := by
  obtain ⟨-, -, rfl⟩ := run_eq_some.mp hrun
  exact ⟨rfl, rfl, by simp [hsome, setStore, ask]⟩

lemma effect_scimCreate (o : Scim.CreateOutcome) (body : Option Scim.SCIMUser) :
    Effect u hashPassword d (.scimCreate o body)
      { d with db := d.db.inserted (Scim.createUser o d.db.store body).2 } := by
  cases body with
  | none =>
    refine effect_same ?_ rfl ⟨rfl, keeps_refl _, rfl, rfl⟩
    rintro email ⟨user, hbody, -⟩
    cases hbody
  | some user =>
    by_cases hname : user.userName = []
    · have herror : (Scim.createUser o d.db.store (some user)).2 = d.db.store := by
        simp [Scim.createUser, hname]
      rw [herror]
      refine effect_same ?_ rfl ⟨rfl, keeps_refl _, rfl, rfl⟩
      rintro email ⟨_, ⟨rfl⟩, -, hne, -⟩
      exact hne hname
    · have hrequested := Scim.createUser_requested (o := o) (s := d.db.store) hname
      generalize Scim.createUser o d.db.store (some user) = r at hrequested ⊢
      have hkeeps : ∀ s₁, Scim.OrganizationTried o d.db.store user.userName s₁ →
          Keeps d.db.store s₁ := by
        intro s₁ htried
        by_cases horg : Scim.InsertsOrganization o d.db.store user.userName
        · exact keeps_append (htried.inserted horg)
        · rw [htried.unchanged horg]
          exact keeps_refl _
      cases hrequested with
      | refused huser htried =>
        refine effect_same ?_ rfl ⟨htried.users, hkeeps _ htried, rfl, rfl⟩
        rintro email ⟨_, ⟨rfl⟩, -, -, huser'⟩
        exact huser huser'
      | @created s₁ s₂ huser htried hs hu =>
        have hadds : Adds u hashPassword d.db.store (.scimCreate o (some user)) user.userName :=
          ⟨user, rfl, rfl, hname, huser⟩
        have husers : s₂.users = d.db.store.users ++ [Scim.userRow o user] := by
          rw [hu, htried.users]
        refine .adds hadds rfl ⟨husers, fun v hv => (huser.2.1 v hv).1, rfl, rfl, ?_, rfl, rfl⟩
        intro org horg
        obtain ⟨org', horg', hid⟩ := hkeeps s₁ htried org horg
        exact ⟨org', hs ▸ horg', hid⟩

lemma effect_asked {f : Store → Directory} {deleted : Bool}
    (hst : a.statement d.db.store = some st)
    (hadds : ∀ email, ¬ Adds u hashPassword d.db.store a email)
    (hdeleted : st.assignment.deleted = some deleted)
    (hd : d' = ((st.run d.db.store).map f).getD d)
    (hf : ∀ s, (f s).db.store = s ∧ (f s).frozen = d.frozen ∧
      (f s).requests = ⟨st.id, !deleted, true⟩ :: d.requests) :
    Effect u hashPassword d a d' := by
  apply effect_statement hst hadds
  · intro hrun
    have hsame : d' = d := by simp [hd, hrun]
    rw [hsame]
    exact effect_refused hst hadds hrun
  · intro s hrun
    have hnext : d' = f s := by simp [hd, hrun]
    obtain ⟨hstore, hfrozen, hrequests⟩ := hf s
    have hasked := changed_ask hrun hdeleted
    rw [hnext]
    exact ⟨hstore.trans hasked.store, hfrozen.trans hasked.frozen,
      hrequests.trans hasked.requests⟩

lemma effect_scimReplace (fails : Bool) (id : Bytes) (body : Option Scim.SCIMUser) :
    Effect u hashPassword d (.scimReplace fails id body)
      (perform u hashPassword checkPassword hmacSHA1 hashToken d (.scimReplace fails id body)) := by
  cases body with
  | none => exact effect_same (fun _ h => h) rfl (same_refl d)
  | some user =>
    have hst : (Operation.scimReplace fails id (some user)).statement d.db.store =
        some ⟨fails, id, User.live, user.assignment⟩ := rfl
    refine effect_asked (f := fun s => (d.setStore s).ask id user.active true) hst (fun _ h => h) rfl
      ?_ fun s => ⟨rfl, rfl, ?_⟩
    · simp only [perform, Scim.replaceUser, Statement.run]
      cases d.db.store.updateUser fails id User.live user.assignment <;> rfl
    · rw [Bool.not_not]
      rfl

lemma assignment_deleted {e : Scim.PatchEntry} {c : Assignment} (h : e.assignment = some c) :
    c.deleted = (activeOf e).map (! ·) := by
  obtain ⟨byPath, name, value⟩ := e
  cases byPath with
  | true => cases h
  | false =>
    cases value with
    | bool active =>
      obtain ⟨(hname : name = ascii "active"), hc⟩ := Option.ite_none_right_eq_some.mp h
      obtain rfl := Option.some.inj hc
      simp [activeOf, hname]
    | str text =>
      simp only [Scim.PatchEntry.assignment, Bool.false_eq_true, if_false] at h
      split_ifs at h <;> obtain rfl := Option.some.inj h <;> rfl
    | null => cases h
    | num n => cases h
    | real numeral => cases h
    | arr items => cases h
    | obj fields => cases h

lemma effect_scimPatch (fails : Bool) (id : Bytes) (e : Scim.PatchEntry) :
    Effect u hashPassword d (.scimPatch fails id e)
      (perform u hashPassword checkPassword hmacSHA1 hashToken d (.scimPatch fails id e)) := by
  have hadds : ∀ email, ¬ Adds u hashPassword d.db.store (.scimPatch fails id e) email := fun _ h => h
  -- an entry whose statement changes nothing leaves the row as it was, whatever it asks for
  have hkept : (∀ st v, (Operation.scimPatch fails id e).statement d.db.store = some st →
        ¬ st.Changes d.db.store v) → Scim.patchEntry fails d.db.store id e = d.db.store →
      patchDone fails id e d.db.store = false → Effect u hashPassword d (.scimPatch fails id e)
        (perform u hashPassword checkPassword hmacSHA1 hashToken d (.scimPatch fails id e)) := by
    intro hchanges hstore hdone
    simp only [perform, hstore, hdone]
    cases activeOf e with
    | none => exact .same hadds hchanges (same_refl d)
    | some active =>
      simp only
      split_ifs with hrow
      · exact .same hadds hchanges (same_refl d)
      · exact .ignores hadds hchanges hrow
  cases hc : e.assignment with
  | none =>
    apply hkept
    · simp [Operation.statement, hc]
    · simp [Scim.patchEntry, hc]
    · simp [patchDone, hc]
  | some c =>
    have hst : (Operation.scimPatch fails id e).statement d.db.store =
        some ⟨fails, id, fun _ => true, c⟩ := by
      simp [Operation.statement, hc]
    cases hrun : d.db.store.updateUser fails id (fun _ => true) c with
    | none =>
      apply hkept
      · intro st v hst'
        obtain rfl := Option.some.inj (hst.symm.trans hst')
        have hrun' : (⟨fails, id, fun _ => true, c⟩ : Statement).run d.db.store = none := hrun
        exact run_eq_none hrun' v
      · simp [Scim.patchEntry, hc, hrun]
      · simp [patchDone, hc, hrun]
    | some s =>
      have hrun' : (⟨fails, id, fun _ => true, c⟩ : Statement).run d.db.store = some s := hrun
      obtain ⟨v, hv, -⟩ := run_eq_some.mp hrun'
      apply Effect.changes hst hv hadds
      have hdeleted := assignment_deleted hc
      have hrow : d.db.store.row id ≠ none := by simp [hv.row]
      have hstore : Scim.patchEntry fails d.db.store id e = s := by
        simp [Scim.patchEntry, hc, hrun]
      have hdone : patchDone fails id e d.db.store = true := by simp [patchDone, hc, hrun]
      simp only [perform, hstore, hdone, hrow, if_false]
      cases ha : activeOf e with
      | none =>
        rw [ha] at hdeleted
        exact changed_setStore hrun' hdeleted
      | some active =>
        rw [ha] at hdeleted
        have hchanged := changed_ask hrun' hdeleted
        rwa [Bool.not_not] at hchanged

lemma effect_scimDelete (fails : Bool) (id : Bytes) :
    Effect u hashPassword d (.scimDelete fails id)
      (perform u hashPassword checkPassword hmacSHA1 hashToken d (.scimDelete fails id)) := by
  have hst : (Operation.scimDelete fails id).statement d.db.store =
      some ⟨fails, id, User.live, { deleted := some true }⟩ := rfl
  refine effect_asked (f := fun s => (d.setStore s).ask id false true) hst (fun _ h => h) rfl ?_
    fun s => ⟨rfl, rfl, rfl⟩
  simp only [perform, Scim.deleteUser, Statement.run]
  cases d.db.store.updateUser fails id User.live { deleted := some true } <;> rfl

lemma effect_disable (fails tokensFail : Bool) (id : Bytes) :
    Effect u hashPassword d (.disable fails tokensFail id)
      (d.handleAdminDisableUser fails tokensFail id).2 := by
  have hst : (Operation.disable fails tokensFail id).statement d.db.store =
      some ⟨fails, id, User.live, { deleted := some true }⟩ := rfl
  refine effect_asked (f := fun s => { (d.setStore s).ask id false true with
    refreshTokens := d.tokensWithout tokensFail id }) hst (fun _ h => h) rfl ?_
    fun s => ⟨rfl, rfl, rfl⟩
  simp only [handleAdminDisableUser, Statement.run]
  cases d.db.store.updateUser fails id User.live { deleted := some true } <;> rfl

lemma effect_enable (fails : Bool) (id : Bytes) :
    Effect u hashPassword d (.enable fails id) (d.handleAdminEnableUser fails id).2 := by
  have hst : (Operation.enable fails id).statement d.db.store =
      some ⟨fails, id, User.deleted, { deleted := some false }⟩ := rfl
  refine effect_asked (f := fun s => (d.setStore s).ask id true true) hst (fun _ h => h) rfl ?_
    fun s => ⟨rfl, rfl, rfl⟩
  simp only [handleAdminEnableUser, Statement.run]
  cases d.db.store.updateUser fails id User.deleted { deleted := some false } <;> rfl

lemma effect_scimMember (fails : Bool) (orgID userID : Bytes) :
    Effect u hashPassword d (.scimMember fails orgID userID)
      (d.setStore ((Scim.addMember fails d.db.store orgID userID).getD d.db.store)) := by
  by_cases horg : ∃ org ∈ d.db.store.organizations, org.id = orgID
  · have hst : (Operation.scimMember fails orgID userID).statement d.db.store =
        some ⟨fails, userID, fun _ => true, { organizationID := some orgID }⟩ := if_pos horg
    have hadd : Scim.addMember fails d.db.store orgID userID = (⟨fails, userID, fun _ => true,
        { organizationID := some orgID }⟩ : Statement).run d.db.store := if_pos horg
    rw [hadd]
    apply effect_statement hst (fun _ h => h)
    · intro hrun
      rw [hrun]
      exact effect_refused hst (fun _ h => h) hrun
    · intro s hrun
      rw [hrun]
      exact changed_setStore hrun rfl
  · have hadd : Scim.addMember fails d.db.store orgID userID = none := if_neg horg
    rw [hadd]
    exact effect_same (fun _ h => h) (if_neg horg) (same_refl d)

lemma effect_frozen (fails : Bool) (orgID : Bytes) (frozen : Bool)
    (hadds : ∀ email, ¬ Adds u hashPassword d.db.store a email)
    (hnone : a.statement d.db.store = none) :
    Effect u hashPassword d a ((d.setFrozen fails orgID frozen).getD d) := by
  simp only [setFrozen]
  split_ifs with h
  · obtain ⟨-, ⟨org, horg, hid⟩, -⟩ := h
    exact .freezes hadds hnone horg hid
  · exact effect_same hadds hnone (same_refl d)

lemma same_tokens {tokens : Tokens} : Same d { d with refreshTokens := tokens } :=
  ⟨rfl, keeps_refl _, rfl, rfl⟩

lemma same_refreshToken (o : RefreshOutcome) (token : Bytes) :
    Same d (d.refreshToken hashToken o token).2 := by
  simp only [refreshToken]
  split
  · exact same_refl d
  · split
    · exact same_refl d
    · split
      · exact same_refl d
      · split
        · exact same_refl d
        · split
          · exact same_tokens
          next d' hd' =>
            obtain ⟨-, hd'⟩ := Option.ite_none_left_eq_some.mp hd'
            obtain ⟨-, hd'⟩ := Option.ite_none_right_eq_some.mp hd'
            obtain rfl := Option.some.inj hd'
            split <;> exact same_tokens

lemma same_requestPasswordReset (o : ResetOutcome) (email : Bytes) :
    Same d (d.requestPasswordReset hashToken o email).2 := by
  simp only [requestPasswordReset]
  split
  · exact same_refl d
  · split
    · exact same_refl d
    · split_ifs
      · exact same_refl d
      · exact ⟨rfl, keeps_refl _, rfl, rfl⟩

lemma same_handleAdminResetPassword (fails tokensFail : Bool) (id newPassword : Bytes) :
    Same d (d.handleAdminResetPassword u hashPassword fails tokensFail id newPassword).2 := by
  simp only [handleAdminResetPassword]
  split
  · exact same_refl d
  · split
    · exact same_refl d
    · split
      · exact same_refl d
      · split
        · exact same_refl d
        · exact ⟨rfl, keeps_refl _, rfl, rfl⟩

lemma same_db {db : Database} (h : db.store = d.db.store) : Same d { d with db := db } := by
  have hkeeps : Keeps d.db.store db.store := h ▸ keeps_refl _
  exact ⟨congrArg Store.users h, hkeeps, rfl, rfl⟩

lemma enrollMFA_store (o : ServiceOutcome) (db : Database) (userID : Option Bytes)
    (draw : Option (Vector UInt8 20)) :
    (OmniTun.Auth.enrollMFA o db userID draw).2.store = db.store := by
  rcases enrollMFA_cases o db userID draw with ⟨⟨err, h⟩, -⟩ | ⟨_, _, -, -, -, h⟩
  · rw [h]
  · rw [h]
    rfl

lemma verifyMFA_store (o : ServiceOutcome) (db : Database) (userID : Option Bytes) (code : Bytes)
    (now : ℕ) : (OmniTun.Auth.verifyMFA hmacSHA1 o db userID code now).2.store = db.store := by
  rcases verifyMFA_cases hmacSHA1 o db userID code now with ⟨_, h, -⟩ | ⟨_, _, -, -, -, -, h⟩
  · rw [h]
  · rw [h]
    rfl

lemma disableMFA_store (o : ServiceOutcome) (db : Database) (userID : Option Bytes) :
    (OmniTun.Auth.disableMFA o db userID).2.store = db.store := by
  rcases disableMFA_cases o db userID with ⟨_, h⟩ | ⟨_, -, h⟩
  · rw [h]
  · rw [h]
    rfl

lemma same_organizations {s : Store} (husers : s.users = d.db.store.users)
    (horgs : Keeps d.db.store s) : Same d (d.setStore s) := ⟨husers, horgs, rfl, rfl⟩

lemma same_createGroup (fails : Bool) (org : Organization) : Same d (d.setStore
    ((if fails then none else d.db.store.createOrganization org).getD d.db.store)) := by
  cases fails with
  | true => exact same_refl d
  | false =>
    rw [if_neg Bool.false_ne_true]
    rcases createOrganization_cases d.db.store org with ⟨-, h⟩ | ⟨-, h⟩
    · rw [h]
      exact same_organizations rfl (keeps_append rfl)
    · rw [h]
      exact same_refl d

lemma same_handleUpdateOrg (fails : Bool) (orgID : Bytes) (body : Option UpdateOrgRequest) :
    Same d (d.setStore (handleUpdateOrg fails d.db.store orgID body).2) := by
  cases body with
  | none => exact same_refl d
  | some req =>
    simp only [handleUpdateOrg]
    split_ifs with hempty
    · exact same_refl d
    · simp only [Store.updateOrg]
      split_ifs
      · exact same_refl d
      · exact same_organizations rfl (keeps_rename rfl)

theorem perform_effect (d : Directory) (a : Operation) :
    Effect u hashPassword d a (perform u hashPassword checkPassword hmacSHA1 hashToken d a) := by
  have hsame : ∀ {a d'}, (∀ email, ¬ Adds u hashPassword d.db.store a email) →
      a.statement d.db.store = none → Same d d' → Effect u hashPassword d a d' := effect_same
  cases a with
  | register o req => exact effect_register o req
  | login o req now g =>
    refine hsame (fun _ h => h) rfl ?_
    simp only [perform]
    split
    · exact same_refl d
    · exact same_granted
  | refresh o token => exact hsame (fun _ h => h) rfl (same_refreshToken o token)
  | oauth o l g =>
    exact effect_login (oauthRows l.info) rfl (oauthLogin_store o l g) fun _ => Iff.rfl
  | saml o user g =>
    exact effect_login (samlRows user) rfl (loginSAML_created o d.db.store user) fun _ => Iff.rfl
  | requestReset o email => exact hsame (fun _ h => h) rfl (same_requestPasswordReset o email)
  | reset path token newPassword calls =>
    exact hsame (fun _ h => h) rfl ⟨rfl, keeps_refl _, rfl, rfl⟩
  | scimCreate o body => exact effect_scimCreate o body
  | scimReplace fails id body => exact effect_scimReplace fails id body
  | scimPatch fails id e => exact effect_scimPatch fails id e
  | scimDelete fails id => exact effect_scimDelete fails id
  | scimGroup fails org => exact hsame (fun _ h => h) rfl (same_createGroup fails org)
  | scimMember fails orgID userID => exact effect_scimMember fails orgID userID
  | disable fails tokensFail id => exact effect_disable fails tokensFail id
  | enable fails id => exact effect_enable fails id
  | freeze fails orgID =>
    have hfreeze : (d.handleAdminFreezeOrg fails orgID).2 =
        (d.setFrozen fails orgID true).getD d := by
      rw [handleAdminFreezeOrg]
      cases d.setFrozen fails orgID true <;> rfl
    simp only [perform, hfreeze]
    exact effect_frozen fails orgID true (fun _ h => h) rfl
  | unfreeze fails orgID =>
    have hunfreeze : (d.handleAdminUnfreezeOrg fails orgID).2 =
        (d.setFrozen fails orgID false).getD d := by
      rw [handleAdminUnfreezeOrg]
      cases d.setFrozen fails orgID false <;> rfl
    simp only [perform, hunfreeze]
    exact effect_frozen fails orgID false (fun _ h => h) rfl
  | updateOrg fails orgID body =>
    exact hsame (fun _ h => h) rfl (same_handleUpdateOrg fails orgID body)
  | adminReset fails tokensFail id newPassword =>
    exact hsame (fun _ h => h) rfl (same_handleAdminResetPassword fails tokensFail id newPassword)
  | enrollMFA o userID draw =>
    exact hsame (fun _ h => h) rfl (same_db (enrollMFA_store o d.db userID draw))
  | verifyMFA o userID code now =>
    exact hsame (fun _ h => h) rfl (same_db (verifyMFA_store o d.db userID code now))
  | disableMFA o userID => exact hsame (fun _ h => h) rfl (same_db (disableMFA_store o d.db userID))

lemma run_patchEntries (entries : List (Bool × Scim.PatchEntry)) (id : Bytes) : ∃ d',
    run (step u hashPassword checkPassword hmacSHA1 hashToken) d
      (entries.map fun e => .scimPatch e.1 id e.2) = some d' ∧
    d'.db.store = Scim.patchEntries d.db.store id entries := by
  induction entries generalizing d with
  | nil => exact ⟨d, rfl, rfl⟩
  | cons e entries ih =>
    have hstore : (perform u hashPassword checkPassword hmacSHA1 hashToken d
        (.scimPatch e.1 id e.2)).db.store = Scim.patchEntry e.1 d.db.store id e.2 := by
      simp only [perform]
      cases activeOf e.2 with
      | none => rfl
      | some active =>
        simp only
        split_ifs <;> rfl
    obtain ⟨d', hrun, hd'⟩ := ih (d := perform u hashPassword checkPassword hmacSHA1 hashToken d
      (.scimPatch e.1 id e.2))
    refine ⟨d', hrun, ?_⟩
    rw [hd', hstore]
    rfl

theorem run_patchUser (fails : ℕ → Bool) (selectFails : Bool) (id : Bytes)
    (ops : List Scim.SCIMPatchOperation) : ∃ d',
    run (step u hashPassword checkPassword hmacSHA1 hashToken) d
      ((Scim.patchStatements fails ops).map fun e => .scimPatch e.1 id e.2) = some d' ∧
    d'.db.store = (Scim.patchUser fails selectFails d.db.store id (some ops)).2 := by
  by_cases hempty : ops = []
  · refine ⟨d, by rw [hempty]; rfl, ?_⟩
    simp [Scim.patchUser, hempty]
  · obtain ⟨d', hrun, hd'⟩ := run_patchEntries (Scim.patchStatements fails ops) id
    refine ⟨d', hrun, ?_⟩
    rw [hd']
    simp only [Scim.patchUser, if_neg hempty]
    split <;> rfl

end Effects

section Refreshes

open RefreshTokens (RefreshTokenRecord refreshLifetime)

variable (hashToken : Bytes → Bytes) (users : Bytes → Option User) (token : Bytes)

def Answers (l : RefreshTokens.Local) (s : RefreshTokens.Store Unit)
    (r : Except AppError User × Directory) : Prop :=
  ∃ calls w result,
    run (Processes.step (RefreshTokens.next hashToken users token fun _ => .refresh))
      ⟨fun _ => l, s⟩ calls = some w ∧
    w.locals () = .refreshed result ∧ (∀ err, result = .error err ↔ r.1 = .error err) ∧
    ∀ h, w.store.tokens.lookup h = r.2.refreshTokens h

variable {hashToken users token} {l l' : RefreshTokens.Local} {s s' : RefreshTokens.Store Unit}
  {r : Except AppError User × Directory} {d : Directory}

lemma answers_error {err : AppError} (hs : ∀ h, s.tokens.lookup h = d.refreshTokens h) :
    Answers hashToken users token (.refreshed (.error err)) s (.error err, d) :=
  ⟨[], _, .error err, rfl, rfl, fun _ => by simp, hs⟩

lemma answers_call (c : RefreshTokens.Call)
    (hnext : RefreshTokens.next hashToken users token (fun _ => .refresh) () c l s = some (l', s'))
    (h : Answers hashToken users token l' s' r) : Answers hashToken users token l s r := by
  obtain ⟨calls, w, result, hrun, hw⟩ := h
  refine ⟨((), c) :: calls, w, result, ?_, hw⟩
  have hstep : Processes.step (RefreshTokens.next hashToken users token fun _ => .refresh)
      ⟨fun _ => l, s⟩ ((), c) = some ⟨fun _ => l', s'⟩ := by
    simp only [Processes.step, hnext, Option.map_some]
    congr 2
  rw [run_cons, hstep]
  exact hrun

lemma answers_stored (o : RefreshOutcome) (newToken access : Bytes) (user : User)
    (hs : ∀ h, s.tokens.lookup h = d.refreshTokens h) :
    Answers hashToken users token (.stored newToken) s
      (if o.accessFails then (.error (.internal "failed to generate access token"), d)
      else (.ok user, d)) := by
  cases haccess : o.accessFails with
  | true => exact answers_call {} rfl (answers_error hs)
  | false =>
    refine answers_call { access := some access } rfl ?_
    exact ⟨[], _, .ok ⟨access, newToken⟩, rfl, rfl, fun _ => by simp, hs⟩

lemma answers_deleted (o : RefreshOutcome) (newToken access : Bytes) (user : User)
    (hs : ∀ h, s.tokens.lookup h = d.refreshTokens h) :
    Answers hashToken users token (.deleted user newToken (o.now + refreshLifetime)) s
      (match if o.storeFails then none
        else d.storeRefreshToken (hashToken newToken) ⟨user.id, o.now + refreshLifetime⟩ with
      | none => (.error (.internal "failed to store new refresh token"), d)
      | some d =>
        if o.accessFails then (.error (.internal "failed to generate access token"), d)
        else (.ok user, d)) := by
  by_cases hfails : o.storeFails = true ∨ d.refreshTokens (hashToken newToken) ≠ none
  · have hnone : (if o.storeFails then none else d.storeRefreshToken (hashToken newToken)
        ⟨user.id, o.now + refreshLifetime⟩) = none := by
      rcases hfails with hfails | htaken
      · rw [if_pos hfails]
      · rw [storeRefreshToken, if_neg htaken, ite_self]
    rw [hnone]
    refine answers_call { fails := o.storeFails } ?_ (answers_error hs)
    have hnext : (if o.storeFails then none else s.storeRefreshToken (hashToken newToken)
        ⟨user.id, o.now + refreshLifetime⟩) = none := by
      rcases hfails with hfails | htaken
      · rw [if_pos hfails]
      · rw [RefreshTokens.Store.storeRefreshToken, hs, if_neg htaken, ite_self]
    simp only [RefreshTokens.next, hnext]
  · push Not at hfails
    obtain ⟨hfails, hfree⟩ := hfails
    have hnext : RefreshTokens.next hashToken users token (fun _ => .refresh) () {}
        (.deleted user newToken (o.now + refreshLifetime)) s = some (.stored newToken,
          ⟨s.tokens.insert (hashToken newToken) ⟨user.id, o.now + refreshLifetime⟩, s.events⟩) := by
      simp only [RefreshTokens.next, RefreshTokens.Store.storeRefreshToken, hs, hfree, if_true]
      rfl
    rw [if_neg hfails, storeRefreshToken, if_pos hfree]
    apply answers_call _ hnext (answers_stored o newToken access user _)
    intro h
    simp only [Table.lookup_insert, Function.update_apply, hs]

/-- A refresh in one step does what its calls do. -/
theorem answers_refreshToken (o : RefreshOutcome) (access : Bytes)
    (hs : ∀ h, s.tokens.lookup h = d.refreshTokens h) :
    Answers hashToken d.db.getUserByID token .received s (d.refreshToken hashToken o token) := by
  have hlookup : s.getRefreshToken (hashToken token) o.now =
      d.getRefreshToken (hashToken token) o.now := by
    rw [RefreshTokens.Store.getRefreshToken, hs]
    rfl
  simp only [refreshToken]
  split
  next hnone =>
    refine answers_call { now := o.now, fails := o.lookupFails } ?_ (answers_error hs)
    simp only [RefreshTokens.next, hlookup, hnone]
  next record hrecord =>
    have hfound : RefreshTokens.next hashToken d.db.getUserByID token (fun _ => .refresh) ()
        { now := o.now, fails := o.lookupFails } .received s = some (.found record, s) := by
      simp only [RefreshTokens.next, hlookup, hrecord]
    apply answers_call _ hfound
    split
    next hnone =>
      refine answers_call { fails := o.userFails } ?_ (answers_error hs)
      simp only [RefreshTokens.next, hnone]
    next user huser =>
      have hidentified : RefreshTokens.next hashToken d.db.getUserByID token (fun _ => .refresh) ()
          { fails := o.userFails } (.found record) s = some (.identified user, s) := by
        simp only [RefreshTokens.next, huser]
      apply answers_call _ hidentified
      split
      next hdraw => exact answers_call {} rfl (answers_error hs)
      next newToken hdraw =>
        split
        next hdelete =>
          exact answers_call { fails := true, draw := some newToken } rfl (answers_error hs)
        next hdelete =>
          apply answers_call { now := o.now, draw := some newToken } rfl
          apply answers_deleted o newToken access user
          intro h
          simp only [RefreshTokens.Store.deleteRefreshToken, Table.lookup_erase,
            Function.update_apply, hs]

end Refreshes

end OmniTun.Auth.Directory
