import OmniTun.Auth.Registration
import OmniTun.Auth.Scim
import OmniTun.Auth.SecondFactor

/-! Whether the creation of an account leaves both of its rows or none. -/

namespace OmniTun.Auth.AccountCreation

open OmniTun.Foundation PasswordReset Saml Identities SecondFactor Mfa
open Scim (SCIMUser CreateOutcome)

def acsUser (xml : Bytes → Option Xml.Node) (samlEnabled : Bool) (r : ACSRequest) :
    Option SAMLUser :=
  if samlEnabled then (successfulResponse xml r).map fun p => p.2.assertion.user else none

inductive Attempt
  | register (o : Outcome) (req : RegisterRequest)
  | oauth (o : Outcome) (info : OAuthUserInfo)
  | saml (samlEnabled : Bool) (o : ACSOutcome) (r : ACSRequest)
  | scim (o : CreateOutcome) (body : Option SCIMUser)

section

variable (u : Unicode) (hashPassword : Bytes → Option Bytes) (xml : Bytes → Option Xml.Node)

def Attempt.email : Attempt → Option Bytes
  | .register _ req => some req.email
  | .oauth _ info => some info.email
  | .saml samlEnabled _ r => (acsUser xml samlEnabled r).map SAMLUser.email
  | .scim _ body => body.map SCIMUser.userName

def Attempt.found (s : Store) : Attempt → Option User
  | .oauth o info => (lookupByProvider o s info).or (lookupByEmail o s info)
  | .saml samlEnabled o r => (acsUser xml samlEnabled r).bind (lookupSAML o s)
  | _ => none

/-- The id of the user if the attempt reports success, and the tables after it. -/
def attempt (db : Database) : Attempt → Option Bytes × Database
  | .register o req =>
    let r := register u hashPassword o db req
    (r.1.toOption.map RegisterResponse.userID, r.2)
  | .oauth o info =>
    let r := findOrCreateOAuthUser o db.store info
    (r.1.toOption.map User.id, db.inserted r.2)
  | .saml samlEnabled o r =>
    let r := handleSAMLACS xml samlEnabled o db.store r
    (r.1.toOption.map User.id, db.inserted r.2)
  | .scim o body =>
    let r := Scim.createUser o db.store body
    (r.1.toOption.map SCIMUser.id, db.inserted r.2)

structure Unchanged (db db' : Database) : Prop where
  store : db'.store = db.store
  credentials : ∀ id ∈ db.ids, db'.credentials id = db.credentials id

def Created (db db' : Database) (id : Bytes) : Prop :=
  ∃ org user, db'.store.organizations = db.store.organizations ++ [org] ∧
    db'.store.users = db.store.users ++ [user] ∧ user.id = id ∧ user.organizationID = org.id

/-- A success leaves both rows of a new account, or finds an account that was there. A failure
changes nothing, and what the same email would have got before, it gets afterwards. -/
def AllOrNothing (db : Database) (a : Attempt) : Prop :=
  match attempt u hashPassword xml db a with
  | (some id, db') => Created db db' id ∨
      (∃ user, a.found xml db.store = some user ∧ user.id = id) ∧ Unchanged db db'
  | (none, db') => Unchanged db db' ∧ ∀ later : Attempt, later.email xml = a.email xml →
      (attempt u hashPassword xml db later).1.isSome →
        (attempt u hashPassword xml db' later).1.isSome

/-- Where the organisation's row is inserted, nothing after it fails. -/
def Whole (s : Store) (a : Attempt) : Prop :=
  match a with
  | .register o req => (∃ passwordHash, Registers u hashPassword req passwordHash) →
      InsertsOrganization o s (emailToSlug req.email) → InsertsUser o s req.email
  | .oauth o info => a.found xml s = none →
      InsertsOrganization o s (sanitizeSlug info.email) → InsertsUser o s info.email
  | .saml samlEnabled o r => ∀ user, acsUser xml samlEnabled r = some user →
      a.found xml s = none → InsertsOrganization o.toOutcome s (emailToSlug user.email) →
        InsertsUser o.toOutcome s user.email ∧ o.issueFails = false
  | .scim o body => ∀ user, body = some user → user.userName ≠ [] →
      (Scim.InsertsOrganization o s user.userName ↔ Scim.InsertsUser o s user.userName)

end

section Outcomes

variable {u : Unicode} {hashPassword : Bytes → Option Bytes} {xml : Bytes → Option Xml.Node}
  {db db' : Database} {a : Attempt} {id : Bytes} {org : Organization} {user : User} {s : Store}

lemma unchanged_self : Unchanged db db := ⟨rfl, fun _ _ => rfl⟩

lemma unchanged_inserted : Unchanged db (db.inserted db.store) :=
  ⟨rfl, fun _ hid => inserted_of_mem hid⟩

lemma not_unchanged (h : db'.store.organizations = db.store.organizations ++ [org]) :
    ¬ Unchanged db db' := by
  intro hsame
  rw [hsame.store] at h
  have hlength := congrArg List.length h
  simp at hlength

lemma attempt_of_store (h : db'.store = db.store) (a : Attempt) :
    (attempt u hashPassword xml db' a).1 = (attempt u hashPassword xml db a).1 := by
  obtain ⟨s, c⟩ := db
  obtain ⟨s', c'⟩ := db'
  obtain rfl : s' = s := h
  cases a with
  | register o req =>
    simp only [attempt, register]
    cases validateEmail req.email with
    | some err => rfl
    | none =>
      cases validatePassword u req.password with
      | some err => rfl
      | none =>
        cases hashPassword req.password with
        | none => rfl
        | some passwordHash =>
          simp only
          obtain ⟨err | user, s⟩ := createRows o s' _ _
          · cases err <;> rfl
          · rfl
  | oauth o info => rfl
  | saml samlEnabled o r => rfl
  | scim o body => rfl

lemma allOrNothing_failed (h : attempt u hashPassword xml db a = (none, db')) :
    AllOrNothing u hashPassword xml db a ↔ Unchanged db db' := by
  simp only [AllOrNothing, h]
  refine ⟨fun hsame => hsame.1, fun hsame => ⟨hsame, fun later _ hlater => ?_⟩⟩
  rw [attempt_of_store hsame.store]
  exact hlater

lemma allOrNothing_created (h : attempt u hashPassword xml db a = (some id, db'))
    (hcreated : Created db db' id) : AllOrNothing u hashPassword xml db a := by
  simp only [AllOrNothing, h]
  exact .inl hcreated

lemma allOrNothing_found (h : attempt u hashPassword xml db a = (some user.id, db'))
    (hfound : a.found xml db.store = some user) (hsame : Unchanged db db') :
    AllOrNothing u hashPassword xml db a := by
  simp only [AllOrNothing, h]
  exact .inr ⟨⟨user, hfound, rfl⟩, hsame⟩

lemma not_allOrNothing (h : attempt u hashPassword xml db a = (none, db'))
    (hs : db'.store.organizations = db.store.organizations ++ [org]) :
    ¬ AllOrNothing u hashPassword xml db a := by
  rw [allOrNothing_failed h]
  exact not_unchanged hs

lemma register_iff (o : Outcome) (req : RegisterRequest) :
    AllOrNothing u hashPassword xml db (.register o req) ↔
      Whole u hashPassword xml db.store (.register o req) := by
  have hregistered := register_registered u hashPassword o db req
  have hattempt : attempt u hashPassword xml db (.register o req) =
      ((register u hashPassword o db req).1.toOption.map RegisterResponse.userID,
        (register u hashPassword o db req).2) := rfl
  generalize register u hashPassword o db req = r at hregistered hattempt
  cases hregistered with
  | refused h =>
    apply iff_of_true
    · exact (allOrNothing_failed hattempt).mpr unchanged_self
    · rintro ⟨passwordHash, hreg⟩
      exact absurd hreg (h passwordHash)
  | noOrganization h horg =>
    apply iff_of_true
    · exact (allOrNothing_failed hattempt).mpr unchanged_self
    · exact fun _ h => absurd h horg
  | noUser h horg huser hs hu =>
    apply iff_of_false
    · exact not_allOrNothing hattempt hs
    · exact fun hwhole => huser (hwhole ⟨_, h⟩ horg)
  | both h horg huser hs hu hfree hrow =>
    apply iff_of_true
    · refine allOrNothing_created hattempt ⟨_, _, hs, hu, rfl, ?_⟩
      rw [hrow]
      rfl
    · exact fun _ _ => huser

lemma created_iff {o : Outcome} {org : Bytes → Organization} {row : Bytes → Bytes → User}
    {slug email : Bytes} {r : Except LoginError User × Store} {fails : Bool}
    (hrows : OwnerRows org row slug email) (hr : RowsCreated o db.store org row slug email r)
    (hattempt : attempt u hashPassword xml db a =
      ((withTokens fails r).1.toOption.map User.id, db.inserted (withTokens fails r).2)) :
    AllOrNothing u hashPassword xml db a ↔
      (InsertsOrganization o db.store slug → InsertsUser o db.store email ∧ fails = false) := by
  cases hr with
  | noOrganization horg =>
    apply iff_of_true
    · exact (allOrNothing_failed hattempt).mpr unchanged_inserted
    · exact fun h => absurd h horg
  | noUser horg huser hs hu =>
    apply iff_of_false
    · exact not_allOrNothing hattempt hs
    · exact fun h => huser (h horg).1
  | both horg huser hs hu hfree =>
    cases fails with
    | true =>
      apply iff_of_false
      · exact not_allOrNothing hattempt hs
      · exact fun h => by simpa using (h horg).2
    | false =>
      apply iff_of_true
      · refine allOrNothing_created hattempt ⟨_, _, hs, hu, rfl, ?_⟩
        rw [hrows.user_organization, hrows.org_id]
      · exact fun _ => ⟨huser, rfl⟩

lemma withTokens_issued (r : Except LoginError User × Store) : withTokens false r = r := by
  obtain ⟨_ | user, s⟩ := r <;> rfl

lemma oauthRows (info : OAuthUserInfo) :
    OwnerRows (fun id => ⟨id, info.email, sanitizeSlug info.email, ascii "free"⟩)
      (fun organizationID id =>
        { id := id
          organizationID := organizationID
          email := info.email
          displayName := info.displayName
          avatarURL := if info.avatarURL = [] then none else some info.avatarURL
          role := ascii "owner"
          authProvider := info.provider
          authProviderID := some info.providerUserID
          deleted := false }) (sanitizeSlug info.email) info.email := by
  constructor <;> intros <;> rfl

lemma samlRows (user : SAMLUser) :
    OwnerRows (fun id => ⟨id, user.email, emailToSlug user.email, ascii "free"⟩)
      (fun organizationID id =>
        { id := id
          organizationID := organizationID
          email := user.email
          displayName := user.name
          avatarURL := none
          role := ascii "owner"
          authProvider := ascii "saml"
          authProviderID := some user.nameID
          deleted := false }) (emailToSlug user.email) user.email := by
  constructor <;> intros <;> rfl

lemma oauth_iff (o : Outcome) (info : OAuthUserInfo) :
    AllOrNothing u hashPassword xml db (.oauth o info) ↔
      Whole u hashPassword xml db.store (.oauth o info) := by
  cases hfound : (Attempt.oauth o info).found xml db.store with
  | some user =>
    apply iff_of_true
    · have hattempt : attempt u hashPassword xml db (.oauth o info) =
          (some user.id, db.inserted db.store) := by
        rcases Option.or_eq_some_iff.mp hfound with hprovider | ⟨hprovider, hemail⟩
        · simp only [attempt, findOrCreateOAuthUser, hprovider]
          rfl
        · simp only [attempt, findOrCreateOAuthUser, hprovider, hemail]
          rfl
      exact allOrNothing_found hattempt hfound unchanged_inserted
    · intro hnone
      simp [hfound] at hnone
  | none =>
    obtain ⟨hprovider, hemail⟩ := Option.or_eq_none_iff.mp hfound
    have hrows : RowsCreated o db.store _ _ _ _ (createAccount o db.store info) :=
      createRows_rows (oauthRows info)
    have hattempt : attempt u hashPassword xml db (.oauth o info) =
        ((withTokens false (createAccount o db.store info)).1.toOption.map User.id,
          db.inserted (withTokens false (createAccount o db.store info)).2) := by
      simp only [attempt, findOrCreateOAuthUser, hprovider, hemail, withTokens_issued]
    rw [created_iff (oauthRows info) hrows hattempt]
    simp only [Whole, hfound, true_implies, and_true]

lemma handleSAMLACS_refused {samlEnabled : Bool} {o : ACSOutcome} {r : ACSRequest}
    (h : acsUser xml samlEnabled r = none) :
    ∃ err, handleSAMLACS xml samlEnabled o s r = (.error err, s) := by
  cases samlEnabled with
  | false => exact ⟨_, rfl⟩
  | true =>
    have hnone : successfulResponse xml r = none := by simpa [acsUser] using h
    cases hform : r.form with
    | none => exact ⟨.parseForm, by simp [handleSAMLACS, hform]⟩
    | some form =>
      by_cases hvalue : formValue form "SAMLResponse" = []
      · exact ⟨.missingResponse, by simp [handleSAMLACS, hform, hvalue]⟩
      · cases hparse : parseSAMLResponse xml (formValue form "SAMLResponse") with
        | error err => exact ⟨.authentication err, by simp [handleSAMLACS, hform, hvalue, hparse]⟩
        | ok user =>
          obtain ⟨bs, root, resp, hbs, hroot, hresp, hstatus, -⟩ := parse_ok_iff.mp hparse
          have hsome := successfulResponse_eq_some.mpr
            ⟨form, bs, hform, hvalue, hbs, hroot, hresp, hstatus⟩
          simp [hnone] at hsome

lemma handleSAMLACS_parsed {samlEnabled : Bool} {o : ACSOutcome} {r : ACSRequest}
    {user : SAMLUser} (h : acsUser xml samlEnabled r = some user) :
    handleSAMLACS xml samlEnabled o s r = respondLogin (loginSAML o s user) := by
  obtain ⟨henabled, hmap⟩ := Option.ite_none_right_eq_some.mp h
  obtain ⟨⟨root, resp⟩, hresponse, rfl⟩ := Option.map_eq_some_iff.mp hmap
  obtain ⟨form, bs, hform, hvalue, hbs, hroot, hresp, hstatus⟩ :=
    successfulResponse_eq_some.mp hresponse
  have hparse := parse_ok_iff.mpr ⟨bs, root, resp, hbs, hroot, hresp, hstatus, rfl⟩
  simp only [handleSAMLACS, henabled, Bool.true_eq_false, if_false, hform, hvalue, hparse]

lemma respondLogin_toOption (r : Except LoginError User × Store) :
    (respondLogin r).1.toOption = r.1.toOption := by
  obtain ⟨_ | user, s⟩ := r <;> rfl

lemma saml_iff (samlEnabled : Bool) (o : ACSOutcome) (r : ACSRequest) :
    AllOrNothing u hashPassword xml db (.saml samlEnabled o r) ↔
      Whole u hashPassword xml db.store (.saml samlEnabled o r) := by
  cases hparsed : acsUser xml samlEnabled r with
  | none =>
    obtain ⟨err, herr⟩ := handleSAMLACS_refused (o := o) (s := db.store) hparsed
    have hattempt : attempt u hashPassword xml db (.saml samlEnabled o r) =
        (none, db.inserted db.store) := by
      simp only [attempt, herr]
      rfl
    apply iff_of_true
    · exact (allOrNothing_failed hattempt).mpr unchanged_inserted
    · intro user huser
      simp [hparsed] at huser
  | some user =>
    have hattempt : attempt u hashPassword xml db (.saml samlEnabled o r) =
        ((withTokens o.issueFails (findOrCreateSAMLUser o db.store user)).1.toOption.map User.id,
          db.inserted (withTokens o.issueFails (findOrCreateSAMLUser o db.store user)).2) := by
      simp only [attempt, handleSAMLACS_parsed hparsed, respondLogin_toOption, loginSAML_eq]
      rfl
    have hfound : (Attempt.saml samlEnabled o r).found xml db.store = lookupSAML o db.store user := by
      simp only [Attempt.found, hparsed, Option.bind_some]
    cases hlookup : lookupSAML o db.store user with
    | some account =>
      apply iff_of_true
      · simp only [findOrCreateSAMLUser, hlookup] at hattempt
        cases hfails : o.issueFails with
        | true =>
          rw [hfails] at hattempt
          exact (allOrNothing_failed hattempt).mpr unchanged_inserted
        | false =>
          rw [hfails] at hattempt
          exact allOrNothing_found hattempt (hfound.trans hlookup) unchanged_inserted
      · intro _ _ hnone
        simp [hfound, hlookup] at hnone
    | none =>
      simp only [findOrCreateSAMLUser, hlookup] at hattempt
      have hrows := createRows_rows (o := o.toOutcome) (s := db.store) (samlRows user)
      rw [created_iff (samlRows user) hrows hattempt]
      simp only [Whole, hfound, hlookup, hparsed, Option.some.injEq, forall_eq', true_implies]

lemma scim_iff (o : CreateOutcome) (body : Option SCIMUser) :
    AllOrNothing u hashPassword xml db (.scim o body) ↔
      Whole u hashPassword xml db.store (.scim o body) := by
  cases body with
  | none =>
    have hattempt : attempt u hashPassword xml db (.scim o none) = (none, db.inserted db.store) := rfl
    apply iff_of_true
    · exact (allOrNothing_failed hattempt).mpr unchanged_inserted
    · simp [Whole]
  | some user =>
    have hattempt : attempt u hashPassword xml db (.scim o (some user)) =
        ((Scim.createUser o db.store (some user)).1.toOption.map SCIMUser.id,
          db.inserted (Scim.createUser o db.store (some user)).2) := rfl
    by_cases hname : user.userName = []
    · have herror : Scim.createUser o db.store (some user) = (.error Scim.invalidValue, db.store) :=
        if_pos hname
      rw [herror] at hattempt
      apply iff_of_true
      · exact (allOrNothing_failed hattempt).mpr unchanged_inserted
      · rintro _ ⟨rfl⟩ hne
        exact absurd hname hne
    · have hwhole : Whole u hashPassword xml db.store (.scim o (some user)) ↔
          (Scim.InsertsOrganization o db.store user.userName ↔
            Scim.InsertsUser o db.store user.userName) := by
        simp only [Whole, Option.some.injEq, forall_eq', hname, ne_eq, not_false_eq_true,
          true_implies]
      have hrequested := Scim.createUser_requested (o := o) (s := db.store) hname
      generalize Scim.createUser o db.store (some user) = r at hrequested hattempt
      by_cases horg : Scim.InsertsOrganization o db.store user.userName
      · cases hrequested with
        | refused huser htried =>
          apply iff_of_false
          · exact not_allOrNothing hattempt (htried.inserted horg)
          · exact fun h => huser ((hwhole.mp h).mp horg)
        | created huser htried hs hu =>
          apply iff_of_true
          · have horgs := hs.trans (htried.inserted horg)
            have husers := hu.trans (by rw [htried.users])
            exact allOrNothing_created hattempt ⟨_, _, horgs, husers, rfl, rfl⟩
          · exact hwhole.mpr (iff_of_true horg huser)
      · cases hrequested with
        | refused huser htried =>
          obtain rfl := htried.unchanged horg
          apply iff_of_true
          · exact (allOrNothing_failed hattempt).mpr unchanged_inserted
          · exact hwhole.mpr (iff_of_false horg huser)
        | created huser htried hs hu =>
          -- the user is in an organisation that has drawn the same id before
          obtain rfl := htried.unchanged horg
          apply iff_of_false
          · simp only [AllOrNothing, hattempt]
            rintro (⟨org, _, horgs, -⟩ | ⟨⟨_, hnone, -⟩, -⟩)
            · have hlength := congrArg List.length (hs.symm.trans horgs)
              simp at hlength
            · cases hnone
          · exact fun h => horg ((hwhole.mp h).mpr huser)

end Outcomes

theorem accounts_whole_iff (u : Unicode) (hashPassword : Bytes → Option Bytes)
    (xml : Bytes → Option Xml.Node) (db : Database) (a : Attempt) :
    AllOrNothing u hashPassword xml db a ↔ Whole u hashPassword xml db.store a := by
  cases a with
  | register o req => exact register_iff o req
  | oauth o info => exact oauth_iff o info
  | saml samlEnabled o r => exact saml_iff samlEnabled o r
  | scim o body => exact scim_iff o body

def emptyDatabase : Database := ⟨emptyStore, fun _ => {}⟩

def annRequest : RegisterRequest := ⟨ascii "ann@x.dev", newPassword, []⟩

def userRefused : Outcome := { organizationID := some [1], userID := none }

theorem accounts_whole_fails :
    ¬ AllOrNothing asciiUnicode some (fun _ => none) emptyDatabase
      (.register userRefused annRequest) := by
  intro h
  have hattempt : attempt asciiUnicode some (fun _ => none) emptyDatabase
      (.register userRefused annRequest) =
        (none, (register asciiUnicode some userRefused emptyDatabase annRequest).2) := by
    have hrefused : (register asciiUnicode some userRefused emptyDatabase annRequest).1 =
        .error (.conflict "email already registered") := by
      decide +kernel
    simp only [attempt, hrefused]
    rfl
  have hsame := (allOrNothing_failed hattempt).mp h
  have horgs := congrArg Store.organizations hsame.store
  revert horgs
  decide +kernel

end OmniTun.Auth.AccountCreation
