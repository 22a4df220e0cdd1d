import OmniTun.Auth.Registration
import OmniTun.Foundation.Json
import OmniTun.Foundation.LabelledRows

/-! The users that an identity provider manages over SCIM. -/

namespace OmniTun.Auth

open OmniTun.Foundation

structure Assignment where
  organizationID : Option Bytes := none
  email : Option Bytes := none
  displayName : Option Bytes := none
  deleted : Option Bool := none
  deriving DecidableEq

def Assignment.apply (c : Assignment) (u : User) : User :=
  { u with
    organizationID := c.organizationID.getD u.organizationID
    email := c.email.getD u.email
    displayName := c.displayName.getD u.displayName
    deleted := c.deleted.getD u.deleted }

def User.live (u : User) : Bool := !u.deleted

namespace Store

variable (s : Store)

def row (id : Bytes) : Option User := s.users.find? fun u => u.id = id

def Taken (u : User) : Prop :=
  ∃ v ∈ s.users, v.id ≠ u.id ∧ v.organizationID = u.organizationID ∧ v.email = u.email

instance (u : User) : Decidable (s.Taken u) := by
  unfold Taken
  infer_instance

def assign (id : Bytes) (c : Assignment) : Store :=
  { s with
    users := OwnedRows.update User.id id c.apply s.users
    keyed := by
      have hid : ∀ u, (c.apply u).id = u.id := fun _ => rfl
      rw [OwnedRows.map_update hid]
      exact s.keyed }

def updateUser (fails : Bool) (id : Bytes) (p : User → Bool) (c : Assignment) : Option Store :=
  match (s.row id).filter p with
  | none => none
  | some u => if fails = true ∨ s.Taken (c.apply u) then none else some (s.assign id c)

end Store

namespace Scim

open Saml (emailToSlug)

structure SCIMUser where
  id : Bytes := []
  userName : Bytes
  givenName : Bytes
  familyName : Bytes
  active : Bool
  deriving DecidableEq

structure SCIMError where
  status : ℕ
  scimType : Bytes
  deriving DecidableEq

def invalidSyntax : SCIMError := ⟨400, ascii "invalidSyntax"⟩
def invalidValue : SCIMError := ⟨400, ascii "invalidValue"⟩
def uniqueness : SCIMError := ⟨409, ascii "uniqueness"⟩
def notFound : SCIMError := ⟨404, []⟩

def userToSCIM (id email displayName : Bytes) : SCIMUser where
  id := id
  userName := email
  givenName := displayName.takeWhile (· ≠ 32)
  familyName := (displayName.dropWhile (· ≠ 32)).drop 1
  active := true

def SCIMUser.displayName (u : SCIMUser) : Bytes :=
  let displayName := u.givenName ++ [32] ++ u.familyName
  if displayName = [32] then u.userName else displayName

/-- The ids that are drawn, and which of the inserts fail. The one of the user names a column that
no migration creates, and fails on a database that has no other columns than theirs. -/
structure CreateOutcome where
  orgID : Bytes
  orgFails : Bool := false
  userID : Bytes
  userFails : Bool := false

def orgRow (o : CreateOutcome) (email : Bytes) : Organization :=
  ⟨o.orgID, email, emailToSlug email, ascii "free"⟩

def userRow (o : CreateOutcome) (u : SCIMUser) : User where
  id := o.userID
  organizationID := o.orgID
  email := u.userName
  displayName := u.displayName
  avatarURL := none
  role := ascii "member"
  authProvider := ascii "email"
  authProviderID := none
  deleted := false

def createUser (o : CreateOutcome) (s : Store) (body : Option SCIMUser) :
    Except SCIMError SCIMUser × Store :=
  match body with
  | none => (.error invalidSyntax, s)
  | some u =>
    if u.userName = [] then (.error invalidValue, s)
    else
      let s := (if o.orgFails then none else s.createOrganization (orgRow o u.userName)).getD s
      match if o.userFails = true ∨ ∀ org ∈ s.organizations, org.id ≠ o.orgID then none
        else s.createUser (userRow o u) with
      | none => (.error uniqueness, s)
      | some s => (.ok (userToSCIM o.userID u.userName u.displayName), s)

def SCIMUser.assignment (u : SCIMUser) : Assignment where
  email := some u.userName
  displayName := some u.displayName
  deleted := some !u.active

def replaceUser (fails : Bool) (s : Store) (id : Bytes) (body : Option SCIMUser) :
    Except SCIMError SCIMUser × Store :=
  match body with
  | none => (.error invalidSyntax, s)
  | some u =>
    match s.updateUser fails id User.live u.assignment with
    | none => (.error notFound, s)
    | some s => (.ok (userToSCIM id u.userName u.displayName), s)

/-- A missing path or value is null. The fields of an object stand in the order in which the map is
read. -/
structure SCIMPatchOperation where
  op : Bytes
  path : Json
  value : Json

structure PatchEntry where
  byPath : Bool
  name : Bytes
  value : Json

def lowerByte (c : UInt8) : UInt8 := if 65 ≤ c ∧ c ≤ 90 then c + 32 else c

def SCIMPatchOperation.entries (o : SCIMPatchOperation) : List PatchEntry :=
  if o.op.map lowerByte = ascii "replace" then
    match o.value, o.path with
    | .obj fields, _ => fields.map fun f => ⟨false, f.1, f.2⟩
    | value, .str path => [⟨true, path, value⟩]
    | _, _ => []
  else []

def PatchEntry.assignment (e : PatchEntry) : Option Assignment :=
  if e.byPath then none
  else
    match e.value with
    | .bool active => if e.name = ascii "active" then some { deleted := some !active } else none
    | .str text =>
      if e.name = ascii "userName" then some { email := some text }
      else if e.name = ascii "displayName" ∨ e.name = ascii "name.givenName" then
        some { displayName := some text }
      else none
    | _ => none

def patchEntry (fails : Bool) (s : Store) (id : Bytes) (e : PatchEntry) : Store :=
  match e.assignment with
  | none => s
  | some c => (s.updateUser fails id (fun _ => true) c).getD s

def patchEntries (s : Store) (id : Bytes) (entries : List (Bool × PatchEntry)) : Store :=
  entries.foldl (fun s e => patchEntry e.1 s id e.2) s

def patchStatements (fails : ℕ → Bool) (ops : List SCIMPatchOperation) : List (Bool × PatchEntry) :=
  (ops.flatMap SCIMPatchOperation.entries).zipIdx.map fun e => (fails e.2, e.1)

def patchUser (fails : ℕ → Bool) (selectFails : Bool) (s : Store) (id : Bytes)
    (body : Option (List SCIMPatchOperation)) : Except SCIMError SCIMUser × Store :=
  match body with
  | none => (.error invalidSyntax, s)
  | some ops =>
    if ops = [] then (.error invalidValue, s)
    else
      let s := patchEntries s id (patchStatements fails ops)
      match if selectFails then none else (s.row id).filter User.live with
      | none => (.error notFound, s)
      | some u => (.ok (userToSCIM id u.email u.displayName), s)

def deleteUser (fails : Bool) (s : Store) (id : Bytes) : Except SCIMError Unit × Store :=
  match s.updateUser fails id User.live { deleted := some true } with
  | none => (.error notFound, s)
  | some s => (.ok (), s)

def addMember (fails : Bool) (s : Store) (orgID userID : Bytes) : Option Store :=
  if ∃ org ∈ s.organizations, org.id = orgID then
    s.updateUser fails userID (fun _ => true) { organizationID := some orgID }
  else none

section Creation

variable {o : CreateOutcome} {s : Store} {u : SCIMUser}

def InsertsOrganization (o : CreateOutcome) (s : Store) (email : Bytes) : Prop :=
  o.orgFails = false ∧ s.FreeOrganization o.orgID (emailToSlug email)

def InsertsUser (o : CreateOutcome) (s : Store) (email : Bytes) : Prop :=
  o.userFails = false ∧ s.FreeUser o.userID o.orgID email ∧
    (InsertsOrganization o s email ∨ ∃ org ∈ s.organizations, org.id = o.orgID)

structure OrganizationTried (o : CreateOutcome) (s : Store) (email : Bytes) (s₁ : Store) : Prop where
  users : s₁.users = s.users
  inserted : InsertsOrganization o s email →
    s₁.organizations = s.organizations ++ [orgRow o email]
  unchanged : ¬ InsertsOrganization o s email → s₁ = s

inductive Requested (o : CreateOutcome) (s : Store) (u : SCIMUser) :
    Except SCIMError SCIMUser × Store → Prop
  | refused {s₁} (h : ¬ InsertsUser o s u.userName) (htried : OrganizationTried o s u.userName s₁) :
      Requested o s u (.error uniqueness, s₁)
  | created {s₁ s₂} (h : InsertsUser o s u.userName) (htried : OrganizationTried o s u.userName s₁)
      (hs : s₂.organizations = s₁.organizations) (hu : s₂.users = s₁.users ++ [userRow o u]) :
      Requested o s u (.ok (userToSCIM o.userID u.userName u.displayName), s₂)

lemma organization_tried (o : CreateOutcome) (s : Store) (email : Bytes) :
    OrganizationTried o s email
      ((if o.orgFails then none else s.createOrganization (orgRow o email)).getD s) := by
  cases hfails : o.orgFails with
  | true => exact ⟨rfl, fun h => by simp [h.1] at hfails, fun _ => rfl⟩
  | false =>
    rw [if_neg Bool.false_ne_true]
    rcases createOrganization_cases s (orgRow o email) with ⟨hfree, hcreate⟩ | ⟨hfree, hcreate⟩
    · rw [hcreate]
      exact ⟨rfl, fun _ => rfl, fun h => absurd ⟨hfails, hfree⟩ h⟩
    · rw [hcreate]
      exact ⟨rfl, fun h => absurd h.2 hfree, fun _ => rfl⟩

lemma OrganizationTried.referred {s₁ : Store} {email : Bytes} (h : OrganizationTried o s email s₁) :
    (∃ org ∈ s₁.organizations, org.id = o.orgID) ↔
      InsertsOrganization o s email ∨ ∃ org ∈ s.organizations, org.id = o.orgID := by
  by_cases hinserts : InsertsOrganization o s email
  · apply iff_of_true
    · refine ⟨orgRow o email, ?_, rfl⟩
      rw [h.inserted hinserts]
      exact List.mem_append_right _ List.mem_cons_self
    · exact .inl hinserts
  · rw [h.unchanged hinserts]
    simp [hinserts]

lemma createUser_requested (h : u.userName ≠ []) : Requested o s u (createUser o s (some u)) := by
  simp only [createUser, if_neg h]
  have htried := organization_tried o s u.userName
  generalize (if o.orgFails then none else s.createOrganization (orgRow o u.userName)).getD s = s₁
    at htried ⊢
  by_cases hrefused : o.userFails = true ∨ ∀ org ∈ s₁.organizations, org.id ≠ o.orgID
  · rw [if_pos hrefused]
    apply Requested.refused _ htried
    rintro ⟨hfails, -, hreferred⟩
    obtain ⟨org, horg, hid⟩ := htried.referred.mpr hreferred
    rcases hrefused with htrue | hnone
    · simp [hfails] at htrue
    · exact hnone org horg hid
  · rw [if_neg hrefused]
    simp only [not_or, Bool.not_eq_true, not_forall, not_not, exists_prop] at hrefused
    obtain ⟨hfails, hreferred⟩ := hrefused
    have hfree : s₁.FreeUser o.userID o.orgID u.userName ↔
        s.FreeUser o.userID o.orgID u.userName := by
      rw [Store.FreeUser, Store.FreeUser, htried.users]
    rcases createUser_cases s₁ (userRow o u) with ⟨hrow, s₂, hs₂, horgs, husers⟩ | ⟨hrow, hnone⟩
    · rw [hs₂]
      exact .created ⟨hfails, hfree.mp hrow, htried.referred.mp hreferred⟩ htried horgs husers
    · rw [hnone]
      exact .refused (fun hinserts => hrow (hfree.mpr hinserts.2.1)) htried

end Creation

end Scim

section Statements

variable {s s' : Store} {u : User} {id : Bytes} {p : User → Bool} {c : Assignment} {fails : Bool}

@[simp] lemma Assignment.apply_id (c : Assignment) (u : User) : (c.apply u).id = u.id := rfl

@[simp] lemma Store.assign_organizations :
    (s.assign id c).organizations = s.organizations := rfl

lemma Store.row_eq_some : s.row id = some u ↔ u ∈ s.users ∧ u.id = id := by
  constructor
  · intro h
    have hid := List.find?_some h
    exact ⟨List.mem_of_find?_eq_some h, by simpa using hid⟩
  · rintro ⟨hu, rfl⟩
    have hkey : ∀ v : User, decide (v.id = u.id) = true → v.id = u.id := fun _ => of_decide_eq_true
    rw [Store.row, OwnedRows.find_of_mem s.keyed hu hkey, if_pos (decide_eq_true rfl)]

lemma Store.mem_assign {v : User} (hu : s.row id = some u) :
    v ∈ (s.assign id c).users ↔ v ∈ s.users ∧ v.id ≠ id ∨ v = c.apply u := by
  obtain ⟨hmem, hid⟩ := row_eq_some.mp hu
  exact LabelledRows.mem_update s.keyed hmem hid

lemma Store.updateUser_eq_some : s.updateUser fails id p c = some s' ↔
    ∃ u, s.row id = some u ∧ p u = true ∧ fails = false ∧ ¬ s.Taken (c.apply u) ∧
      s' = s.assign id c := by
  simp only [updateUser]
  cases hrow : (s.row id).filter p with
  | none =>
    simp only [reduceCtorEq, false_iff, not_exists, not_and]
    intro u hu hp
    have hsome := Option.filter_eq_some_iff.mpr ⟨hu, hp⟩
    simp [hrow] at hsome
  | some u =>
    obtain ⟨hu, hp⟩ := Option.filter_eq_some_iff.mp hrow
    simp only [Option.ite_none_left_eq_some, not_or, Bool.not_eq_true, Option.some.injEq]
    constructor
    · rintro ⟨⟨hfails, hfree⟩, rfl⟩
      exact ⟨u, hu, hp, hfails, hfree, rfl⟩
    · rintro ⟨v, hv, -, hfails, hfree, rfl⟩
      obtain rfl := Option.some.inj (hu.symm.trans hv)
      exact ⟨⟨hfails, hfree⟩, rfl⟩

end Statements

end OmniTun.Auth
