import OmniTun.Auth.Saml
import OmniTun.Foundation.Json
import OmniTun.Foundation.NetAddress
import OmniTun.Foundation.TiedPages
import OmniTun.Scim.Tables

/-! The handlers for users and groups. Ids are as the database prints them, times are Unix times in
microseconds, and a request body is what its JSON decodes to, if it does. -/

namespace OmniTun.Scim

open OmniTun.Foundation Numerals

structure SCIMEmail where
  value : Bytes
  type : Bytes
  primary : Bool
  deriving DecidableEq

structure SCIMMeta where
  resourceType : Bytes
  created : ℤ
  lastModified : ℤ
  location : Bytes
  version : Bytes
  deriving DecidableEq

structure SCIMUserName where
  givenName : Bytes := []
  familyName : Bytes := []
  deriving DecidableEq

structure SCIMUser where
  schemas : List Bytes := []
  id : Bytes := []
  externalID : Bytes := []
  userName : Bytes := []
  name : SCIMUserName := {}
  emails : List SCIMEmail := []
  active : Bool := false
  metadata : Option SCIMMeta := none
  deriving DecidableEq

structure SCIMGroup where
  schemas : List Bytes
  id : Bytes
  displayName : Bytes
  metadata : SCIMMeta
  deriving DecidableEq

structure SCIMError where
  schemas : List Bytes
  scimType : Bytes
  detail : Bytes
  status : ℕ
  deriving DecidableEq

structure SCIMListResponse (α : Type) where
  schemas : List Bytes
  totalResults : ℕ
  startIndex : ℤ
  itemsPerPage : ℤ
  resources : List α
  deriving DecidableEq

def scimUserSchema : Bytes := ascii "urn:ietf:params:scim:schemas:core:2.0:User"
def scimGroupSchema : Bytes := ascii "urn:ietf:params:scim:schemas:core:2.0:Group"
def scimErrorSchema : Bytes := ascii "urn:ietf:params:scim:api:messages:2.0:Error"
def scimListSchema : Bytes := ascii "urn:ietf:params:scim:api:messages:2.0:ListResponse"

def statusText : ℕ → Bytes
  | 400 => ascii "Bad Request"
  | 404 => ascii "Not Found"
  | 409 => ascii "Conflict"
  | 500 => ascii "Internal Server Error"
  | _ => []

def writeSCIMError (status : ℕ) (scimType : Bytes) : SCIMError where
  schemas := [scimErrorSchema]
  scimType := scimType
  detail := statusText status
  status := status

def hexInt (n : ℤ) : Bytes :=
  if n < 0 then 45 :: NetAddress.hexNumeral n.natAbs else NetAddress.hexNumeral n.natAbs

def version (updatedAt : ℤ) : Bytes := ascii "W/\"" ++ hexInt (updatedAt / 10 ^ 6) ++ ascii "\""

def userToSCIM (id email displayName : Bytes) (createdAt updatedAt : ℤ) : SCIMUser where
  schemas := [scimUserSchema]
  id := id
  userName := email
  name :=
    { givenName := displayName.takeWhile (· ≠ 32)
      familyName := (displayName.dropWhile (· ≠ 32)).drop 1 }
  emails := [⟨email, ascii "work", true⟩]
  active := true
  metadata := some
    { resourceType := ascii "User"
      created := createdAt
      lastModified := updatedAt
      location := ascii "/scim/v2/Users/" ++ id
      version := version updatedAt }

def groupToSCIM (id displayName : Bytes) (createdAt updatedAt : ℤ) : SCIMGroup where
  schemas := [scimGroupSchema]
  id := id
  displayName := displayName
  metadata :=
    { resourceType := ascii "Group"
      created := createdAt
      lastModified := updatedAt
      location := ascii "/scim/v2/Groups/" ++ id
      version := version updatedAt }

def UserRow.toSCIM (u : UserRow) : SCIMUser :=
  userToSCIM u.id u.email u.displayName u.createdAt u.updatedAt

def OrganizationRow.toSCIM (org : OrganizationRow) : SCIMGroup :=
  groupToSCIM org.id org.name org.createdAt org.updatedAt

def emailToSlug (email : Bytes) : Bytes := (email.filterMap Auth.Saml.emailSlugByte).take 64

def SCIMUser.displayName (u : SCIMUser) : Bytes :=
  let displayName := u.name.givenName ++ ascii " " ++ u.name.familyName
  if displayName = ascii " " then u.userName else displayName

def SCIMUser.externalColumn (u : SCIMUser) : Option Bytes :=
  if u.externalID ≠ [] then some u.externalID else none

def trimWhile (p : UInt8 → Bool) (s : Bytes) : Bytes :=
  ((s.dropWhile p).reverse.dropWhile p).reverse

section Users

/-- The ids that are drawn, the clocks, and which inserts fail for another reason than the constraints
of the tables. The one of the user does so on every database that has no column `external_id`, which
no migration creates. -/
structure CreateOutcome where
  orgID : Bytes
  orgNow : ℤ := 0
  orgFails : Bool := false
  userID : Bytes
  now : ℤ := 0
  userFails : Bool := false

def newOrganization (o : CreateOutcome) (email : Bytes) : OrganizationRow where
  id := o.orgID
  name := email
  slug := emailToSlug email
  plan := ascii "free"
  createdAt := o.orgNow
  updatedAt := o.orgNow
  deletedAt := none

def newUser (o : CreateOutcome) (u : SCIMUser) : UserRow where
  id := o.userID
  organizationID := o.orgID
  email := u.userName
  displayName := u.displayName
  role := ascii "member"
  externalID := u.externalColumn
  createdAt := o.now
  updatedAt := o.now
  deletedAt := none

def createUser (o : CreateOutcome) (t : Tables) (body : Option SCIMUser) :
    Except SCIMError SCIMUser × Tables :=
  match body with
  | none => (.error (writeSCIMError 400 (ascii "invalidSyntax")), t)
  | some u =>
    if u.userName = [] then (.error (writeSCIMError 400 (ascii "invalidValue")), t)
    else
      -- that the organisation is not inserted is only logged
      let t :=
        (if o.orgFails then none else t.insertOrganization (newOrganization o u.userName)).getD t
      match if o.userFails then none else t.insertUser (newUser o u) with
      | none => (.error (writeSCIMError 409 (ascii "uniqueness")), t)
      | some t => (.ok (userToSCIM o.userID u.userName u.displayName o.now o.now), t)

def getUser (selectFails : Bool) (t : Tables) (id : Bytes) : Except SCIMError SCIMUser :=
  match if selectFails then none else (t.user id).filter UserRow.live with
  | none => .error (writeSCIMError 404 [])
  | some u => .ok (userToSCIM id u.email u.displayName u.createdAt u.updatedAt)

def SCIMUser.assignment (u : SCIMUser) (now : ℤ) : Assignment where
  email := some u.userName
  displayName := some u.displayName
  externalID := some u.externalColumn
  deletedAt := some (if u.active then none else some now)

/-- The two clock readings of the handler are taken to be one. -/
def replaceUser (fails : Bool) (now : ℤ) (t : Tables) (id : Bytes) (body : Option SCIMUser) :
    Except SCIMError SCIMUser × Tables :=
  match body with
  | none => (.error (writeSCIMError 400 (ascii "invalidSyntax")), t)
  | some u =>
    match if fails then none else t.updateUsers id UserRow.live now (u.assignment now) with
    | none | some (0, _) => (.error (writeSCIMError 404 []), t)
    | some (_, t) => (.ok (userToSCIM id u.userName u.displayName now now), t)

end Users

section Patch

structure SCIMPatchOperation where
  op : Bytes
  path : Json
  value : Json

def lowerByte (c : UInt8) : UInt8 := if 65 ≤ c ∧ c ≤ 90 then c + 32 else c

inductive Statement
  | users (id : Bytes) (c : Assignment)
  | organization (id name : Bytes)
  | removeMember (userID organizationID : Bytes)
  deriving DecidableEq

def Statement.exec (now : ℤ) (t : Tables) : Statement → Option (ℕ × Tables)
  | .users id c => t.updateUsers id (fun _ => true) now c
  | .organization id name => some (t.renameOrganization id name now)
  | .removeMember userID organizationID =>
    if ∃ u ∈ t.users, u.id = userID ∧ u.organizationID = organizationID then none else some (0, t)

/-- The statements one after another, of which `fails` says whether they fail for another reason. No
failure is looked at. -/
def execAll (now : ℤ) (fails : ℕ → Bool) : ℕ → List Statement → Tables → Tables
  | _, [], t => t
  | i, st :: rest, t =>
    match if fails i then none else st.exec now t with
    | none => execAll now fails (i + 1) rest t
    | some (_, t') => execAll now fails (i + 1) rest t'

def userField (now : ℤ) (name : Bytes) (value : Json) : Option Assignment :=
  match value with
  | .bool active =>
    if name = ascii "active" then some { deletedAt := some (if active then none else some now) }
    else none
  | .str text =>
    if name = ascii "userName" then some { email := some text }
    else if name = ascii "displayName" then some { displayName := some text }
    else if name = ascii "name.givenName" then some { displayName := some text }
    else none
  | _ => none

def SCIMPatchOperation.userStatements (now : ℤ) (id : Bytes) (o : SCIMPatchOperation) :
    List Statement :=
  if o.op.map lowerByte = ascii "replace" then
    match o.value with
    | .obj fields => fields.filterMap fun f => (userField now f.1 f.2).map (.users id)
    | _ => []
  else []

structure PatchOutcome where
  now : ℤ
  fails : ℕ → Bool := fun _ => false
  selectFails : Bool := false

def patchUser (o : PatchOutcome) (t : Tables) (id : Bytes)
    (body : Option (List SCIMPatchOperation)) : Except SCIMError SCIMUser × Tables :=
  match body with
  | none => (.error (writeSCIMError 400 (ascii "invalidSyntax")), t)
  | some ops =>
    if ops = [] then (.error (writeSCIMError 400 (ascii "invalidValue")), t)
    else
      let t := execAll o.now o.fails 0
        (ops.flatMap (SCIMPatchOperation.userStatements o.now id)) t
      match if o.selectFails then none else (t.user id).filter UserRow.live with
      | none => (.error (writeSCIMError 404 []), t)
      | some u => (.ok (userToSCIM id u.email u.displayName u.createdAt o.now), t)

def memberPrefix : Bytes := ascii "members[value eq "

def memberStatement (id : Bytes) (member : Json) : Option Statement :=
  match member with
  | .obj fields =>
    match Json.get fields (ascii "value") with
    | some (.str userID) => some (.users userID { organizationID := some id })
    | _ => none
  | _ => none

def SCIMPatchOperation.groupStatements (id : Bytes) (o : SCIMPatchOperation) : List Statement :=
  if o.op.map lowerByte = ascii "replace" then
    match o.value with
    | .obj fields =>
      match Json.get fields (ascii "displayName") with
      | some (.str name) => [.organization id name]
      | _ => []
    | _ => []
  else if o.op.map lowerByte = ascii "add" then
    match o.value with
    | .arr members => members.filterMap (memberStatement id)
    | _ => []
  else if o.op.map lowerByte = ascii "remove" then
    match o.path with
    | .str path =>
      if memberPrefix <+: path then
        [.removeMember
          (trimWhile (fun b => b = 34 ∨ b = 93) (path.drop memberPrefix.length)) id]
      else []
    | _ => []
  else []

def patchGroup (o : PatchOutcome) (t : Tables) (id : Bytes)
    (body : Option (List SCIMPatchOperation)) : Except SCIMError SCIMGroup × Tables :=
  match body with
  | none => (.error (writeSCIMError 400 (ascii "invalidSyntax")), t)
  | some ops =>
    if ops = [] then (.error (writeSCIMError 400 (ascii "invalidValue")), t)
    else
      let t := execAll o.now o.fails 0
        (ops.flatMap (SCIMPatchOperation.groupStatements id)) t
      match if o.selectFails then none
        else (t.organization id).filter fun org => org.deletedAt.isNone with
      | none => (.error (writeSCIMError 404 []), t)
      | some org => (.ok (groupToSCIM id org.name org.createdAt o.now), t)

end Patch

section Listing

structure ListOutcome {α : Type} (time : α → ℤ) where
  order : TiedPages.Sorting time
  countFails : Bool := false
  selectFails : Bool := false

def sscanfInt (default : ℤ) (text : Bytes) : ℤ :=
  if text = [] then default else (scanInt64 text).getD default

def userNamePrefix : Bytes := ascii "userName eq "
def externalIDPrefix : Bytes := ascii "externalId eq "

def filterValue (text filter : Bytes) : Bytes := trimWhile (· = 34) (filter.drop text.length)

def userWhere (filter : Bytes) (u : UserRow) : Bool :=
  u.live &&
    if userNamePrefix <+: filter then u.email = filterValue userNamePrefix filter
    else if externalIDPrefix <+: filter then u.id = filterValue externalIDPrefix filter
    else true

def listUsers (o : ListOutcome UserRow.createdAt) (t : Tables) (filter startIndex count : Bytes) :
    Except SCIMError (SCIMListResponse SCIMUser) :=
  let startIndex := sscanfInt 1 startIndex
  let count := sscanfInt 50 count
  if o.countFails ∨ o.selectFails then .error (writeSCIMError 500 [])
  else
    let users := t.users.filter (userWhere filter)
    let offset := max 0 ((startIndex - 1).bmod (2 ^ 64))
    .ok
      { schemas := [scimListSchema]
        totalResults := users.length
        startIndex := startIndex
        itemsPerPage := count
        resources := (((o.order.sort users).drop offset.toNat).take count.toNat).map
          UserRow.toSCIM }

def listGroups (o : ListOutcome OrganizationRow.createdAt) (t : Tables)
    (startIndex count : Bytes) : Except SCIMError (SCIMListResponse SCIMGroup) :=
  let startIndex := sscanfInt 1 startIndex
  let count := sscanfInt 50 count
  if o.selectFails then .error (writeSCIMError 500 [])
  else
    let groups := o.order.sort (t.organizations.filter fun org => org.deletedAt.isNone)
    .ok
      { schemas := [scimListSchema]
        totalResults := groups.length
        startIndex := startIndex
        itemsPerPage := count
        resources := groups.map OrganizationRow.toSCIM }

end Listing

end OmniTun.Scim
