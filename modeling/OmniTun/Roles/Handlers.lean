import OmniTun.Api.Store
import OmniTun.Foundation.Numerals

/-! The handlers for custom roles over the rows of their table, of which no migration says what holds.
A request body is what its JSON decodes to, if it does. -/

namespace OmniTun.Roles

open OmniTun.Foundation OmniTun.Api

structure CustomRole where
  id : Bytes
  name : Bytes
  permissions : List Bytes
  createdAt : ℤ
  updatedAt : ℤ
  deriving DecidableEq

structure RoleRequest where
  name : Bytes := []
  permissions : List Bytes := []

def validPermissions : List Bytes :=
  ["tunnels:create", "tunnels:read", "tunnels:update", "tunnels:delete", "tunnels:start",
    "tunnels:stop", "domains:create", "domains:read", "domains:update", "domains:delete",
    "networks:create", "networks:read", "networks:update", "networks:delete", "networks:join",
    "networks:leave", "billing:read", "billing:manage", "members:read", "members:invite",
    "members:remove", "members:change_role", "settings:read", "settings:update"].map ascii

def filterUnseen (seen : List Bytes) : List Bytes → List Bytes
  | [] => []
  | p :: perms =>
    if validPermissions.contains p && !seen.contains p then p :: filterUnseen (p :: seen) perms
    else filterUnseen seen perms

def filterValidPermissions (perms : List Bytes) : List Bytes := filterUnseen [] perms

/-- What a request meets: the id that is drawn, the clock, the statements that fail, and how many
users have a role of a name, which is none where they cannot be counted. -/
structure Outcome where
  id : Bytes := []
  now : ℤ := 0
  selectFails : Bool := false
  execFails : Bool := false
  assigned : Bytes → ℕ := fun _ => 0

def zeroTime : ℤ := -62135596800 * 10 ^ 6

variable (formatTime : ℤ → Bytes)

def roleJson (id name : Bytes) (permissions : Json) (assignedUsers : ℕ) (createdAt updatedAt : ℤ) :
    Json :=
  jsonObj [("id", .str id), ("name", .str name), ("permissions", permissions),
    ("assigned_users", .num assignedUsers), ("created_at", .str (formatTime createdAt)),
    ("updated_at", .str (formatTime updatedAt))]

def CustomRole.json (role : CustomRole) (assignedUsers : ℕ) : Json :=
  roleJson formatTime role.id role.name (.arr (role.permissions.map .str)) assignedUsers
    role.createdAt role.updatedAt

def invalidBody : Response := respondError 400 "invalid_request" "invalid JSON body"

def roleNotFound : Response := respondError 404 "not_found" "role not found"

def createRole (o : Outcome) (roles : List CustomRole) (body : Option RoleRequest) :
    Response × List CustomRole :=
  match body with
  | none => (invalidBody, roles)
  | some req =>
    if req.name = [] then (respondError 400 "invalid_request" "name is required", roles)
    else if req.permissions.length = 0 then
      (respondError 400 "invalid_request" "at least one permission is required", roles)
    else
      let validPerms := filterValidPermissions req.permissions
      if validPerms.length = 0 then
        (respondError 400 "invalid_request" "no valid permissions provided", roles)
      else if o.execFails then
        (respondError 409 "conflict" "role name may already exist", roles)
      else
        let role : CustomRole := ⟨o.id, req.name, validPerms, o.now, o.now⟩
        (⟨201, role.json formatTime 0⟩, roles ++ [role])

def RoleRequest.set (req : RoleRequest) (now : ℤ) (role : CustomRole) : CustomRole :=
  { role with
    name := if req.name ≠ [] then req.name else role.name
    permissions :=
      if 0 < req.permissions.length then filterValidPermissions req.permissions
      else role.permissions
    updatedAt := now }

def updateRole (o : Outcome) (roles : List CustomRole) (id : Bytes) (body : Option RoleRequest) :
    Response × List CustomRole :=
  match body with
  | none => (invalidBody, roles)
  | some req =>
    if req.name = [] ∧ req.permissions.length = 0 then
      (respondError 400 "invalid_request" "no fields to update", roles)
    else if o.execFails ∨ roles.countP (·.id = id) = 0 then (roleNotFound, roles)
    else
      let roles := roles.map fun role => if role.id = id then req.set o.now role else role
      match if o.selectFails then none else roles.find? fun role => role.id = id with
      | none => (⟨200, roleJson formatTime id [] .null (o.assigned []) zeroTime zeroTime⟩, roles)
      | some role => (⟨200, role.json formatTime (o.assigned role.name)⟩, roles)

def roleHasUsers (assignedUsers : ℕ) : Response :=
  ⟨409, jsonObj [("error", jsonObj [("code", .str (ascii "has_users")),
    ("message", .str (ascii "role has " ++ Numerals.natNumeral assignedUsers ++
      ascii " assigned user(s); reassign them before deleting"))])]⟩

def deleteRole (o : Outcome) (roles : List CustomRole) (id : Bytes) : Response × List CustomRole :=
  match if o.selectFails then none else roles.find? fun role => role.id = id with
  | none => (roleNotFound, roles)
  | some role =>
    if 0 < o.assigned role.name then (roleHasUsers (o.assigned role.name), roles)
    else if o.execFails then (roleNotFound, roles)
    else (respondMessage "deleted", roles.filter fun role => role.id ≠ id)

end OmniTun.Roles
