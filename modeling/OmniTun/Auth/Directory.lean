import OmniTun.Api.Store
import OmniTun.Auth.Scim

/-! The accounts over runs of the server: what creates them, changes them and issues tokens for
them. -/

namespace OmniTun.Auth

open OmniTun.Foundation PasswordReset Saml
open OmniTun.Api (Response respondError respondMessage jsonObj)
open RefreshTokens (RefreshTokenRecord refreshLifetime)

structure ActiveRequest where
  id : Bytes
  active : Bool
  done : Bool
  deriving DecidableEq

/-- `frozen` says whose `deleted_at` is set in `organizations`; the last request comes first. -/
structure Directory where
  db : Database
  frozen : Bytes → Bool
  refreshTokens : Tokens
  resetTokens : Bytes → Option PasswordResetToken
  requests : List ActiveRequest

namespace Directory

structure Grant where
  token : Bytes
  now : ℤ
  fails : Bool := false

structure RefreshOutcome where
  now : ℤ
  lookupFails : Bool := false
  userFails : Bool := false
  draw : Option Bytes
  deleteFails : Bool := false
  storeFails : Bool := false
  accessFails : Bool := false

structure ResetOutcome where
  now : ℤ
  lookupFails : Bool := false
  draw : Option Bytes
  storeFails : Bool := false

structure UpdateOrgRequest where
  name : Bytes
  slug : Bytes

variable (d : Directory)

def setStore (s : Store) : Directory := { d with db := { d.db with store := s } }

def ask (id : Bytes) (active done : Bool) : Directory :=
  { d with requests := ⟨id, active, done⟩ :: d.requests }

section Tokens

variable (hashToken : Bytes → Bytes)

def getRefreshToken (tokenHash : Bytes) (now : ℤ) : Option RefreshTokenRecord :=
  (d.refreshTokens tokenHash).filter fun r => now < r.expiresAt

def storeRefreshToken (tokenHash : Bytes) (r : RefreshTokenRecord) : Option Directory :=
  if d.refreshTokens tokenHash = none then
    some { d with refreshTokens := Function.update d.refreshTokens tokenHash (some r) }
  else none

def granted (g : Grant) (userID : Bytes) : Option Directory :=
  if g.fails then none
  else d.storeRefreshToken (hashToken g.token) ⟨userID, g.now + refreshLifetime⟩

def storeFails (g : Grant) : Bool := (d.granted hashToken g []).isNone

def refreshToken (o : RefreshOutcome) (token : Bytes) : Except AppError User × Directory :=
  match if o.lookupFails then none else d.getRefreshToken (hashToken token) o.now with
  | none => (.error (.unauthorized "invalid or expired refresh token"), d)
  | some record =>
    match if o.userFails then none else d.db.getUserByID record.userID with
    | none => (.error (.unauthorized "user not found"), d)
    | some user =>
      match o.draw with
      | none => (.error (.internal "failed to generate refresh token"), d)
      | some newToken =>
        if o.deleteFails then (.error (.internal "failed to rotate refresh token"), d)
        else
          let d : Directory :=
            { d with refreshTokens := Function.update d.refreshTokens (hashToken token) none }
          match if o.storeFails then none
            else d.storeRefreshToken (hashToken newToken) ⟨user.id, o.now + refreshLifetime⟩ with
          | none => (.error (.internal "failed to store new refresh token"), d)
          | some d =>
            if o.accessFails then (.error (.internal "failed to generate access token"), d)
            else (.ok user, d)

def requestMessage : Bytes := ascii "if the email exists, a password reset link has been sent"

def requestPasswordReset (o : ResetOutcome) (email : Bytes) : Except AppError Bytes × Directory :=
  match if o.lookupFails then none else d.db.store.findUserByEmail email with
  | none => (.ok requestMessage, d)
  | some user =>
    match o.draw with
    | none => (.error (.internal "failed to generate reset token"), d)
    | some token =>
      if o.storeFails = true ∨ d.resetTokens (hashToken token) ≠ none then
        (.error (.internal "failed to store reset token"), d)
      else
        (.ok requestMessage,
          { d with
            resetTokens := Function.update d.resetTokens (hashToken token)
              (some ⟨user.id, o.now + 3600 * 10 ^ 9, none⟩) })

def resetPassword (u : Unicode) (path : Path) (token newPassword : Bytes) (calls : List Call) :
    Directory :=
  let begun : Processes.World Unit PasswordReset.Local (PasswordReset.Store Unit) :=
    PasswordReset.start d.resetTokens d.refreshTokens fun id => (d.db.credentials id).passwordHash
  let next := PasswordReset.next u hashToken token fun _ : Unit => .reset path newPassword
  let w := calls.foldl (fun w c => (Processes.step next w ((), c)).getD w) begun
  { d with
    db := { d.db with
      credentials := fun id =>
        { d.db.credentials id with passwordHash := w.store.passwordHash id } }
    refreshTokens := w.store.refreshTokens
    resetTokens := w.store.resetTokens }

end Tokens

section Administration

def tokensWithout (fails : Bool) (id : Bytes) : Tokens :=
  if fails then d.refreshTokens else fun h => (d.refreshTokens h).filter fun r => r.userID ≠ id

def handleAdminDisableUser (fails tokensFail : Bool) (id : Bytes) : Response × Directory :=
  match d.db.store.updateUser fails id User.live { deleted := some true } with
  | none => (respondError 404 "not_found" "user not found or already disabled", d)
  | some s =>
    (respondMessage "user disabled",
      { (d.setStore s).ask id false true with refreshTokens := d.tokensWithout tokensFail id })

def handleAdminResetPassword (u : Unicode) (hashPassword : Bytes → Option Bytes)
    (fails tokensFail : Bool) (id newPassword : Bytes) : Response × Directory :=
  if newPassword = [] then (respondError 400 "invalid_request" "new_password is required", d)
  else
    match validatePassword u newPassword with
    | some err => (respondError 400 "weak_password" err.error, d)
    | none =>
      match hashPassword newPassword with
      | none => (respondError 500 "internal_error" "failed to process password", d)
      | some passwordHash =>
        if fails = true ∨ d.db.getUserByID id = none then
          (respondError 404 "not_found" "user not found", d)
        else
          (respondMessage "password reset successfully",
            { d with
              db := { d.db with
                credentials := Function.update d.db.credentials id
                  { d.db.credentials id with passwordHash := some passwordHash } }
              refreshTokens := d.tokensWithout tokensFail id })

def handleAdminEnableUser (fails : Bool) (id : Bytes) : Response × Directory :=
  match d.db.store.updateUser fails id User.deleted { deleted := some false } with
  | none => (respondError 404 "not_found" "user not found or not disabled", d)
  | some s => (respondMessage "user enabled", (d.setStore s).ask id true true)

def setFrozen (fails : Bool) (orgID : Bytes) (frozen : Bool) : Option Directory :=
  if fails = false ∧ (∃ org ∈ d.db.store.organizations, org.id = orgID) ∧
      d.frozen orgID = !frozen then
    some { d with frozen := Function.update d.frozen orgID frozen }
  else none

def handleAdminFreezeOrg (fails : Bool) (orgID : Bytes) : Response × Directory :=
  match d.setFrozen fails orgID true with
  | none => (respondError 404 "not_found" "organization not found or already frozen", d)
  | some d => (respondMessage "organization frozen", d)

def handleAdminUnfreezeOrg (fails : Bool) (orgID : Bytes) : Response × Directory :=
  match d.setFrozen fails orgID false with
  | none => (respondError 404 "not_found" "organization not found or not frozen", d)
  | some d => (respondMessage "organization unfrozen", d)

end Administration

end Directory

def Organization.rename (req : Directory.UpdateOrgRequest) (org : Organization) : Organization :=
  { org with
    name := if req.name = [] then org.name else req.name
    slug := if req.slug = [] then org.slug else req.slug }

def Store.updateOrg (s : Store) (fails : Bool) (orgID : Bytes) (req : Directory.UpdateOrgRequest) :
    Option Store :=
  if fails = true ∨ ∃ org ∈ s.organizations, org.id = orgID ∧
      ∃ other ∈ s.organizations, other.id ≠ orgID ∧ other.slug = (org.rename req).slug then none
  else some { s with organizations := OwnedRows.update Organization.id orgID (.rename req) s.organizations }

namespace Directory

def handleUpdateOrg (fails : Bool) (s : Store) (orgID : Bytes) (body : Option UpdateOrgRequest) :
    Response × Store :=
  match body with
  | none => (respondError 400 "invalid_request" "invalid JSON body", s)
  | some req =>
    if req.name = [] ∧ req.slug = [] then
      (respondError 400 "invalid_request" "name or slug is required", s)
    else
      match s.updateOrg fails orgID req with
      | none => (respondError 500 "internal_error" "failed to update organization", s)
      | some s => (⟨200, jsonObj [("name", .str req.name), ("slug", .str req.slug)]⟩, s)

/-- The PATCH of a user stands as its entries, and the one of a group as its members, each with a
statement of its own. The organisation of a new group has a slug made of its name. -/
inductive Operation
  | register (o : Outcome) (req : RegisterRequest)
  | login (o : ServiceOutcome) (req : LoginRequest) (now : ℕ) (g : Grant)
  | refresh (o : RefreshOutcome) (token : Bytes)
  | oauth (o : Outcome) (l : Login) (g : Grant)
  | saml (o : ACSOutcome) (user : SAMLUser) (g : Grant)
  | requestReset (o : ResetOutcome) (email : Bytes)
  | reset (path : Path) (token newPassword : Bytes) (calls : List Call)
  | scimCreate (o : Scim.CreateOutcome) (body : Option Scim.SCIMUser)
  | scimReplace (fails : Bool) (id : Bytes) (body : Option Scim.SCIMUser)
  | scimPatch (fails : Bool) (id : Bytes) (e : Scim.PatchEntry)
  | scimDelete (fails : Bool) (id : Bytes)
  | scimGroup (fails : Bool) (org : Organization)
  | scimMember (fails : Bool) (orgID userID : Bytes)
  | disable (fails tokensFail : Bool) (id : Bytes)
  | enable (fails : Bool) (id : Bytes)
  | freeze (fails : Bool) (orgID : Bytes)
  | unfreeze (fails : Bool) (orgID : Bytes)
  | updateOrg (fails : Bool) (orgID : Bytes) (body : Option UpdateOrgRequest)
  | adminReset (fails tokensFail : Bool) (id newPassword : Bytes)
  | enrollMFA (o : ServiceOutcome) (userID : Option Bytes) (draw : Option (Vector UInt8 20))
  | verifyMFA (o : ServiceOutcome) (userID : Option Bytes) (code : Bytes) (now : ℕ)
  | disableMFA (o : ServiceOutcome) (userID : Option Bytes)

def activeOf (e : Scim.PatchEntry) : Option Bool :=
  match e.value with
  | .bool active => if e.name = ascii "active" then some active else none
  | _ => none

def patchDone (fails : Bool) (id : Bytes) (e : Scim.PatchEntry) (s : Store) : Bool :=
  (e.assignment.bind fun c => s.updateUser fails id (fun _ => true) c).isSome

section

variable (u : Unicode) (hashPassword : Bytes → Option Bytes) (checkPassword : Bytes → Bytes → Bool)
  (hmacSHA1 : Bytes → Bytes → Vector UInt8 20) (hashToken : Bytes → Bytes)

def loggedIn (d : Directory) (g : Grant) (r : Except LoginError User × Store) : Directory :=
  let d := { d with db := d.db.inserted r.2 }
  match r.1 with
  | .error _ => d
  | .ok user => (d.granted hashToken g user.id).getD d

def passwordLogin (d : Directory) (o : ServiceOutcome) (req : LoginRequest) (now : ℕ) (g : Grant) :
    Except AppError User :=
  login hmacSHA1 checkPassword { o with storeFails := o.storeFails || d.storeFails hashToken g }
    d.db req now

def oauthLogin (d : Directory) (o : Outcome) (l : Login) (g : Grant) :
    Except LoginError User × Store :=
  l.handle { o with tokensFail := o.tokensFail || d.storeFails hashToken g } d.db.store

def perform (d : Directory) : Operation → Directory
  | .register o req => { d with db := (register u hashPassword o d.db req).2 }
  | .login o req now g =>
    match passwordLogin checkPassword hmacSHA1 hashToken d o req now g with
    | .error _ => d
    | .ok user => (d.granted hashToken g user.id).getD d
  | .refresh o token => (d.refreshToken hashToken o token).2
  | .oauth o l g => loggedIn hashToken d g (oauthLogin hashToken d o l g)
  | .saml o user g => loggedIn hashToken d g (loginSAML o d.db.store user)
  | .requestReset o email => (d.requestPasswordReset hashToken o email).2
  | .reset path token newPassword calls =>
    d.resetPassword hashToken u path token newPassword calls
  | .scimCreate o body => { d with db := d.db.inserted (Scim.createUser o d.db.store body).2 }
  | .scimReplace fails id body =>
    match Scim.replaceUser fails d.db.store id body, body with
    | (.ok _, s), some user => (d.setStore s).ask id user.active true
    | _, _ => d
  | .scimPatch fails id e =>
    let s := Scim.patchEntry fails d.db.store id e
    match activeOf e with
    | some active =>
      if d.db.store.row id = none then d.setStore s
      else (d.setStore s).ask id active (patchDone fails id e d.db.store)
    | none => d.setStore s
  | .scimDelete fails id =>
    match Scim.deleteUser fails d.db.store id with
    | (.ok _, s) => (d.setStore s).ask id false true
    | (.error _, _) => d
  | .scimGroup fails org =>
    d.setStore ((if fails then none else d.db.store.createOrganization org).getD d.db.store)
  | .scimMember fails orgID userID =>
    d.setStore ((Scim.addMember fails d.db.store orgID userID).getD d.db.store)
  | .disable fails tokensFail id => (d.handleAdminDisableUser fails tokensFail id).2
  | .enable fails id => (d.handleAdminEnableUser fails id).2
  | .freeze fails orgID => (d.handleAdminFreezeOrg fails orgID).2
  | .unfreeze fails orgID => (d.handleAdminUnfreezeOrg fails orgID).2
  | .updateOrg fails orgID body => d.setStore (handleUpdateOrg fails d.db.store orgID body).2
  | .adminReset fails tokensFail id newPassword =>
    (d.handleAdminResetPassword u hashPassword fails tokensFail id newPassword).2
  | .enrollMFA o userID draw => { d with db := (OmniTun.Auth.enrollMFA o d.db userID draw).2 }
  | .verifyMFA o userID code now =>
    { d with db := (OmniTun.Auth.verifyMFA hmacSHA1 o d.db userID code now).2 }
  | .disableMFA o userID => { d with db := (OmniTun.Auth.disableMFA o d.db userID).2 }

def subject (d : Directory) : Operation → Option User
  | .login o req now g =>
    (passwordLogin checkPassword hmacSHA1 hashToken d o req now g).toOption
  | .refresh o token => (d.refreshToken hashToken o token).1.toOption
  | .oauth o l g => (oauthLogin hashToken d o l g).1.toOption
  | .saml o user _ => (loginSAML o d.db.store user).1.toOption
  | _ => none

def step (d : Directory) (a : Operation) : Option Directory :=
  some (perform u hashPassword checkPassword hmacSHA1 hashToken d a)

end

def start : Directory where
  db := ⟨⟨[], [], List.nodup_nil⟩, fun _ => {}⟩
  frozen _ := false
  refreshTokens _ := none
  resetTokens _ := none
  requests := []

end Directory

end OmniTun.Auth
