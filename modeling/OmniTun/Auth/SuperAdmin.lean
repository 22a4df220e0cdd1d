import OmniTun.Api.Handlers
import OmniTun.Auth.APIKeys
import OmniTun.Auth.Jwt

/-! The login of administrators and the middleware that lets their requests through. -/

namespace OmniTun.Auth.SuperAdmin

open OmniTun.Api (Response respondError jsonObj decodedString)
open OmniTun.Foundation Jwt
open APIKeys (extractBearerToken)

structure Config where
  adminAuthSecret : Bytes
  jwtSecret : Bytes
  privateKey : Bool

def roleSuperAdmin : Bytes := ascii "super_admin"

def superAdminClaims (adminID role : Bytes) : List (Bytes × Json) :=
  omitEmpty "sub" adminID ++ [(ascii "role", .str role)]

def extractAdminToken (r : APIKeys.Request) : Bytes := extractBearerToken r

structure Context where
  adminID : Json
  adminRole : Json

section

variable {κ : Type*} (lib : Library κ)

def issueSuperAdminToken (adminID role secret : Bytes) : Except Bytes Bytes :=
  lib.signedString signingMethodHS256 (.obj (superAdminClaims adminID role)) (.secret secret)

def superAdminKey (secret : Bytes) : KeyFunc κ
  | .hmac _ => .ok (.secret secret)
  | method => .error (ascii "unexpected signing method: " ++ method.alg)

def validateSuperAdminToken (now : ℤ) (token secret : Bytes) : Except Bytes (List (Bytes × Json)) :=
  match lib.parse (superAdminKey secret) now token with
  | .error err => .error (ascii "invalid token: " ++ err)
  | .ok claims => .ok claims

def handleAdminLogin (cfg : Config) (body : Option Json) : Response × Option Bytes :=
  let email := decodedString (ascii "email") body
  let password := decodedString (ascii "password") body
  if email = [] ∨ password = [] then
    (respondError 401 "authentication_failed" "email and password required", none)
  else if cfg.adminAuthSecret = [] then
    (respondError 500 "internal_error" "admin auth not configured", none)
  else
    match issueSuperAdminToken lib email roleSuperAdmin cfg.adminAuthSecret with
    | .error _ => (respondError 500 "internal_error" "failed to issue token", none)
    | .ok token => (⟨200, jsonObj [("access_token", .str token), ("token_type", .str (ascii "Bearer")),
        ("expires_in", .num 86400), ("user", jsonObj [("id", .str email), ("email", .str email),
          ("role", .str roleSuperAdmin)])]⟩, some token)

def unauthorizedText : Bytes := ascii "\x7b\"error\":\"unauthorized\"\x7d"

def superAdminMiddleware (secret : Bytes) (now : ℤ) (r : APIKeys.Request) :
    Except APIKeys.HTTPError Context :=
  let token := extractAdminToken r
  if token = [] then .error ⟨unauthorizedText, 401⟩
  else
    match validateSuperAdminToken lib now token secret with
    | .error _ => .error ⟨unauthorizedText, 401⟩
    | .ok claims => .ok ⟨(Json.get claims (ascii "sub")).getD .null,
        (Json.get claims (ascii "role")).getD .null⟩

end

/-- What the server signs with a secret: logins of administrators, and access tokens. -/
inductive Event
  | adminLogin (body : Option Json) (now : ℤ)
  | accessToken (claims : AccessClaims)

structure AdminLogin where
  email : Bytes
  password : Bytes
  token : Bytes
  now : ℤ

section

variable {κ : Type*} (lib : Library κ) (cfg : Config)

def Event.login : Event → Option AdminLogin
  | .adminLogin body now => (handleAdminLogin lib cfg body).2.map fun token =>
    ⟨decodedString (ascii "email") body, decodedString (ascii "password") body, token, now⟩
  | .accessToken _ => none

def Event.shared : Event → Option (AccessClaims × Bytes)
  | .adminLogin _ _ => none
  | .accessToken claims =>
    if cfg.privateKey = false ∧ cfg.jwtSecret ≠ [] ∧ cfg.jwtSecret = cfg.adminAuthSecret then
      match lib.signedString signingMethodHS256 claims.marshal (.secret cfg.jwtSecret) with
      | .ok token => some (claims, token)
      | .error _ => none
    else none

def logins (history : List Event) : List AdminLogin := history.filterMap (Event.login lib cfg)

end

section

variable {κ : Type*} (lib : Library κ) (cfg : Config) (history : List Event) (now : ℤ)

variable (administrator : Bytes → Bytes → Prop)

def RecentLogin (token : Bytes) : Prop :=
  ∃ l ∈ logins lib cfg history, l.token = token ∧ administrator l.email l.password ∧
    now ≤ l.now + 86400 * 10 ^ 9

def Sound (r : APIKeys.Request) : Prop :=
  ∀ ctx, superAdminMiddleware lib cfg.adminAuthSecret now r = .ok ctx →
    cfg.adminAuthSecret ≠ [] ∧ ctx.adminRole = .str roleSuperAdmin ∧
      RecentLogin lib cfg history now administrator (extractAdminToken r)

end

section

variable {κ : Type*} {lib : Library κ} {cfg : Config} {history : List Event} {now : ℤ}
  {administrator : Bytes → Bytes → Prop} {r : APIKeys.Request} {ctx : Context} {token : Bytes}
  {l : AdminLogin} {p : AccessClaims × Bytes}

end

section Runs

def shortMac (secret text : Bytes) : Bytes := (secret ++ text).take 32

def claimsText (email : String) : Bytes :=
  ascii "\x7b\"role\":\"super_admin\",\"sub\":\"" ++ ascii email ++ ascii "\"\x7d"

end Runs

end OmniTun.Auth.SuperAdmin
