import Mathlib.Data.List.SplitOn
import OmniTun.Foundation.Base64
import OmniTun.Gateway.Hub

/-! The credentials of agents, and the hello handshake of the gateway. -/

namespace OmniTun.Gateway

open OmniTun.Foundation

inductive ErrorCode
  | badRequest
  | unauthorized
  deriving DecidableEq, Repr

structure AppError where
  code : ErrorCode
  message : Bytes
  deriving DecidableEq

def unauthorized (message : String) : AppError := ⟨.unauthorized, ascii message⟩

structure JwtClaims where
  sub : Bytes
  org : Bytes
  iat : ℤ
  exp : ℤ
  agentID : Bytes
  deriving DecidableEq

def JwtClaims.unmarshal (j : Json) : Option JwtClaims := do
  let fs ← j.fields
  let sub ← Json.stringField fs (ascii "sub")
  let org ← Json.stringField fs (ascii "org")
  let iat ← Json.intField fs (ascii "iat")
  let exp ← Json.intField fs (ascii "exp")
  let agentID ← Json.stringField fs (ascii "agent_id")
  return ⟨sub, org, iat, exp, agentID⟩

def JwtClaims.fields (c : JwtClaims) : List (Bytes × Json) :=
  [(ascii "sub", .str c.sub), (ascii "org", .str c.org), (ascii "iat", .num c.iat),
    (ascii "exp", .num c.exp), (ascii "agent_id", .str c.agentID)]

def JwtClaims.marshal (c : JwtClaims) : Json := .obj c.fields

def jwtHeaderJSON : Bytes := ascii "\x7b\"alg\":\"HS256\",\"typ\":\"JWT\"\x7d"

/-- The validator of API keys gives the agent and the organisation of a key, or the text of an
error. -/
structure AuthManager where
  jwtSecret : Bytes
  keyValidator : Option (Bytes → Except Bytes (Bytes × Bytes))

structure HelloAuthInfo where
  agentID : Bytes
  orgID : Bytes
  version : Bytes
  hostname : Bytes
  osType : Bytes
  deriving DecidableEq

inductive HandshakeError
  | parse
  | unexpectedType (type : Bytes)
  | auth (err : AppError)
  deriving DecidableEq

namespace AuthManager

variable (mac : Bytes → Bytes → Bytes) (json : Bytes → Option Json) (a : AuthManager)

def checkClaims (now : ℤ) (claims : JwtClaims) : Except AppError (Bytes × Bytes) :=
  if 0 < claims.exp ∧ claims.exp < now then .error (unauthorized "JWT token expired")
  else
    let agentID := if claims.agentID = [] then claims.sub else claims.agentID
    if agentID = [] then .error (unauthorized "missing agent_id in JWT claims")
    else .ok (agentID, claims.org)

/-- `mac` is HMAC-SHA256, `json` gives the value that a text denotes, and `now` is in seconds since
the Unix epoch. -/
def validateJWT (now : ℤ) (token : Bytes) : Except AppError (Bytes × Bytes) :=
  match token.splitOn 46 with
  | [header, claims, signature] =>
    match Base64.decodeString signature with
    | none => .error (unauthorized "invalid JWT signature encoding")
    | some sig =>
      if sig ≠ mac a.jwtSecret (header ++ [46] ++ claims) then
        .error (unauthorized "invalid JWT signature")
      else
        match Base64.decodeString claims with
        | none => .error (unauthorized "invalid JWT claims encoding")
        | some claimsJSON =>
          match (json claimsJSON).bind JwtClaims.unmarshal with
          | none => .error (unauthorized "invalid JWT claims")
          | some claims => checkClaims now claims
  | _ => .error (unauthorized "invalid JWT format")

def validateAPIKey (key : Bytes) : Except AppError (Bytes × Bytes) :=
  match a.keyValidator with
  | none => .error (unauthorized "API key validation not configured")
  | some validate =>
    match validate key with
    | .error err => .error ⟨.unauthorized, ascii "invalid API key: " ++ err⟩
    | .ok ids => .ok ids

def authenticateAgent (now : ℤ) (token : Bytes) : Except AppError (Bytes × Bytes) :=
  if token = [] then .error (unauthorized "missing token")
  else if ascii "ak_" <+: token then a.validateAPIKey token
  else a.validateJWT mac json now token

/-- `text` gives the JSON text of a value. -/
def generateJWT (text : Json → Bytes) (claims : JwtClaims) : Bytes :=
  let headerB64 := Base64.encodeToString jwtHeaderJSON
  let claimsB64 := Base64.encodeToString (text claims.marshal)
  let signingInput := headerB64 ++ [46] ++ claimsB64
  let sig := Base64.encodeToString (mac a.jwtSecret signingInput)
  signingInput ++ [46] ++ sig

def authenticateHello (now : ℤ) (msg : WSMessage) : Except AppError HelloAuthInfo :=
  match msg.unmarshalPayload HelloPayload.unmarshal {} with
  | none => .error ⟨.badRequest, ascii "invalid hello payload"⟩
  | some hello =>
    match a.authenticateAgent mac json now hello.token with
    | .error err => .error err
    | .ok (agentID, orgID) =>
      if hello.agentID ≠ [] ∧ hello.agentID ≠ agentID then
        .error (unauthorized "agent_id mismatch")
      else .ok ⟨agentID, orgID, hello.version, hello.hostname, hello.osType⟩

def performHelloHandshake (isTime : Bytes → Bool) (now : ℤ) (raw : Option Json) :
    Except HandshakeError HelloAuthInfo :=
  match parseMessage isTime raw with
  | none => .error .parse
  | some msg =>
    if msg.type ≠ msgAgentHello then .error (.unexpectedType msg.type)
    else (a.authenticateHello mac json now msg).mapError .auth

end AuthManager

def newAgentConnection (ref : ℕ) (info : HelloAuthInfo) : AgentConnection :=
  ⟨ref, info.agentID, info.orgID, info.version⟩

end OmniTun.Gateway
