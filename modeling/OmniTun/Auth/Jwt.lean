import OmniTun.Foundation.Base64
import OmniTun.Foundation.Json
import OmniTun.Relay.Token

/-! Access tokens, which a manager issues and validates with a library for JSON web tokens. -/

namespace OmniTun.Auth.Jwt

open OmniTun.Foundation
open OmniTun.Relay (unix)

inductive SigningMethod
  | hmac (alg : Bytes)
  | rsa (alg : Bytes)
  | other (alg : Bytes)

def SigningMethod.alg : SigningMethod → Bytes
  | .hmac alg | .rsa alg | .other alg => alg

def signingMethodHS256 : SigningMethod := .hmac (ascii "HS256")

def signingMethodRS256 : SigningMethod := .rsa (ascii "RS256")

inductive Key (κ : Type*)
  | secret (secret : Bytes)
  | rsa (key : κ)

abbrev KeyFunc (κ : Type*) := SigningMethod → Except Bytes (Key κ)

/-- The subject is left out of the JSON text if it is empty. Times are in seconds. -/
structure AccessClaims where
  subject : Bytes
  id : Bytes
  issuedAt : ℤ
  expiresAt : ℤ
  orgID : Bytes
  role : Bytes
  deriving DecidableEq

def omitEmpty (name : String) (value : Bytes) : List (Bytes × Json) :=
  if value = [] then [] else [(ascii name, .str value)]

def AccessClaims.fields (c : AccessClaims) : List (Bytes × Json) :=
  omitEmpty "sub" c.subject ++
    (ascii "exp", .num c.expiresAt) :: (ascii "iat", .num c.issuedAt) ::
    (omitEmpty "jti" c.id ++ [(ascii "org_id", .str c.orgID), (ascii "role", .str c.role)])

def AccessClaims.marshal (c : AccessClaims) : Json := .obj c.fields

/-- The library signs claims, and parses a token at an instant, into the claims of access tokens or
into a map. -/
structure Library (κ : Type*) where
  signedString : SigningMethod → Json → Key κ → Except Bytes Bytes
  parseWithClaims : KeyFunc κ → ℤ → Bytes → Except Bytes AccessClaims
  parse : KeyFunc κ → ℤ → Bytes → Except Bytes (List (Bytes × Json))

structure RSA (κ : Type*) where
  parsePrivateKey : Bytes → Except Bytes κ
  parsePublicKey : Bytes → Except Bytes κ
  generateKey : Except Bytes (κ × κ)

structure AuthConfig where
  jwtPrivateKey : Bytes
  jwtPublicKey : Bytes
  jwtSecret : Bytes
  tokenExpiry : ℤ

structure JWTManager (κ : Type*) where
  privateKey : Option κ
  publicKey : Option κ
  jwtSecret : Bytes
  accessExpiry : ℤ

section

variable {κ : Type*} (rsa : RSA κ) (cfg : AuthConfig)

def loadOrGenerateKeys : Except Bytes (Option κ × Option κ) :=
  if cfg.jwtPrivateKey ≠ [] ∧ cfg.jwtPublicKey ≠ [] then
    match rsa.parsePrivateKey cfg.jwtPrivateKey with
    | .error err => .error (ascii "failed to parse JWT private key: " ++ err)
    | .ok privateKey =>
      match rsa.parsePublicKey cfg.jwtPublicKey with
      | .error err => .error (ascii "failed to parse JWT public key: " ++ err)
      | .ok publicKey => .ok (some privateKey, some publicKey)
  else if cfg.jwtSecret ≠ [] then .ok (none, none)
  else
    match rsa.generateKey with
    | .error err => .error err
    | .ok (privateKey, publicKey) => .ok (some privateKey, some publicKey)

/-- Durations are in nanoseconds, and wrap around. -/
def accessExpiryOf : ℤ :=
  let accessExpiry := (cfg.tokenExpiry * 10 ^ 9).bmod (2 ^ 64)
  if accessExpiry ≤ 0 then 3600 * 10 ^ 9 else accessExpiry

def newJWTManager : Except Bytes (JWTManager κ) :=
  match loadOrGenerateKeys rsa cfg with
  | .error err => .error (ascii "failed to load or generate RSA keys: " ++ err)
  | .ok (privateKey, publicKey) => .ok ⟨privateKey, publicKey, cfg.jwtSecret, accessExpiryOf cfg⟩

end

namespace JWTManager

variable {κ : Type*} (lib : Library κ) (m : JWTManager κ)

def accessClaims (now : ℤ) (jti userID orgID role : Bytes) : AccessClaims where
  subject := userID
  id := jti
  issuedAt := unix now
  expiresAt := unix (now + m.accessExpiry)
  orgID := orgID
  role := role

def issueAccessToken (now : ℤ) (jti userID orgID role : Bytes) : Except Bytes Bytes :=
  let claims := m.accessClaims now jti userID orgID role
  match m.privateKey with
  | some privateKey => lib.signedString signingMethodRS256 claims.marshal (.rsa privateKey)
  | none =>
    if m.jwtSecret ≠ [] then
      lib.signedString signingMethodHS256 claims.marshal (.secret m.jwtSecret)
    else .error (ascii "no signing key available")

def unexpectedMethod (method : SigningMethod) : Bytes :=
  ascii "unexpected signing method: " ++ method.alg

def keyFunc : Option (KeyFunc κ) :=
  match m.publicKey with
  | some publicKey => some fun method =>
    match method with
    | .rsa _ => .ok (.rsa publicKey)
    | method => .error (unexpectedMethod method)
  | none =>
    if m.jwtSecret ≠ [] then
      some fun method =>
        match method with
        | .hmac _ => .ok (.secret m.jwtSecret)
        | method => .error (unexpectedMethod method)
    else none

def validateAccessToken (now : ℤ) (token : Bytes) : Except Bytes AccessClaims :=
  match m.keyFunc with
  | none => .error (ascii "no public key or secret available for JWT validation")
  | some keyFunc =>
    match lib.parseWithClaims keyFunc now token with
    | .error err => .error (ascii "invalid token: " ++ err)
    | .ok claims => .ok claims

end JWTManager

section

variable (mac : Bytes → Bytes → Bytes) (json : Bytes → Option Json)

def headerText : Bytes := ascii "\x7b\"alg\":\"HS256\",\"typ\":\"JWT\"\x7d"

def signingInput (claimsText : Bytes) : Bytes :=
  Base64.encodeToString headerText ++ [46] ++ Base64.encodeToString claimsText

/-- `mac` is HMAC-SHA256. -/
def compact (secret claimsText : Bytes) : Bytes :=
  signingInput claimsText ++ [46] ++ Base64.encodeToString (mac secret (signingInput claimsText))

def expired : Bytes := ascii "token has invalid claims: token is expired"

/-- The documented signing and parsing of access tokens under a secret. The text that is signed
denotes the claims, whose strings are valid UTF-8, and a token is accepted strictly before the second
at which it expires. -/
structure Library.Documented {κ : Type*} (lib : Library κ) (secret : Bytes) (claims : AccessClaims) :
    Prop where
  signed : ∃ text, json text = some claims.marshal ∧
    lib.signedString signingMethodHS256 claims.marshal (.secret secret) = .ok (compact mac secret text)
  parsed : ∀ keyFunc token now, keyFunc signingMethodHS256 = .ok (.secret secret) →
    lib.signedString signingMethodHS256 claims.marshal (.secret secret) = .ok token →
      lib.parseWithClaims keyFunc now token =
        if now < claims.expiresAt * 10 ^ 9 then .ok claims else .error expired

end

section

variable {κ : Type*} {lib : Library κ} {rsa : RSA κ} {cfg : AuthConfig} {m : JWTManager κ}
  {mac : Bytes → Bytes → Bytes} {json : Bytes → Option Json} {jti userID orgID role token : Bytes}
  {now t : ℤ}

lemma newJWTManager_secret (hsecret : cfg.jwtSecret ≠ [])
    (hkeys : cfg.jwtPrivateKey = [] ∨ cfg.jwtPublicKey = []) :
    newJWTManager rsa cfg = .ok ⟨none, none, cfg.jwtSecret, accessExpiryOf cfg⟩ := by
  have hnot : ¬ (cfg.jwtPrivateKey ≠ [] ∧ cfg.jwtPublicKey ≠ []) := by
    rintro ⟨hprivate, hpublic⟩
    exact hkeys.elim hprivate hpublic
  rw [newJWTManager, loadOrGenerateKeys, if_neg hnot, if_pos hsecret]

lemma issueAccessToken_secret (hprivate : m.privateKey = none) (hsecret : m.jwtSecret ≠ []) :
    m.issueAccessToken lib now jti userID orgID role =
      lib.signedString signingMethodHS256 (m.accessClaims now jti userID orgID role).marshal
        (.secret m.jwtSecret) := by
  simp only [JWTManager.issueAccessToken, hprivate, if_pos hsecret]

lemma validateAccessToken_issued {claims : AccessClaims} (hpublic : m.publicKey = none)
    (hsecret : m.jwtSecret ≠ []) (hlib : lib.Documented mac json m.jwtSecret claims)
    (htoken : lib.signedString signingMethodHS256 claims.marshal (.secret m.jwtSecret) = .ok token) :
    (∃ accepted, m.validateAccessToken lib t token = .ok accepted) ↔
      t < claims.expiresAt * 10 ^ 9 := by
  have hkey : ∃ keyFunc, m.keyFunc = some keyFunc ∧
      keyFunc signingMethodHS256 = .ok (.secret m.jwtSecret) := by
    rw [JWTManager.keyFunc, hpublic]
    simp only [if_pos hsecret, Option.some.injEq, exists_eq_left']
    rfl
  obtain ⟨keyFunc, hkeyFunc, hhs⟩ := hkey
  simp only [JWTManager.validateAccessToken, hkeyFunc, hlib.parsed keyFunc token t hhs htoken]
  by_cases ht : t < claims.expiresAt * 10 ^ 9
  · rw [if_pos ht]
    exact iff_of_true ⟨claims, rfl⟩ ht
  · rw [if_neg ht]
    exact iff_of_false (fun h => by cases h.choose_spec) ht

end

end OmniTun.Auth.Jwt
