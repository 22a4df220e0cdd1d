import OmniTun.Auth.Jwt
import OmniTun.Gateway.Auth

/-! The access tokens of the API at the gateway of agents. -/

namespace OmniTun.Gateway

open OmniTun.Auth.Jwt OmniTun.Foundation
open OmniTun.Relay (unix unix_range)

def newAuthManager (jwtSecret : Bytes)
    (keyValidator : Option (Bytes → Except Bytes (Bytes × Bytes))) : AuthManager :=
  ⟨jwtSecret, keyValidator⟩

/-- The gateway and the API take the same token, and the gateway gives the agent's organisation. -/
structure Agrees (gateway : Except AppError (Bytes × Bytes)) (api : Except Bytes AccessClaims)
    (orgID : Bytes) : Prop where
  accepts : (∃ ids, gateway = .ok ids) ↔ ∃ claims, api = .ok claims
  org : ∀ agentID org, gateway = .ok (agentID, org) → org = orgID

section

variable {mac : Bytes → Bytes → Bytes} {json : Bytes → Option Json} {a : AuthManager}
  {secret text orgID : Bytes} {claims : AccessClaims} {now : ℤ}

lemma splitOn_compact : (compact mac secret text).splitOn 46 = [Base64.encodeToString headerText,
    Base64.encodeToString text, Base64.encodeToString (mac secret (signingInput text))] := by
  have hsplit : compact mac secret text = Base64.encodeToString headerText ++
      46 :: (Base64.encodeToString text ++
        46 :: Base64.encodeToString (mac secret (signingInput text))) := by
    simp only [compact, signingInput, List.append_assoc, List.cons_append, List.nil_append]
  rw [hsplit, List.splitOn_append_cons_self_of_not_mem (Base64.dot_not_mem_encodeToString _),
    List.splitOn_append_cons_self_of_not_mem (Base64.dot_not_mem_encodeToString _),
    List.splitOn_eq_singleton (Base64.dot_not_mem_encodeToString _)]

lemma compact_cons : ∃ rest, compact mac secret text = 101 :: rest := ⟨_, rfl⟩

lemma named_fields (c : AccessClaims) :
    Json.named c.fields (ascii "sub") = (if c.subject = [] then [] else [.str c.subject]) ∧
      Json.named c.fields (ascii "org") = [] ∧
      Json.named c.fields (ascii "iat") = [.num c.issuedAt] ∧
      Json.named c.fields (ascii "exp") = [.num c.expiresAt] ∧
      Json.named c.fields (ascii "agent_id") = [] := by
  obtain ⟨subject, id, issuedAt, expiresAt, orgID, role⟩ := c
  cases subject <;> cases id <;> exact ⟨rfl, rfl, rfl, rfl, rfl⟩

lemma unmarshal_marshal (hiat : -2 ^ 63 ≤ claims.issuedAt ∧ claims.issuedAt < 2 ^ 63)
    (hexp : -2 ^ 63 ≤ claims.expiresAt ∧ claims.expiresAt < 2 ^ 63) :
    JwtClaims.unmarshal claims.marshal =
      some ⟨claims.subject, [], claims.issuedAt, claims.expiresAt, []⟩ := by
  obtain ⟨hsub, horg, hiatField, hexpField, hagent⟩ := named_fields claims
  have hsubject : Json.stringField claims.fields (ascii "sub") = some claims.subject := by
    rw [Json.stringField, Json.field, hsub]
    split_ifs with hempty
    · rw [hempty]
      rfl
    · rfl
  have horgID : Json.stringField claims.fields (ascii "org") = some [] := by
    rw [Json.stringField, Json.field, horg]
    rfl
  have hissued : Json.intField claims.fields (ascii "iat") = some claims.issuedAt := by
    have hread : Json.readInt (.num claims.issuedAt) = some claims.issuedAt := if_pos hiat
    simp [Json.intField, Json.field, hiatField, hread]
  have hexpires : Json.intField claims.fields (ascii "exp") = some claims.expiresAt := by
    have hread : Json.readInt (.num claims.expiresAt) = some claims.expiresAt := if_pos hexp
    simp [Json.intField, Json.field, hexpField, hread]
  have hagentID : Json.stringField claims.fields (ascii "agent_id") = some [] := by
    rw [Json.stringField, Json.field, hagent]
    rfl
  simp only [JwtClaims.unmarshal, AccessClaims.marshal, Json.fields, Option.bind_eq_bind,
    Option.bind_some, hsubject, horgID, hissued, hexpires, hagentID]
  rfl

lemma authenticateAgent_compact (hjson : json text = some claims.marshal)
    (hiat : -2 ^ 63 ≤ claims.issuedAt ∧ claims.issuedAt < 2 ^ 63)
    (hexp : -2 ^ 63 ≤ claims.expiresAt ∧ claims.expiresAt < 2 ^ 63) :
    a.authenticateAgent mac json now (compact mac a.jwtSecret text) =
      AuthManager.checkClaims now ⟨claims.subject, [], claims.issuedAt, claims.expiresAt, []⟩ := by
  obtain ⟨rest, hrest⟩ : ∃ rest, compact mac a.jwtSecret text = 101 :: rest := compact_cons
  have hne : compact mac a.jwtSecret text ≠ [] := by simp [hrest]
  have hkey : ¬ ascii "ak_" <+: compact mac a.jwtSecret text := by
    rw [hrest]
    intro h
    have hhead := List.cons_prefix_cons.mp h
    exact absurd hhead.1 (by decide)
  rw [AuthManager.authenticateAgent, if_neg hne, if_neg hkey, AuthManager.validateJWT,
    splitOn_compact]
  simp only [Base64.decodeString_encodeToString]
  rw [if_neg (by simp [signingInput]), hjson, Option.bind_some, unmarshal_marshal hiat hexp]

end

/-- What makes the two agree on the token of a user until and after it expires at `exp`. -/
def AgreeAt (userID orgID : Bytes) (exp t : ℤ) : Prop :=
  if t < exp * 10 ^ 9 then userID ≠ [] ∧ orgID = [] ∧ (exp ≤ 0 ∨ unix t ≤ exp)
  else userID = [] ∨ (0 < exp ∧ exp < unix t)

lemma checkClaims_eq_ok {now iat exp : ℤ} {sub agentID org : Bytes} :
    AuthManager.checkClaims now ⟨sub, [], iat, exp, []⟩ = .ok (agentID, org) ↔
      (exp ≤ 0 ∨ now ≤ exp) ∧ sub ≠ [] ∧ agentID = sub ∧ org = [] := by
  have hvalid : (exp ≤ 0 ∨ now ≤ exp) ↔ ¬ (0 < exp ∧ exp < now) := by omega
  rw [AuthManager.checkClaims, hvalid]
  simp only
  split_ifs with hexp hsub
  · simp [hexp]
  · simp [hsub]
  · simp [hexp, hsub, eq_comm]

lemma agrees_iff {gateway : Except AppError (Bytes × Bytes)} {api : Except Bytes AccessClaims}
    {userID orgID : Bytes} {iat exp t : ℤ}
    (hgateway : gateway = AuthManager.checkClaims (unix t) ⟨userID, [], iat, exp, []⟩)
    (hapi : (∃ claims, api = .ok claims) ↔ t < exp * 10 ^ 9) :
    Agrees gateway api orgID ↔ AgreeAt userID orgID exp t := by
  have hok : ∀ agentID org, gateway = .ok (agentID, org) ↔
      (exp ≤ 0 ∨ unix t ≤ exp) ∧ userID ≠ [] ∧ agentID = userID ∧ org = [] := by
    intro agentID org
    rw [hgateway, checkClaims_eq_ok]
  have haccepts : (∃ ids, gateway = .ok ids) ↔ (exp ≤ 0 ∨ unix t ≤ exp) ∧ userID ≠ [] := by
    constructor
    · rintro ⟨⟨agentID, org⟩, hids⟩
      obtain ⟨hexp, hsub, -, -⟩ := (hok agentID org).mp hids
      exact ⟨hexp, hsub⟩
    · rintro ⟨hexp, hsub⟩
      exact ⟨(userID, []), (hok userID []).mpr ⟨hexp, hsub, rfl, rfl⟩⟩
  unfold AgreeAt
  split_ifs with ht
  · have haccepted := hapi.mpr ht
    constructor
    · rintro ⟨haccept, horg⟩
      obtain ⟨hexp, hsub⟩ := haccepts.mp (haccept.mpr haccepted)
      have hnil := horg userID [] ((hok userID []).mpr ⟨hexp, hsub, rfl, rfl⟩)
      exact ⟨hsub, hnil.symm, hexp⟩
    · rintro ⟨hsub, hnil, hexp⟩
      refine ⟨iff_of_true (haccepts.mpr ⟨hexp, hsub⟩) haccepted, fun agentID org hids => ?_⟩
      obtain ⟨-, -, -, horg⟩ := (hok agentID org).mp hids
      rw [horg, hnil]
  · have hrejected := mt hapi.mp ht
    constructor
    · rintro ⟨haccept, -⟩
      have hnot := mt haccepts.mpr (mt haccept.mp hrejected)
      by_cases hsub : userID = []
      · exact .inl hsub
      · have hnotExp : ¬ (exp ≤ 0 ∨ unix t ≤ exp) := fun hexp => hnot ⟨hexp, hsub⟩
        exact .inr (by omega)
    · intro hcondition
      have hnot : ¬ ∃ ids, gateway = .ok ids := by
        rw [haccepts]
        rintro ⟨hexp, hsub⟩
        have hexpired := hcondition.resolve_left hsub
        omega
      exact ⟨iff_of_false hnot hrejected, fun agentID org hids => absurd ⟨_, hids⟩ hnot⟩

theorem tokens_agree_iff {κ : Type*} (lib : Library κ) (rsa : RSA κ) (mac : Bytes → Bytes → Bytes)
    (json : Bytes → Option Json) (cfg : AuthConfig) (hsecret : cfg.jwtSecret ≠ [])
    (hkeys : cfg.jwtPrivateKey = [] ∨ cfg.jwtPublicKey = []) (m : JWTManager κ)
    (hm : newJWTManager rsa cfg = .ok m) (jti userID orgID role token : Bytes) (now t : ℤ)
    (hlib : lib.Documented mac json cfg.jwtSecret (m.accessClaims now jti userID orgID role))
    (htoken : m.issueAccessToken lib now jti userID orgID role = .ok token) :
    Agrees ((newAuthManager cfg.jwtSecret none).authenticateAgent mac json (unix t) token)
        (m.validateAccessToken lib t token) orgID ↔
      AgreeAt userID orgID (unix (now + m.accessExpiry)) t := by
  obtain rfl := Except.ok.inj ((newJWTManager_secret hsecret hkeys).symm.trans hm)
  rw [issueAccessToken_secret rfl hsecret] at htoken
  obtain ⟨text, hjson, hsigned⟩ := hlib.signed
  obtain rfl := Except.ok.inj (hsigned.symm.trans htoken)
  apply agrees_iff
  · exact authenticateAgent_compact hjson (unix_range _) (unix_range _)
  · exact validateAccessToken_issued rfl hsecret hlib htoken

section Runs

def secretConfig : AuthConfig := ⟨[], [], ascii "secret", 3600⟩

def secretManager : JWTManager Unit := ⟨none, none, ascii "secret", 3600 * 10 ^ 9⟩

def noRSA : RSA Unit := ⟨fun _ => .error [], fun _ => .error [], .error []⟩

def shortMac (secret text : Bytes) : Bytes := (secret ++ text).take 32

def claimsText : Bytes :=
  ascii ("\x7b\"sub\":\"user\",\"exp\":3600,\"iat\":0,\"jti\":\"id\",\"org_id\":\"org\"," ++
    "\"role\":\"owner\"\x7d")

def ownerClaims : AccessClaims := ⟨ascii "user", ascii "id", 0, 3600, ascii "org", ascii "owner"⟩

def claimsJson (text : Bytes) : Option Json :=
  if text = claimsText then some ownerClaims.marshal else none

def ownerToken : Bytes := compact shortMac (ascii "secret") claimsText

def ownerLibrary : Library Unit where
  signedString := fun _ _ _ => .ok ownerToken
  parseWithClaims := fun _ now _ =>
    if now < ownerClaims.expiresAt * 10 ^ 9 then .ok ownerClaims else .error expired
  parse := fun _ _ _ => .error []

theorem tokens_agree_late :
    Agrees ((newAuthManager (ascii "secret") none).authenticateAgent shortMac claimsJson
        (unix (3601 * 10 ^ 9)) ownerToken)
      (secretManager.validateAccessToken ownerLibrary (3601 * 10 ^ 9) ownerToken) (ascii "org") := by
  have hlib : ownerLibrary.Documented shortMac claimsJson (ascii "secret") ownerClaims := by
    constructor
    · exact ⟨claimsText, if_pos rfl, rfl⟩
    · intro keyFunc token now _ _
      rfl
  apply (tokens_agree_iff ownerLibrary noRSA shortMac claimsJson secretConfig (by decide) (.inl rfl)
    secretManager rfl (ascii "id") (ascii "user") (ascii "org") (ascii "owner") ownerToken 0
    (3601 * 10 ^ 9) hlib rfl).mpr
  have hlate : ¬ (3601 * 10 ^ 9 : ℤ) < 3600 * 10 ^ 9 := by decide
  exact (if_neg hlate).mpr (.inr (by decide))

theorem tokens_agree_fails :
    ¬ Agrees ((newAuthManager (ascii "secret") none).authenticateAgent shortMac claimsJson (unix 0)
        ownerToken)
      (secretManager.validateAccessToken ownerLibrary 0 ownerToken) (ascii "org") := by
  intro h
  have hjson : claimsJson claimsText = some ownerClaims.marshal := if_pos rfl
  have hiat : -2 ^ 63 ≤ ownerClaims.issuedAt ∧ ownerClaims.issuedAt < 2 ^ 63 := by decide
  have hexp : -2 ^ 63 ≤ ownerClaims.expiresAt ∧ ownerClaims.expiresAt < 2 ^ 63 := by decide
  have hcheck : AuthManager.checkClaims (unix 0) ⟨ascii "user", [], 0, 3600, []⟩ =
      .ok (ascii "user", []) := by decide
  have horg := h.org (ascii "user") [] ((authenticateAgent_compact hjson hiat hexp).trans hcheck)
  cases horg

end Runs

end OmniTun.Gateway
