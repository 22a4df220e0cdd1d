import OmniTun.Gateway.Auth

/-! The tokens of agents: what the gateway accepts, against what it signs. -/

namespace OmniTun.Gateway.Credentials

open OmniTun.Foundation

def agentOf (c : JwtClaims) : Bytes := if c.agentID = [] then c.sub else c.agentID

structure Valid (now : ℤ) (c : JwtClaims) : Prop where
  named : agentOf c ≠ []
  fresh : c.exp ≤ 0 ∨ now ≤ c.exp

/-- The times are those of 64-bit integers, and the JSON text of the claims denotes them. -/
structure Faithful (json : Bytes → Option Json) (text : Json → Bytes) (c : JwtClaims) : Prop where
  iat : -2 ^ 63 ≤ c.iat ∧ c.iat < 2 ^ 63
  exp : -2 ^ 63 ≤ c.exp ∧ c.exp < 2 ^ 63
  denotes : json (text c.marshal) = some c.marshal

def signingInput (text : Json → Bytes) (c : JwtClaims) : Bytes :=
  Base64.encodeToString jwtHeaderJSON ++ [46] ++ Base64.encodeToString (text c.marshal)

variable {mac : Bytes → Bytes → Bytes} {json : Bytes → Option Json} {text : Json → Bytes}
  {a : AuthManager} {now : ℤ} {c : JwtClaims} {token : Bytes} {ids : Bytes × Bytes}

/-- The token of the claims, up to the way in which its last segment spells the code. -/
def Spells (mac : Bytes → Bytes → Bytes) (text : Json → Bytes) (a : AuthManager) (token : Bytes)
    (c : JwtClaims) : Prop :=
  ∃ sig, token = signingInput text c ++ 46 :: sig ∧
    Base64.decodeString sig = some (mac a.jwtSecret (signingInput text c))

/-- Whoever signed it: the token carries the code of its text under the secret, and its claims are
these. -/
def Carries (mac : Bytes → Bytes → Bytes) (json : Bytes → Option Json) (a : AuthManager)
    (token : Bytes) (c : JwtClaims) : Prop :=
  ∃ header claims sig claimsJSON, token = header ++ [46] ++ claims ++ 46 :: sig ∧
    46 ∉ header ∧ 46 ∉ claims ∧
    Base64.decodeString sig = some (mac a.jwtSecret (header ++ [46] ++ claims)) ∧
    Base64.decodeString claims = some claimsJSON ∧
    (json claimsJSON).bind JwtClaims.unmarshal = some c

/-- Nothing else is signed with the secret: a code under it that the token carries is of a text that
was signed for some of the claims `signed`. -/
def Unforged (mac : Bytes → Bytes → Bytes) (text : Json → Bytes) (a : AuthManager)
    (signed : Set JwtClaims) (token : Bytes) : Prop :=
  ∀ input sig, token = input ++ 46 :: sig →
    Base64.decodeString sig = some (mac a.jwtSecret input) → ∃ c ∈ signed, input = signingInput text c

lemma spells_generateJWT : Spells mac text a (a.generateJWT mac text c) c := by
  refine ⟨Base64.encodeToString (mac a.jwtSecret (signingInput text c)), ?_,
    Base64.decodeString_encodeToString _⟩
  rw [List.append_cons]
  rfl

lemma not_mem_of_mem_splitOn {α : Type*} [BEq α] [LawfulBEq α] {sep : α} {xs p : List α}
    (hp : p ∈ xs.splitOn sep) : sep ∉ p := by
  induction xs generalizing p with
  | nil =>
    rw [List.splitOn_nil, List.mem_singleton] at hp
    subst hp
    exact List.not_mem_nil
  | cons x xs ih =>
    rw [List.splitOn_cons_eq_if_modifyHead] at hp
    split_ifs at hp with hx
    · rcases List.mem_cons.mp hp with rfl | hp
      · exact List.not_mem_nil
      · exact ih hp
    · cases hs : xs.splitOn sep with
      | nil => exact absurd hs (List.splitOn_ne_nil sep xs)
      | cons q qs =>
        rw [hs, List.modifyHead_cons] at hp
        rcases List.mem_cons.mp hp with rfl | hp
        · have hq := ih (hs ▸ List.mem_cons_self)
          rw [List.mem_cons, not_or]
          exact ⟨fun h => hx (by simp [h]), hq⟩
        · exact ih (hs ▸ List.mem_cons_of_mem q hp)

lemma append_sep_inj {α : Type*} {sep : α} {xs ys xs' ys' : List α}
    (h : xs ++ sep :: ys = xs' ++ sep :: ys') (hy : sep ∉ ys) (hy' : sep ∉ ys') :
    xs = xs' ∧ ys = ys' := by
  rcases List.append_eq_append_iff.mp h with ⟨zs, hxs, hys⟩ | ⟨zs, hxs, hys⟩
  · cases zs with
    | nil => exact ⟨by simpa using hxs.symm, (List.cons.inj hys).2⟩
    | cons z zs =>
      rw [List.cons_append] at hys
      exact absurd ((List.cons.inj hys).2 ▸ by simp) hy
  · cases zs with
    | nil => exact ⟨by simpa using hxs, (List.cons.inj hys).2.symm⟩
    | cons z zs =>
      rw [List.cons_append] at hys
      exact absurd ((List.cons.inj hys).2 ▸ by simp) hy'

lemma splitOn_three {header claims sig : Bytes} (hh : 46 ∉ header) (hc : 46 ∉ claims)
    (hs : 46 ∉ sig) :
    (header ++ [46] ++ claims ++ 46 :: sig).splitOn 46 = [header, claims, sig] := by
  rw [List.append_assoc, List.append_assoc, List.singleton_append,
    List.splitOn_append_cons_self_of_not_mem hh, List.splitOn_append_cons_self_of_not_mem hc,
    List.splitOn_eq_singleton hs]

lemma eq_of_splitOn_three {header claims sig : Bytes}
    (h : token.splitOn 46 = [header, claims, sig]) :
    token = header ++ [46] ++ claims ++ 46 :: sig := by
  have hjoin : [46].intercalate (token.splitOn 46) = token := List.intercalate_splitOn 46
  rw [h] at hjoin
  rw [← hjoin]
  simp [List.intercalate]

lemma unmarshal_marshal (hf : Faithful json text c) :
    JwtClaims.unmarshal c.marshal = some c := by
  have hissued : Json.intField c.fields (ascii "iat") = some c.iat := by
    have hread : Json.intField c.fields (ascii "iat") = (Json.readInt (.num c.iat)).bind some := rfl
    have hrange : Json.readInt (.num c.iat) = some c.iat := if_pos hf.iat
    rw [hread, hrange, Option.bind_some]
  have hexpires : Json.intField c.fields (ascii "exp") = some c.exp := by
    have hread : Json.intField c.fields (ascii "exp") = (Json.readInt (.num c.exp)).bind some := rfl
    have hrange : Json.readInt (.num c.exp) = some c.exp := if_pos hf.exp
    rw [hread, hrange, Option.bind_some]
  simp only [JwtClaims.unmarshal, JwtClaims.marshal, Json.fields, Option.bind_eq_bind,
    Option.bind_some, hissued, hexpires]
  rfl

lemma checkClaims_eq_ok : AuthManager.checkClaims now c = .ok ids ↔
    Valid now c ∧ ids = (agentOf c, c.org) := by
  have hfresh : (c.exp ≤ 0 ∨ now ≤ c.exp) ↔ ¬ (0 < c.exp ∧ c.exp < now) := by omega
  have hvalid : Valid now c ↔ agentOf c ≠ [] ∧ ¬ (0 < c.exp ∧ c.exp < now) := by
    rw [← hfresh]
    exact ⟨fun h => ⟨h.named, h.fresh⟩, fun h => ⟨h.1, h.2⟩⟩
  rw [hvalid, AuthManager.checkClaims, ← agentOf]
  by_cases hexp : 0 < c.exp ∧ c.exp < now
  · simp [hexp]
  · rw [if_neg hexp]
    by_cases hagent : agentOf c = []
    · simp [hagent]
    · simp only [hexp, hagent, ne_eq, not_false_eq_true, if_false, and_self, true_and,
        Except.ok.injEq, eq_comm]

lemma validateJWT_eq_ok : a.validateJWT mac json now token = .ok ids ↔
    ∃ c, Carries mac json a token c ∧ Valid now c ∧ ids = (agentOf c, c.org) := by
  constructor
  · intro h
    unfold AuthManager.validateJWT at h
    split at h
    case h_2 => cases h
    case h_1 header claims sig hsplit =>
      have hparts : ∀ p ∈ [header, claims, sig], 46 ∉ p := by
        intro p hp
        rw [← hsplit] at hp
        exact not_mem_of_mem_splitOn hp
      split at h
      case h_1 => cases h
      case h_2 code hcode =>
        split_ifs at h with hmac
        split at h
        case h_1 => cases h
        case h_2 claimsJSON hclaims =>
          split at h
          case h_1 => cases h
          case h_2 c hc =>
            obtain ⟨hvalid, hids⟩ := checkClaims_eq_ok.mp h
            exact ⟨c, ⟨header, claims, sig, claimsJSON, eq_of_splitOn_three hsplit,
              hparts header (by simp), hparts claims (by simp),
              hcode.trans (by rw [not_not.mp hmac]), hclaims, hc⟩, hvalid, hids⟩
  · rintro ⟨c, ⟨header, claims, sig, claimsJSON, rfl, hheader, hdots, hcode, hclaims, hc⟩, hvalid,
      rfl⟩
    have hsplit := splitOn_three hheader hdots (Base64.dot_not_mem_of_decodeString hcode)
    rw [AuthManager.validateJWT, hsplit]
    simp only [hcode, hclaims, hc, ne_eq, not_true_eq_false, if_false]
    exact checkClaims_eq_ok.mpr ⟨hvalid, rfl⟩

lemma Spells.validateJWT_iff (hs : Spells mac text a token c) (hf : Faithful json text c) :
    a.validateJWT mac json now token = .ok ids ↔ Valid now c ∧ ids = (agentOf c, c.org) := by
  obtain ⟨sig, rfl, hsig⟩ := hs
  have hsplit : (signingInput text c ++ 46 :: sig).splitOn 46 =
      [Base64.encodeToString jwtHeaderJSON, Base64.encodeToString (text c.marshal), sig] :=
    splitOn_three (Base64.dot_not_mem_encodeToString _) (Base64.dot_not_mem_encodeToString _)
      (Base64.dot_not_mem_of_decodeString hsig)
  have hinput : Base64.encodeToString jwtHeaderJSON ++ [46] ++
      Base64.encodeToString (text c.marshal) = signingInput text c := rfl
  rw [AuthManager.validateJWT, hsplit]
  simp only [hinput, hsig, Base64.decodeString_encodeToString, hf.denotes, Option.bind_some,
    unmarshal_marshal hf, ne_eq, not_true_eq_false, if_false]
  exact checkClaims_eq_ok

lemma signingInput_inj {header claims : Bytes} (hh : 46 ∉ header) (hc : 46 ∉ claims)
    (h : header ++ [46] ++ claims = signingInput text c) :
    claims = Base64.encodeToString (text c.marshal) := by
  have hsplit := splitOn_three hh hc List.not_mem_nil
  rw [h, signingInput, splitOn_three (Base64.dot_not_mem_encodeToString _)
    (Base64.dot_not_mem_encodeToString _) List.not_mem_nil] at hsplit
  exact ((List.cons.inj (List.cons.inj hsplit).2).1).symm

lemma Unforged.sound {signed : Set JwtClaims} (hu : Unforged mac text a signed token)
    (hf : ∀ c ∈ signed, Faithful json text c)
    (h : a.validateJWT mac json now token = .ok ids) :
    ∃ c ∈ signed, Spells mac text a token c ∧ Valid now c ∧ ids = (agentOf c, c.org) := by
  obtain ⟨c, ⟨header, claims, sig, claimsJSON, rfl, hheader, hdots, hcode, hclaims, hc⟩, hvalid,
    rfl⟩ := validateJWT_eq_ok.mp h
  obtain ⟨c', hc', hinput⟩ := hu _ sig rfl hcode
  obtain rfl := signingInput_inj hheader hdots hinput
  rw [Base64.decodeString_encodeToString, Option.some.injEq] at hclaims
  subst hclaims
  rw [(hf c' hc').denotes, Option.bind_some, unmarshal_marshal (hf c' hc'), Option.some.injEq] at hc
  subst hc
  exact ⟨c', hc', ⟨sig, by rw [hinput], by rw [← hinput, hcode]⟩, hvalid, rfl⟩

lemma Spells.authenticateAgent_eq (hs : Spells mac text a token c) :
    a.authenticateAgent mac json now token = a.validateJWT mac json now token := by
  obtain ⟨sig, rfl, -⟩ := hs
  -- the text of the header starts with a brace, and its base64 form with an e
  obtain ⟨rest, hrest⟩ : ∃ rest, signingInput text c ++ 46 :: sig = 101 :: rest := ⟨_, rfl⟩
  have hkey : ¬ ascii "ak_" <+: signingInput text c ++ 46 :: sig := by
    rw [hrest]
    intro h
    exact absurd (List.cons_prefix_cons.mp h).1 (by decide)
  rw [AuthManager.authenticateAgent, if_neg (by simp), if_neg hkey]

lemma authenticateAgent_eq_ok (hkey : ¬ ascii "ak_" <+: token) :
    a.authenticateAgent mac json now token = .ok ids ↔
      a.validateJWT mac json now token = .ok ids := by
  rw [AuthManager.authenticateAgent, if_neg hkey]
  by_cases hempty : token = []
  · -- the empty token has one part
    subst hempty
    exact ⟨fun h => (by cases h), fun h => (by cases h)⟩
  · rw [if_neg hempty]

def Accepts (now : ℤ) (hello : HelloPayload) (c : JwtClaims) : Prop :=
  Valid now c ∧ (hello.agentID = [] ∨ hello.agentID = agentOf c)

def infoOf (hello : HelloPayload) (c : JwtClaims) : HelloAuthInfo :=
  ⟨agentOf c, c.org, hello.version, hello.hostname, hello.osType⟩

variable {msg : WSMessage} {hello : HelloPayload} {info : HelloAuthInfo}

lemma authenticateHello_eq_ok (hmsg : msg.unmarshalPayload HelloPayload.unmarshal {} = some hello) :
    a.authenticateHello mac json now msg = .ok info ↔ ∃ agentID orgID,
      a.authenticateAgent mac json now hello.token = .ok (agentID, orgID) ∧
      (hello.agentID = [] ∨ hello.agentID = agentID) ∧
      info = ⟨agentID, orgID, hello.version, hello.hostname, hello.osType⟩ := by
  simp only [AuthManager.authenticateHello, hmsg]
  cases hids : a.authenticateAgent mac json now hello.token with
  | error err => simp
  | ok ids =>
    obtain ⟨agentID, orgID⟩ := ids
    simp only [Except.ok.injEq, Prod.mk.injEq]
    by_cases hagent : hello.agentID ≠ [] ∧ hello.agentID ≠ agentID
    · rw [if_pos hagent]
      constructor
      · intro h
        cases h
      · rintro ⟨_, _, ⟨rfl, rfl⟩, hsame, _⟩
        rcases hsame with hsame | hsame
        · exact absurd hsame hagent.1
        · exact absurd hsame hagent.2
    · rw [if_neg hagent]
      have hsame : hello.agentID = [] ∨ hello.agentID = agentID := by
        by_contra hboth
        exact hagent (not_or.mp hboth)
      constructor
      · intro h
        exact ⟨agentID, orgID, ⟨rfl, rfl⟩, hsame, (Except.ok.inj h).symm⟩
      · rintro ⟨_, _, ⟨rfl, rfl⟩, _, rfl⟩
        rfl

lemma accepts_of_valid {agentID orgID : Bytes} (hvalid : Valid now c)
    (hids : (agentID, orgID) = (agentOf c, c.org))
    (hsame : hello.agentID = [] ∨ hello.agentID = agentID)
    (hinfo : info = ⟨agentID, orgID, hello.version, hello.hostname, hello.osType⟩) :
    Accepts now hello c ∧ info = infoOf hello c := by
  obtain ⟨rfl, rfl⟩ := Prod.mk.inj hids
  exact ⟨⟨hvalid, hsame⟩, hinfo⟩

theorem credentials_exact (mac : Bytes → Bytes → Bytes) (json : Bytes → Option Json)
    (text : Json → Bytes) (a : AuthManager) (now : ℤ) (msg : WSMessage) (hello : HelloPayload)
    (hmsg : msg.unmarshalPayload HelloPayload.unmarshal {} = some hello) :
    (∀ c, Faithful json text c → hello.token = a.generateJWT mac text c → ∀ info,
      a.authenticateHello mac json now msg = .ok info ↔ Accepts now hello c ∧ info = infoOf hello c) ∧
    (¬ ascii "ak_" <+: hello.token → ∀ info, a.authenticateHello mac json now msg = .ok info ↔
      ∃ c, Carries mac json a hello.token c ∧ Accepts now hello c ∧ info = infoOf hello c) ∧
    ∀ signed : Set JwtClaims, (∀ c ∈ signed, Faithful json text c) →
      Unforged mac text a signed hello.token → ¬ ascii "ak_" <+: hello.token →
      ∀ info, a.authenticateHello mac json now msg = .ok info → ∃ c ∈ signed,
        Spells mac text a hello.token c ∧ Accepts now hello c ∧ info = infoOf hello c := by
  refine ⟨?_, ?_, ?_⟩
  · intro c hf htoken info
    have hs : Spells mac text a hello.token c := by
      rw [htoken]
      exact spells_generateJWT
    rw [authenticateHello_eq_ok hmsg, hs.authenticateAgent_eq]
    constructor
    · rintro ⟨agentID, orgID, hids, hsame, hinfo⟩
      obtain ⟨hvalid, heq⟩ := (hs.validateJWT_iff hf).mp hids
      exact accepts_of_valid hvalid heq hsame hinfo
    · rintro ⟨⟨hvalid, hsame⟩, rfl⟩
      exact ⟨agentOf c, c.org, (hs.validateJWT_iff hf).mpr ⟨hvalid, rfl⟩, hsame, rfl⟩
  · intro hkey info
    rw [authenticateHello_eq_ok hmsg]
    constructor
    · rintro ⟨agentID, orgID, hids, hsame, hinfo⟩
      obtain ⟨c, hc, hvalid, heq⟩ := validateJWT_eq_ok.mp ((authenticateAgent_eq_ok hkey).mp hids)
      exact ⟨c, hc, accepts_of_valid hvalid heq hsame hinfo⟩
    · rintro ⟨c, hc, ⟨hvalid, hsame⟩, rfl⟩
      have hids := validateJWT_eq_ok.mpr ⟨c, hc, hvalid, rfl⟩
      exact ⟨agentOf c, c.org, (authenticateAgent_eq_ok hkey).mpr hids, hsame, rfl⟩
  · intro signed hf hu hkey info h
    obtain ⟨agentID, orgID, hids, hsame, hinfo⟩ := (authenticateHello_eq_ok hmsg).mp h
    obtain ⟨c, hc, hs, hvalid, heq⟩ := hu.sound hf ((authenticateAgent_eq_ok hkey).mp hids)
    exact ⟨c, hc, hs, accepts_of_valid hvalid heq hsame hinfo⟩

section Runs

def agentClaims : JwtClaims := ⟨[], ascii "red", 0, 60, ascii "agent"⟩

def zeroMac (_ _ : Bytes) : Bytes := List.replicate 32 0

def claimsText (_ : Json) : Bytes :=
  ascii ("\x7b\"sub\":\"\",\"org\":\"red\",\"iat\":0,\"exp\":60,\"agent_id\":\"agent\"\x7d")

def claimsJson (_ : Bytes) : Option Json := some agentClaims.marshal

def secretManager : AuthManager := ⟨ascii "secret", none⟩

lemma faithful_agentClaims : Faithful claimsJson claimsText agentClaims where
  iat := by decide
  exp := by decide
  denotes := rfl

def respelled : Bytes :=
  signingInput claimsText agentClaims ++ 46 :: (List.replicate 42 65 ++ [66])

def helloOf (token : Bytes) : WSMessage where
  type := msgAgentHello
  id := []
  timestamp := []
  payload := some (.obj [(ascii "token", .str token)])

lemma respelled_spells : Spells zeroMac claimsText secretManager respelled agentClaims :=
  ⟨List.replicate 42 65 ++ [66], rfl, by decide⟩

lemma unforged_respelled :
    Unforged zeroMac claimsText secretManager {agentClaims} respelled := by
  intro input sig htoken hcode
  obtain ⟨sig', htoken', hcode'⟩ := respelled_spells
  have hparts := append_sep_inj (htoken.symm.trans htoken')
    (Base64.dot_not_mem_of_decodeString hcode) (Base64.dot_not_mem_of_decodeString hcode')
  exact ⟨agentClaims, rfl, hparts.1⟩

lemma respelled_ne_generateJWT (c : JwtClaims) :
    respelled ≠ secretManager.generateJWT zeroMac claimsText c := by
  intro h
  obtain ⟨sig, hsig, -⟩ : Spells zeroMac claimsText secretManager respelled c :=
    h ▸ spells_generateJWT
  have hcanonical : respelled = signingInput claimsText c ++
      46 :: Base64.encodeToString (List.replicate 32 0) := by
    rw [h, AuthManager.generateJWT, List.append_cons]
    rfl
  have hparts := append_sep_inj hcanonical (by decide) (Base64.dot_not_mem_encodeToString _)
  exact absurd hparts.2 (by decide)

lemma respelled_accepted :
    secretManager.authenticateHello zeroMac claimsJson 60 (helloOf respelled) =
      .ok (infoOf { token := respelled } agentClaims) := by
  have hmsg : (helloOf respelled).unmarshalPayload HelloPayload.unmarshal {} =
      some { token := respelled } := rfl
  rw [authenticateHello_eq_ok hmsg]
  have hvalid : Valid 60 agentClaims := ⟨by decide, by decide⟩
  refine ⟨ascii "agent", ascii "red", ?_, .inl rfl, rfl⟩
  rw [respelled_spells.authenticateAgent_eq]
  exact (respelled_spells.validateJWT_iff faithful_agentClaims).mpr ⟨hvalid, rfl⟩

lemma respelled_not_key : ¬ ascii "ak_" <+: respelled := by
  have hcons : ∃ rest, respelled = 101 :: rest := ⟨_, rfl⟩
  obtain ⟨rest, hrest⟩ := hcons
  rw [hrest]
  intro h
  exact absurd (List.cons_prefix_cons.mp h).1 (by decide)

theorem credentials_exact_agent :
    secretManager.authenticateHello zeroMac claimsJson 60
        (helloOf (secretManager.generateJWT zeroMac claimsText agentClaims)) =
      .ok ⟨ascii "agent", ascii "red", [], [], []⟩ ∧
    ∃ c ∈ ({agentClaims} : Set JwtClaims), Spells zeroMac claimsText secretManager respelled c := by
  constructor
  · have hexact := (credentials_exact zeroMac claimsJson claimsText secretManager 60
      (helloOf (secretManager.generateJWT zeroMac claimsText agentClaims))
      { token := secretManager.generateJWT zeroMac claimsText agentClaims } rfl).1
    have hvalid : Valid 60 agentClaims := ⟨by decide, by decide⟩
    exact (hexact agentClaims faithful_agentClaims rfl _).mpr ⟨⟨hvalid, .inl rfl⟩, rfl⟩
  · have hexact := (credentials_exact zeroMac claimsJson claimsText secretManager 60
      (helloOf respelled) { token := respelled } rfl).2.2 {agentClaims}
    obtain ⟨c, hc, hs, _⟩ := hexact (by rintro c rfl; exact faithful_agentClaims)
      unforged_respelled respelled_not_key _ respelled_accepted
    exact ⟨c, hc, hs⟩

theorem respelled_token_accepted :
    ¬ ∀ (mac : Bytes → Bytes → Bytes) (json : Bytes → Option Json) (text : Json → Bytes)
      (a : AuthManager) (now : ℤ) (msg : WSMessage) (hello : HelloPayload),
      msg.unmarshalPayload HelloPayload.unmarshal {} = some hello →
      ∀ signed : Set JwtClaims, (∀ c ∈ signed, Faithful json text c) →
        Unforged mac text a signed hello.token → ¬ ascii "ak_" <+: hello.token →
        ∀ info, a.authenticateHello mac json now msg = .ok info →
          ∃ c ∈ signed, hello.token = a.generateJWT mac text c := by
  intro hall
  obtain ⟨c, _, hc⟩ := hall zeroMac claimsJson claimsText secretManager 60 (helloOf respelled)
    { token := respelled } rfl {agentClaims} (by rintro c rfl; exact faithful_agentClaims)
    unforged_respelled respelled_not_key _ respelled_accepted
  exact respelled_ne_generateJWT c hc

end Runs

end OmniTun.Gateway.Credentials
