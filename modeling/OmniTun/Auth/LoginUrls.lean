import OmniTun.Auth.OidcState
import OmniTun.Auth.OneTimePasswords
import OmniTun.Auth.Saml
import OmniTun.Foundation.QueryString

/-! The URLs that send a user to an identity provider, the forms that exchange a code and the URL that
holds the secret of a second factor, and what is read in them. -/

namespace OmniTun.Auth.LoginUrls

open OmniTun.Foundation QueryString
open OmniTun.Auth.OidcState (OIDCProvider)
open OmniTun.Auth.Saml (SAMLProvider)

structure OAuthManager where
  githubClientID : Bytes
  githubClientSecret : Bytes
  githubRedirectURL : Bytes
  googleClientID : Bytes
  googleClientSecret : Bytes
  googleRedirectURL : Bytes

namespace OAuthManager

variable (m : OAuthManager)

def githubAuthorize : Bytes := ascii "https://github.com/login/oauth/authorize"

def googleAuthorize : Bytes := ascii "https://accounts.google.com/o/oauth2/v2/auth"

def googleScope : Bytes :=
  ascii "https://www.googleapis.com/auth/userinfo.email " ++
    ascii "https://www.googleapis.com/auth/userinfo.profile"

def githubParams (state : Bytes) : Pairs :=
  [(ascii "client_id", m.githubClientID), (ascii "redirect_uri", m.githubRedirectURL),
    (ascii "scope", ascii "user:email"), (ascii "state", state)]

def googleParams (state : Bytes) : Pairs :=
  [(ascii "client_id", m.googleClientID), (ascii "redirect_uri", m.googleRedirectURL),
    (ascii "response_type", ascii "code"), (ascii "scope", googleScope), (ascii "state", state),
    (ascii "access_type", ascii "online")]

def gitHubLoginURL (state : Bytes) : Bytes :=
  if m.githubClientID = [] then []
  else setQuery githubAuthorize fun q => setAll q (m.githubParams state)

def googleLoginURL (state : Bytes) : Bytes :=
  if m.googleClientID = [] then []
  else setQuery googleAuthorize fun q => setAll q (m.googleParams state)

def githubExchange (code : Bytes) : Pairs :=
  [(ascii "client_id", m.githubClientID), (ascii "client_secret", m.githubClientSecret),
    (ascii "code", code), (ascii "redirect_uri", m.githubRedirectURL)]

def googleExchange (code : Bytes) : Pairs :=
  [(ascii "client_id", m.googleClientID), (ascii "client_secret", m.googleClientSecret),
    (ascii "code", code), (ascii "redirect_uri", m.googleRedirectURL),
    (ascii "grant_type", ascii "authorization_code")]

def exchangeGitHubCode (code : Bytes) : Bytes := encode (setAll [] (m.githubExchange code))

def exchangeGoogleCode (code : Bytes) : Bytes := encode (setAll [] (m.googleExchange code))

end OAuthManager

section Oidc

variable (p : OIDCProvider)

def mockOIDCCode : Bytes := ascii "__mock_oidc_code__"

def oidcParams (state : Bytes) : Pairs :=
  [(ascii "client_id", p.clientID), (ascii "redirect_uri", p.redirectURL),
    (ascii "response_type", ascii "code"), (ascii "scope", ascii "openid profile email"),
    (ascii "state", state)]

/-- `authEndpoint` is what the discovery document says. -/
def authCodeURL (authEndpoint state : Bytes) : Bytes :=
  if p.isMock then
    p.redirectURL ++ ascii "?code=" ++ mockOIDCCode ++ ascii "&state=" ++ escape .query state
  else setQuery authEndpoint fun q => setAll q (oidcParams p state)

def oidcExchange (code : Bytes) : Pairs :=
  [(ascii "grant_type", ascii "authorization_code"), (ascii "code", code),
    (ascii "redirect_uri", p.redirectURL), (ascii "client_id", p.clientID),
    (ascii "client_secret", p.clientSecret)]

def exchangeToken (code : Bytes) : Bytes := encode (setAll [] (oidcExchange p code))

end Oidc

section SingleSignOn

structure SamlAuthnRequest where
  id : Bytes
  issueInstant : Bytes
  destination : Bytes
  assertionConsumerServiceURL : Bytes
  issuer : Bytes

def authnRequest (p : SAMLProvider) (id issueInstant : Bytes) : SamlAuthnRequest where
  id := id
  issueInstant := issueInstant
  destination := p.metadataURL
  assertionConsumerServiceURL := p.acsURL
  issuer := p.entityID

def buildAuthnRequest (marshal : SamlAuthnRequest → Bytes) (deflate : Bytes → Bytes)
    (p : SAMLProvider) (id issueInstant relayState : Bytes) : Bytes :=
  let requestXML := marshal (authnRequest p id issueInstant)
  let encodedRequest := escape .query (Base64.encodeStandard (deflate requestXML))
  p.metadataURL ++ (if 63 ∈ p.metadataURL then ascii "&" else ascii "?") ++
    ascii "SAMLRequest=" ++ encodedRequest ++
    if relayState = [] then [] else ascii "&RelayState=" ++ escape .query relayState

def dashboardURL (relayState : Bytes) : Bytes :=
  if relayState = [] then ascii "/" else (unescape .query relayState).getD (ascii "/")

def firstValue (ps : Pairs) (key : Bytes) : Bytes := ((get ps key).head?).getD []

end SingleSignOn

def totpURL (email secret : Bytes) : Bytes :=
  ascii "otpauth://totp/" ++ escape .path (ascii "OmniTun") ++ ascii ":" ++ escape .path email ++
    ascii "?" ++ encode (setAll [] [(ascii "secret", secret), (ascii "issuer", ascii "OmniTun"),
      (ascii "algorithm", ascii "SHA1"), (ascii "digits", ascii "6"), (ascii "period", ascii "30")])

/-- The path of the URL, up to its query. -/
def label (url : Bytes) : Bytes := (base url).drop (ascii "otpauth://totp/").length

/-! What is read. -/

section

variable (m : OAuthManager) (p : OIDCProvider) (state code : Bytes)

lemma params_nodup : ((m.githubParams state).map Prod.fst).Nodup ∧
    ((m.googleParams state).map Prod.fst).Nodup ∧ ((oidcParams p state).map Prod.fst).Nodup ∧
    ((m.githubExchange code).map Prod.fst).Nodup ∧ ((m.googleExchange code).map Prod.fst).Nodup ∧
    ((oidcExchange p code).map Prod.fst).Nodup := by
  have h : [ascii "client_id", ascii "redirect_uri", ascii "scope", ascii "state"].Nodup ∧
      [ascii "client_id", ascii "redirect_uri", ascii "response_type", ascii "scope",
        ascii "state", ascii "access_type"].Nodup ∧
      [ascii "client_id", ascii "redirect_uri", ascii "response_type", ascii "scope",
        ascii "state"].Nodup ∧
      [ascii "client_id", ascii "client_secret", ascii "code", ascii "redirect_uri"].Nodup ∧
      [ascii "client_id", ascii "client_secret", ascii "code", ascii "redirect_uri",
        ascii "grant_type"].Nodup ∧
      [ascii "grant_type", ascii "code", ascii "redirect_uri", ascii "client_id",
        ascii "client_secret"].Nodup := by
    decide +kernel
  exact h

end

lemma read_setAll {url : Bytes} (hurl : readQuery url = []) {params : Pairs}
    (h : (params.map Prod.fst).Nodup) (key : Bytes) :
    get (readQuery (setQuery url fun q => setAll q params)) key = get params key := by
  rw [get_readQuery_setQuery, hurl, get_setAll_nil h]

lemma read_form {params : Pairs} (h : (params.map Prod.fst).Nodup) (key : Bytes) :
    get (parse (encode (setAll [] params))) key = get params key := by
  rw [get_parse_encode, get_setAll_nil h]

lemma mock_query (p : OIDCProvider) (authEndpoint state : Bytes) (hmock : p.isMock) :
    authCodeURL p authEndpoint state = p.redirectURL ++
      63 :: encodePairs [(ascii "code", mockOIDCCode), (ascii "state", state)] ++ [] := by
  have hcode : ascii "?code=" ++ mockOIDCCode =
      63 :: encodePair (ascii "code", mockOIDCCode) := by
    decide +kernel
  have hstate : ascii "&state=" = 38 :: (escape .query (ascii "state") ++ [61]) := by
    decide +kernel
  rw [authCodeURL, if_pos hmock, encodePairs_cons, encodePairs_singleton,
    List.append_assoc p.redirectURL, hcode, hstate]
  simp [encodePair]

/-- Whoever is sent a login URL or the form for a code reads the parameters that were put into it,
whatever they are; an OIDC endpoint's own parameters stay. -/
theorem login_urls_read (m : OAuthManager) (p : OIDCProvider)
    (authEndpoint state code key : Bytes) :
    get (readQuery (m.gitHubLoginURL state)) key =
        (if m.githubClientID = [] then [] else get (m.githubParams state) key) ∧
      get (readQuery (m.googleLoginURL state)) key =
        (if m.googleClientID = [] then [] else get (m.googleParams state) key) ∧
      get (parse (m.exchangeGitHubCode code)) key = get (m.githubExchange code) key ∧
      get (parse (m.exchangeGoogleCode code)) key = get (m.googleExchange code) key ∧
      get (parse (exchangeToken p code)) key = get (oidcExchange p code) key ∧
      (¬ p.isMock → get (readQuery (authCodeURL p authEndpoint state)) key =
        if key ∈ (oidcParams p state).map Prod.fst then get (oidcParams p state) key
        else get (readQuery authEndpoint) key) ∧
      (p.isMock → 63 ∉ p.redirectURL → 35 ∉ p.redirectURL →
        readQuery (authCodeURL p authEndpoint state) =
          [(ascii "code", mockOIDCCode), (ascii "state", state)]) := by
  obtain ⟨hgithub, hgoogle, hoidc, hgithubForm, hgoogleForm, hoidcForm⟩ :=
    params_nodup m p state code
  refine ⟨?_, ?_, read_form hgithubForm key, read_form hgoogleForm key, read_form hoidcForm key,
    fun hreal => ?_, fun hmock hmark hhash => ?_⟩
  · unfold OAuthManager.gitHubLoginURL
    split_ifs with hid
    · rfl
    · have hurl : readQuery OAuthManager.githubAuthorize = [] := by decide +kernel
      exact read_setAll hurl hgithub key
  · unfold OAuthManager.googleLoginURL
    split_ifs with hid
    · rfl
    · have hurl : readQuery OAuthManager.googleAuthorize = [] := by decide +kernel
      exact read_setAll hurl hgoogle key
  · rw [authCodeURL, if_neg hreal, get_readQuery_setQuery]
    exact get_setAll _ hoidc key
  · have hquery := hash_not_mem_encodePairs [(ascii "code", mockOIDCCode), (ascii "state", state)]
    rw [mock_query p authEndpoint state hmock, readQuery,
      rawQuery_append hhash hmark hquery (by simp), parse_encodePairs]

/-! Single sign-on. -/

section

variable (marshal : SamlAuthnRequest → Bytes) (deflate : Bytes → Bytes) (p : SAMLProvider)
  (id issueInstant relayState : Bytes)

def samlParams (value : Bytes) : Pairs :=
  (ascii "SAMLRequest", value) ::
    if relayState = [] then [] else [(ascii "RelayState", relayState)]

def requestValue : Bytes :=
  Base64.encodeStandard (deflate (marshal (authnRequest p id issueInstant)))

lemma redirect_query : buildAuthnRequest marshal deflate p id issueInstant relayState =
    p.metadataURL ++ (if 63 ∈ p.metadataURL then 38 else 63) ::
      encodePairs (samlParams relayState (requestValue marshal deflate p id issueInstant)) := by
  have hamp : ascii "&" = [38] := by decide
  have hmark : ascii "?" = [63] := by decide
  have htexts : ascii "SAMLRequest=" = escape .query (ascii "SAMLRequest") ++ [61] ∧
      ascii "&RelayState=" = 38 :: (escape .query (ascii "RelayState") ++ [61]) := by
    decide +kernel
  obtain ⟨hrequest, hrelay⟩ := htexts
  unfold buildAuthnRequest samlParams requestValue
  split_ifs
  · simp [encodePairs_singleton, encodePair, hamp, hrequest]
  · simp [encodePairs_cons, encodePairs_singleton, encodePair, hamp, hrequest, hrelay]
  · simp [encodePairs_singleton, encodePair, hmark, hrequest]
  · simp [encodePairs_cons, encodePairs_singleton, encodePair, hmark, hrequest, hrelay]

lemma redirect_read (hhash : 35 ∉ p.metadataURL) :
    readQuery (buildAuthnRequest marshal deflate p id issueInstant relayState) =
      readQuery p.metadataURL ++
        samlParams relayState (requestValue marshal deflate p id issueInstant) := by
  have hparams := hash_not_mem_encodePairs
    (samlParams relayState (requestValue marshal deflate p id issueInstant))
  rw [redirect_query, readQuery, readQuery]
  split_ifs with hmark
  · rw [rawQuery_amp hmark hhash hparams, parse_append, parse_encodePairs]
  · obtain ⟨hnone, hquery⟩ := rawQuery_mark hmark hhash hparams
    rw [hquery, hnone, parse_encodePairs, parse_nil, List.nil_append]

end

lemma dashboardURL_eq_iff (relayState : Bytes) :
    dashboardURL relayState = relayState ↔ relayState ≠ [] ∧ 37 ∉ relayState ∧ 43 ∉ relayState := by
  rw [← unescape_query_eq_self_iff]
  unfold dashboardURL
  have hroot : ascii "/" = [47] := by decide
  split_ifs with hnil
  · simp [hnil, hroot]
  · cases hread : unescape .query relayState with
    | none =>
      -- The root, where a state that cannot be read leads, can be read itself.
      have hne : ascii "/" ≠ relayState := by
        rintro rfl
        rw [hroot] at hread
        exact absurd hread (by decide)
      simp [hne]
    | some url => simp [hnil]

/-- The identity provider reads the request and the state, behind what the configured URL has, if
and only if that URL has no fragment. A user whose provider posts the state back is sent there if
and only if there is a state without percent and plus signs. -/
theorem saml_round_trip (marshal : SamlAuthnRequest → Bytes) (deflate : Bytes → Bytes)
    (p : SAMLProvider) (id issueInstant relayState samlResponse : Bytes) :
    ((∃ value, Base64.decodeStandard value =
          some (deflate (marshal (authnRequest p id issueInstant))) ∧
        readQuery (buildAuthnRequest marshal deflate p id issueInstant relayState) =
          readQuery p.metadataURL ++ samlParams relayState value) ↔ 35 ∉ p.metadataURL) ∧
      (dashboardURL (firstValue (parse (encodePairs [(ascii "SAMLResponse", samlResponse),
          (ascii "RelayState", relayState)])) (ascii "RelayState")) = relayState ↔
        relayState ≠ [] ∧ 37 ∉ relayState ∧ 43 ∉ relayState) := by
  refine ⟨⟨?_, ?_⟩, ?_⟩
  · rintro ⟨value, -, hread⟩ hhash
    -- What stands behind the fragment's mark is no query.
    rw [redirect_query, readQuery, rawQuery_fragment hhash, ← readQuery] at hread
    have hlength := congrArg List.length hread
    simp [samlParams] at hlength
  · intro hhash
    exact ⟨requestValue marshal deflate p id issueInstant, Base64.decodeStandard_encodeStandard _,
      redirect_read marshal deflate p id issueInstant relayState hhash⟩
  · have hkeys : ascii "SAMLResponse" ≠ ascii "RelayState" := by decide
    have hfirst : firstValue [(ascii "SAMLResponse", samlResponse),
        (ascii "RelayState", relayState)] (ascii "RelayState") = relayState := by
      simp [firstValue, QueryString.get, hkeys]
    rw [parse_encodePairs, hfirst]
    exact dashboardURL_eq_iff relayState

/-! The secret of a second factor. -/

def totpParams (secret : Bytes) : Pairs :=
  [(ascii "secret", secret), (ascii "issuer", ascii "OmniTun"), (ascii "algorithm", ascii "SHA1"),
    (ascii "digits", ascii "6"), (ascii "period", ascii "30")]

def totpLabel (email : Bytes) : Bytes := ascii "OmniTun" ++ 58 :: escape .path email

lemma totpURL_eq (email secret : Bytes) : totpURL email secret =
    (ascii "otpauth://totp/" ++ totpLabel email) ++ 63 :: encode (setAll [] (totpParams secret)) ∧
      ((totpParams secret).map Prod.fst).Nodup := by
  have htexts : (escape .path (ascii "OmniTun") = ascii "OmniTun" ∧ ascii ":" = [58] ∧
      ascii "?" = [63]) ∧ [ascii "secret", ascii "issuer", ascii "algorithm", ascii "digits",
        ascii "period"].Nodup := by
    decide +kernel
  obtain ⟨⟨hissuer, hcolon, hmark⟩, hnodup⟩ := htexts
  refine ⟨?_, hnodup⟩
  unfold totpURL totpLabel totpParams
  rw [hissuer, hcolon, hmark]
  simp only [List.append_assoc, List.cons_append, List.nil_append]

lemma totpLabel_not_mem (email : Bytes) : 35 ∉ ascii "otpauth://totp/" ++ totpLabel email ∧
    63 ∉ ascii "otpauth://totp/" ++ totpLabel email := by
  have hscheme : 35 ∉ ascii "otpauth://totp/" ∧ 63 ∉ ascii "otpauth://totp/" := by decide
  have hissuer : 35 ∉ ascii "OmniTun" ∧ 63 ∉ ascii "OmniTun" := by decide
  have hhash : 35 ∉ escape .path email := escape_not_mem (by decide)
  have hmark : 63 ∉ escape .path email := escape_not_mem (by decide)
  simp [totpLabel, hscheme, hissuer, hhash, hmark]

lemma label_totpURL (email secret : Bytes) : label (totpURL email secret) = totpLabel email := by
  obtain ⟨hhash, hmark⟩ := totpLabel_not_mem email
  rw [label, (totpURL_eq email secret).1, base_append hhash hmark, List.drop_left]

lemma totpLabel_cut (email : Bytes) : (totpLabel email).takeWhile (· ≠ 58) = ascii "OmniTun" ∧
    (totpLabel email).dropWhile (· ≠ 58) = 58 :: escape .path email := by
  have hcolon : 58 ∉ ascii "OmniTun" := by decide
  have hall : ∀ c ∈ ascii "OmniTun", decide (c ≠ 58) = true := by
    intro c hc
    have hne : c ≠ 58 := fun h => hcolon (h ▸ hc)
    simpa using hne
  constructor
  · rw [totpLabel, List.takeWhile_append_of_pos hall]
    simp
  · rw [totpLabel, List.dropWhile_append_of_pos hall]
    simp

/-- The label of the URL holds the issuer up to its first colon and the email behind it, and the
query holds the secret that was drawn, once. -/
theorem totp_url_read (email : Bytes) (draw : Vector UInt8 20) :
    ascii "otpauth://totp/" <+: totpURL email (generateTOTPSecret draw) ∧
      unescape .path ((label (totpURL email (generateTOTPSecret draw))).takeWhile (· ≠ 58)) =
        some (ascii "OmniTun") ∧
      unescape .path ((label (totpURL email (generateTOTPSecret draw))).dropWhile (· ≠ 58)).tail =
        some email ∧
      ∃ secret, get (readQuery (totpURL email (generateTOTPSecret draw))) (ascii "secret") =
        [secret] ∧ Base32.decodeString (toUpper secret) = some draw.toList := by
  obtain ⟨hurl, hnodup⟩ := totpURL_eq email (generateTOTPSecret draw)
  obtain ⟨hhash, hmark⟩ := totpLabel_not_mem email
  obtain ⟨htake, hdrop⟩ := totpLabel_cut email
  rw [label_totpURL, htake, hdrop, List.tail_cons]
  have hscheme : ascii "otpauth://totp/" <+: totpURL email (generateTOTPSecret draw) := by
    rw [hurl, List.append_assoc]
    exact List.prefix_append _ _
  refine ⟨hscheme, by decide, unescape_escape .path email, generateTOTPSecret draw, ?_,
    OneTimePasswords.decode_generated draw⟩
  have hquery := (rawQuery_mark hmark hhash
    (hash_not_mem_encodePairs (byKey (setAll [] (totpParams (generateTOTPSecret draw)))))).2
  rw [hurl, readQuery, encode, hquery, ← encode, get_parse_encode, get_setAll_nil hnodup]
  have hkeys : ascii "issuer" ≠ ascii "secret" ∧ ascii "algorithm" ≠ ascii "secret" ∧
      ascii "digits" ≠ ascii "secret" ∧ ascii "period" ≠ ascii "secret" := by
    decide
  simp [QueryString.get, totpParams, hkeys]

end OmniTun.Auth.LoginUrls
