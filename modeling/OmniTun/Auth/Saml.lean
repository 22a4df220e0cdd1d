import OmniTun.Auth.Accounts
import OmniTun.Foundation.Base64
import OmniTun.Foundation.Xml

/-! Logins through a SAML identity provider. -/

namespace OmniTun.Auth.Saml

open OmniTun.Foundation Xml

structure SAMLProvider where
  entityID : Bytes
  acsURL : Bytes
  metadataURL : Bytes
  certFile : Bytes
  keyFile : Bytes

structure SAMLUser where
  nameID : Bytes
  email : Bytes
  name : Bytes
  attributes : List (Bytes × Bytes)
  deriving DecidableEq

def samlAssertionNS : Bytes := ascii "urn:oasis:names:tc:SAML:2.0:assertion"
def samlProtocolNS : Bytes := ascii "urn:oasis:names:tc:SAML:2.0:protocol"

section Documents

structure SamlStatusCode where
  value : Bytes := []

structure SamlStatus where
  statusCode : SamlStatusCode := {}

structure SamlNameID where
  value : Bytes := []

structure SamlSubject where
  nameID : SamlNameID := {}

structure SamlAudienceRestriction where
  audience : Bytes := []

structure SamlConditions where
  notBefore : Bytes := []
  notOnOrAfter : Bytes := []
  audienceRestriction : List SamlAudienceRestriction := []

structure SamlAttributeValue where
  value : Bytes := []

structure SamlAttribute where
  name : Bytes := []
  friendlyName : Bytes := []
  values : List SamlAttributeValue := []

structure SamlAttributeStatement where
  attributes : List SamlAttribute := []

structure SamlAssertion where
  subject : SamlSubject := {}
  conditions : SamlConditions := {}
  attributeStatement : List SamlAttributeStatement := []

structure SamlResponse where
  status : SamlStatus := {}
  assertion : SamlAssertion := {}

/-! A field without a name space takes the one of the struct around it, where that has one. -/

def SamlStatusCode.unmarshal (c : SamlStatusCode) (n : Node) : SamlStatusCode where
  value := n.attrField (ascii "Value") c.value

def SamlStatus.unmarshal (s : SamlStatus) (n : Node) : SamlStatus where
  statusCode :=
    n.structField (some samlProtocolNS) (ascii "StatusCode") SamlStatusCode.unmarshal s.statusCode

def SamlNameID.unmarshal (_ : SamlNameID) (n : Node) : SamlNameID where
  value := n.chardata

def SamlSubject.unmarshal (s : SamlSubject) (n : Node) : SamlSubject where
  nameID := n.structField none (ascii "NameID") SamlNameID.unmarshal s.nameID

def SamlAudienceRestriction.unmarshal (n : Node) : SamlAudienceRestriction where
  audience := n.structField none (ascii "Audience") (fun _ a => a.chardata) []

def SamlConditions.unmarshal (c : SamlConditions) (n : Node) : SamlConditions where
  notBefore := n.attrField (ascii "NotBefore") c.notBefore
  notOnOrAfter := n.attrField (ascii "NotOnOrAfter") c.notOnOrAfter
  audienceRestriction :=
    n.sliceField none (ascii "AudienceRestriction") SamlAudienceRestriction.unmarshal
      c.audienceRestriction

def SamlAttributeValue.unmarshal (n : Node) : SamlAttributeValue where
  value := n.chardata

def SamlAttribute.unmarshal (n : Node) : SamlAttribute where
  name := n.attrField (ascii "Name") []
  friendlyName := n.attrField (ascii "FriendlyName") []
  values :=
    n.sliceField (some samlAssertionNS) (ascii "AttributeValue") SamlAttributeValue.unmarshal []

def SamlAttributeStatement.unmarshal (n : Node) : SamlAttributeStatement where
  attributes := n.sliceField (some samlAssertionNS) (ascii "Attribute") SamlAttribute.unmarshal []

def SamlAssertion.unmarshal (a : SamlAssertion) (n : Node) : SamlAssertion where
  subject := n.structField (some samlAssertionNS) (ascii "Subject") SamlSubject.unmarshal a.subject
  conditions :=
    n.structField (some samlAssertionNS) (ascii "Conditions") SamlConditions.unmarshal a.conditions
  attributeStatement :=
    n.sliceField (some samlAssertionNS) (ascii "AttributeStatement")
      SamlAttributeStatement.unmarshal a.attributeStatement

/-- Only the root can be of a wrong name: the fields below have the names of their structs. -/
def SamlResponse.unmarshal (n : Node) : Option SamlResponse :=
  if n.isNamed (some samlProtocolNS) (ascii "Response") then
    some
      { status := n.structField (some samlProtocolNS) (ascii "Status") SamlStatus.unmarshal {}
        assertion :=
          n.structField (some samlAssertionNS) (ascii "Assertion") SamlAssertion.unmarshal {} }
  else none

end Documents

inductive SAMLError
  | base64
  | xml
  | status (value : Bytes)
  deriving DecidableEq

def SamlAttribute.entries (a : SamlAttribute) : List (Bytes × Bytes) :=
  a.values.map fun v => (if a.friendlyName ≠ [] then a.friendlyName else a.name, v.value)

def SamlAssertion.attributes (a : SamlAssertion) : List (Bytes × Bytes) :=
  a.attributeStatement.flatMap fun s => s.attributes.flatMap SamlAttribute.entries

def firstValue (attributes : List (Bytes × Bytes)) (name : String) : Bytes :=
  ((attributes.find? fun e => e.1 = ascii name).map Prod.snd).getD []

def orElse (a b : Bytes) : Bytes := if a = [] then b else a

def SamlAssertion.user (a : SamlAssertion) : SAMLUser :=
  let nameID := a.subject.nameID.value
  let email := orElse (firstValue a.attributes "email") (firstValue a.attributes "mail")
  let email := orElse email (if 64 ∈ nameID then nameID else [])
  let name := orElse (firstValue a.attributes "displayName") (firstValue a.attributes "givenName")
  ⟨nameID, email, orElse name email, a.attributes⟩

def statusSuccess : Bytes := ascii "urn:oasis:names:tc:SAML:2.0:status:Success"

section Handlers

variable (xml : Bytes → Option Node)

/-- `xml` reads the first element of a document, with prefixes replaced by their name spaces. -/
def parseSAMLResponse (samlResp : Bytes) : Except SAMLError SAMLUser :=
  match Base64.decodeStandard samlResp with
  | none => .error .base64
  | some decoded =>
    match (xml decoded).bind SamlResponse.unmarshal with
    | none => .error .xml
    | some resp =>
      if resp.status.statusCode.value ≠ statusSuccess then
        .error (.status resp.status.statusCode.value)
      else .ok resp.assertion.user

def emailSlugByte (c : UInt8) : Option UInt8 := if c = 95 then some 45 else slugByte c

def emailToSlug (email : Bytes) : Bytes := (email.filterMap emailSlugByte).take 64

inductive ACSError
  | notEnabled
  | parseForm
  | missingResponse
  | authentication (err : SAMLError)
  | login (err : LoginError)
  deriving DecidableEq

def ACSError.response : ACSError → ℕ × Bytes
  | .notEnabled => (404, ascii "not_found")
  | .parseForm | .missingResponse => (400, ascii "invalid_request")
  | .authentication _ => (401, ascii "saml_error")
  | .login _ => (500, ascii "internal_error")

structure ACSOutcome extends Outcome where
  issueFails : Bool := false

def createSAMLAccount (o : ACSOutcome) (s : Store) (user : SAMLUser) :
    Except LoginError User × Store :=
  createRows o.toOutcome s (fun id => ⟨id, user.email, emailToSlug user.email, ascii "free"⟩)
    fun organizationID id =>
      { id := id
        organizationID := organizationID
        email := user.email
        displayName := user.name
        avatarURL := none
        role := ascii "owner"
        authProvider := ascii "saml"
        authProviderID := some user.nameID
        deleted := false }

def lookupSAML (o : ACSOutcome) (s : Store) (user : SAMLUser) : Option User :=
  (if o.emailFails then none else s.findUserByEmail user.email).or
    (if o.providerFails then none else s.getUserByProvider (ascii "saml") user.nameID)

def findOrCreateSAMLUser (o : ACSOutcome) (s : Store) (user : SAMLUser) :
    Except LoginError User × Store :=
  match lookupSAML o s user with
  | some u => (.ok u, s)
  | none => createSAMLAccount o s user

structure ACSRequest where
  form : Option (List (Bytes × Bytes))

def formValue (form : List (Bytes × Bytes)) (key : String) : Bytes :=
  ((form.find? fun e => e.1 = ascii key).map Prod.snd).getD []

def loginSAML (o : ACSOutcome) (s : Store) (user : SAMLUser) : Except LoginError User × Store :=
  match findOrCreateSAMLUser o s user with
  | (.error err, s) => (.error err, s)
  | (.ok u, s) => if o.issueFails then (.error .tokens, s) else (.ok u, s)

def respondLogin (r : Except LoginError User × Store) : Except ACSError User × Store :=
  (r.1.mapError .login, r.2)

def handleSAMLACS (samlEnabled : Bool) (o : ACSOutcome) (s : Store) (r : ACSRequest) :
    Except ACSError User × Store :=
  if samlEnabled = false then (.error .notEnabled, s)
  else
    match r.form with
    | none => (.error .parseForm, s)
    | some form =>
      if formValue form "SAMLResponse" = [] then (.error .missingResponse, s)
      else
        match parseSAMLResponse xml (formValue form "SAMLResponse") with
        | .error err => (.error (.authentication err), s)
        | .ok user => respondLogin (loginSAML o s user)

def successfulResponse (r : ACSRequest) : Option (Node × SamlResponse) := do
  let form ← r.form
  let samlResponse ← (some (formValue form "SAMLResponse")).filter (· ≠ [])
  let decoded ← Base64.decodeStandard samlResponse
  let root ← xml decoded
  let resp ← SamlResponse.unmarshal root
  if resp.status.statusCode.value = statusSuccess then some (root, resp) else none

end Handlers

section Acceptance

/-- Which elements carry a signature that one of the configured keys verifies, and what a timestamp
denotes. -/
structure IdentityProvider where
  signed : Node → Prop
  instant : Bytes → Option ℤ

def assertions (root : Node) : List Node :=
  root.elements (some samlAssertionNS) (ascii "Assertion")

def decoded (a : Node) : SamlAssertion := SamlAssertion.unmarshal {} a

structure Genuine (idp : IdentityProvider) (p : SAMLProvider) (now : ℤ) (a : Node) : Prop where
  signed : idp.signed a
  begun : ∃ t, idp.instant (decoded a).conditions.notBefore = some t ∧ t ≤ now
  unexpired : ∃ t, idp.instant (decoded a).conditions.notOnOrAfter = some t ∧ now < t
  audience : ∃ r ∈ (decoded a).conditions.audienceRestriction, r.audience = p.entityID

variable (idp : IdentityProvider) (p : SAMLProvider) (now : ℤ) (xml : Bytes → Option Node)
  (samlEnabled : Bool) (o : ACSOutcome) (s : Store) (r : ACSRequest)

def OnlyGenuine : Prop :=
  ∀ u, (handleSAMLACS xml samlEnabled o s r).1 = .ok u →
    ∃ root resp, successfulResponse xml r = some (root, resp) ∧
      ∃ a ∈ assertions root, Genuine idp p now a ∧
        (findOrCreateSAMLUser o s (decoded a).user).1 = .ok u

def Refused : Prop :=
  samlEnabled = false ∨ successfulResponse xml r = none ∨ o.issueFails = true ∨
    ∃ root resp err, successfulResponse xml r = some (root, resp) ∧
      (findOrCreateSAMLUser o s resp.assertion.user).1 = .error err

def CarriesGenuine : Prop :=
  ∃ root resp, successfulResponse xml r = some (root, resp) ∧
    ∃ a ∈ assertions root, Genuine idp p now a ∧
      (findOrCreateSAMLUser o s (decoded a).user).1 =
        (findOrCreateSAMLUser o s resp.assertion.user).1

variable {xml samlEnabled o s r} {u : User}

lemma loginSAML_ok_iff {user : SAMLUser} : (loginSAML o s user).1 = .ok u ↔
    o.issueFails = false ∧ (findOrCreateSAMLUser o s user).1 = .ok u := by
  simp only [loginSAML]
  cases h : findOrCreateSAMLUser o s user with
  | mk res s' =>
    cases res with
    | error err => simp
    | ok v => cases o.issueFails <;> simp

lemma respondLogin_ok_iff {res : Except LoginError User × Store} :
    (respondLogin res).1 = .ok u ↔ res.1 = .ok u := by
  obtain ⟨_ | v, s'⟩ := res <;> simp [respondLogin, Except.mapError]

lemma parse_ok_iff {samlResp : Bytes} {user : SAMLUser} :
    parseSAMLResponse xml samlResp = .ok user ↔
      ∃ bs root resp, Base64.decodeStandard samlResp = some bs ∧ xml bs = some root ∧
        SamlResponse.unmarshal root = some resp ∧
          resp.status.statusCode.value = statusSuccess ∧ resp.assertion.user = user := by
  simp only [parseSAMLResponse]
  cases hd : Base64.decodeStandard samlResp with
  | none => simp
  | some bs =>
    cases hx : xml bs with
    | none => simp [hx]
    | some root =>
      cases hr : SamlResponse.unmarshal root with
      | none => simp [hx, hr]
      | some resp =>
        by_cases hs : resp.status.statusCode.value = statusSuccess <;> simp [hx, hr, hs]

lemma successfulResponse_eq_some {root : Node} {resp : SamlResponse} :
    successfulResponse xml r = some (root, resp) ↔
      ∃ form bs, r.form = some form ∧ formValue form "SAMLResponse" ≠ [] ∧
        Base64.decodeStandard (formValue form "SAMLResponse") = some bs ∧ xml bs = some root ∧
          SamlResponse.unmarshal root = some resp ∧
            resp.status.statusCode.value = statusSuccess := by
  simp only [successfulResponse, Option.bind_eq_bind, Option.bind_eq_some_iff,
    Option.filter_eq_some_iff, Option.ite_none_right_eq_some, Option.some.injEq, Prod.mk.injEq,
    decide_eq_true_eq]
  constructor
  · rintro ⟨form, hform, v, ⟨rfl, hv⟩, bs, hbs, root', hroot, resp', hresp, hs, rfl, rfl⟩
    exact ⟨form, bs, hform, hv, hbs, hroot, hresp, hs⟩
  · rintro ⟨form, bs, hform, hv, hbs, hroot, hresp, hs⟩
    exact ⟨form, hform, _, ⟨rfl, hv⟩, bs, hbs, root, hroot, resp, hresp, hs, rfl, rfl⟩

lemma handleSAMLACS_ok_iff : (handleSAMLACS xml samlEnabled o s r).1 = .ok u ↔
    samlEnabled = true ∧ o.issueFails = false ∧
      ∃ root resp, successfulResponse xml r = some (root, resp) ∧
        (findOrCreateSAMLUser o s resp.assertion.user).1 = .ok u := by
  cases samlEnabled with
  | false => simp [handleSAMLACS]
  | true =>
    cases hf : r.form with
    | none =>
      have hnone : successfulResponse xml r = none := by simp [successfulResponse, hf]
      simp [handleSAMLACS, hf, hnone]
    | some form =>
      by_cases hv : formValue form "SAMLResponse" = []
      · have hnone : successfulResponse xml r = none := by simp [successfulResponse, hf, hv]
        simp [handleSAMLACS, hf, hv, hnone]
      · simp only [handleSAMLACS, hf, hv, Bool.true_eq_false, if_false, true_and]
        constructor
        · intro h
          cases hp : parseSAMLResponse xml (formValue form "SAMLResponse") with
          | error err => simp [hp] at h
          | ok user =>
            obtain ⟨bs, root, resp, hbs, hroot, hresp, hs, rfl⟩ := parse_ok_iff.mp hp
            rw [hp] at h
            obtain ⟨hi, hu⟩ := loginSAML_ok_iff.mp (respondLogin_ok_iff.mp h)
            exact ⟨hi, root, resp,
              successfulResponse_eq_some.mpr ⟨form, bs, hf, hv, hbs, hroot, hresp, hs⟩, hu⟩
        · rintro ⟨hi, root, resp, hr, hu⟩
          obtain ⟨form', bs, hf', -, hbs, hroot, hresp, hs⟩ := successfulResponse_eq_some.mp hr
          obtain rfl := Option.some.inj (hf.symm.trans hf')
          have hp := parse_ok_iff.mpr ⟨bs, root, resp, hbs, hroot, hresp, hs, rfl⟩
          rw [hp]
          exact respondLogin_ok_iff.mpr (loginSAML_ok_iff.mpr ⟨hi, hu⟩)

lemma no_login_of_refused (h : Refused xml samlEnabled o s r) :
    ¬ ∃ u, (handleSAMLACS xml samlEnabled o s r).1 = .ok u := by
  rintro ⟨u, hu⟩
  obtain ⟨he, hi, root, resp, hr, hu⟩ := handleSAMLACS_ok_iff.mp hu
  rcases h with h | h | h | ⟨root', resp', err, hr', herr⟩
  · simp [h] at he
  · simp [h] at hr
  · simp [h] at hi
  · obtain ⟨rfl, rfl⟩ := Prod.mk.inj (Option.some.inj (hr.symm.trans hr'))
    simp [herr] at hu

lemma refused_of_no_login (h : ¬ ∃ u, (handleSAMLACS xml samlEnabled o s r).1 = .ok u) :
    Refused xml samlEnabled o s r := by
  by_contra hr
  simp only [Refused, not_or, not_exists, not_and] at hr
  obtain ⟨he, hr, hi, herr⟩ := hr
  obtain ⟨⟨root, resp⟩, hr⟩ := Option.ne_none_iff_exists'.mp hr
  cases hu : (findOrCreateSAMLUser o s resp.assertion.user).1 with
  | error err => exact herr root resp err hr hu
  | ok u =>
    refine h ⟨u, handleSAMLACS_ok_iff.mpr ⟨?_, ?_, root, resp, hr, hu⟩⟩
    · simpa using he
    · simpa using hi

theorem saml_login_genuine_iff (idp : IdentityProvider) (p : SAMLProvider) (now : ℤ)
    (xml : Bytes → Option Node) (samlEnabled : Bool) (o : ACSOutcome) (s : Store) (r : ACSRequest) :
    OnlyGenuine idp p now xml samlEnabled o s r ↔
      Refused xml samlEnabled o s r ∨ CarriesGenuine idp p now xml o s r := by
  constructor
  · intro h
    by_cases hu : ∃ u, (handleSAMLACS xml samlEnabled o s r).1 = .ok u
    · obtain ⟨u, hu⟩ := hu
      obtain ⟨root, resp, hr, a, ha, hg, hn⟩ := h u hu
      obtain ⟨-, -, root', resp', hr', hu'⟩ := handleSAMLACS_ok_iff.mp hu
      obtain ⟨rfl, rfl⟩ := Prod.mk.inj (Option.some.inj (hr.symm.trans hr'))
      exact .inr ⟨root, resp, hr, a, ha, hg, hn.trans hu'.symm⟩
    · exact .inl (refused_of_no_login hu)
  · rintro (hrefused | ⟨root, resp, hr, a, ha, hg, hn⟩) u hu
    · exact absurd ⟨u, hu⟩ (no_login_of_refused hrefused)
    · obtain ⟨-, -, root', resp', hr', hu'⟩ := handleSAMLACS_ok_iff.mp hu
      obtain ⟨rfl, rfl⟩ := Prod.mk.inj (Option.some.inj (hr.symm.trans hr'))
      exact ⟨root, resp, hr, a, ha, hg, hn.trans hu'⟩

def forgedText : Bytes :=
  ["<Response xmlns=\"", "urn:oasis:names:tc:", "SAML:2.0:protocol", "\"><Status>",
    "<StatusCode Value=\"", "urn:oasis:names:tc:", "SAML:2.0:status:Success", "\"/></Status>",
    "<Assertion xmlns=\"", "urn:oasis:names:tc:", "SAML:2.0:assertion", "\">", "<Subject><NameID>",
    "a@x.dev", "</NameID></Subject>", "</Assertion></Response>"].flatMap ascii

def forgedResponse : Node :=
  let protocol (name : String) := Node.element ⟨samlProtocolNS, ascii name⟩
  let assertion (name : String) := Node.element ⟨samlAssertionNS, ascii name⟩
  protocol "Response" []
    [protocol "Status" []
      [protocol "StatusCode" [⟨⟨[], ascii "Value"⟩, statusSuccess⟩] []],
     assertion "Assertion" []
      [assertion "Subject" [] [assertion "NameID" [] [.text (ascii "a@x.dev")]]]]

def forgedRequest : ACSRequest where
  form := some [(ascii "SAMLResponse",
    ["PFJlc3BvbnNlIHhtbG5zPSJ1cm46", "b2FzaXM6bmFtZXM6dGM6U0FNTDoy", "LjA6cHJvdG9jb2wiPjxTdGF0dXM+",
      "PFN0YXR1c0NvZGUgVmFsdWU9InVy", "bjpvYXNpczpuYW1lczp0YzpTQU1M", "OjIuMDpzdGF0dXM6U3VjY2VzcyIv",
      "PjwvU3RhdHVzPjxBc3NlcnRpb24g", "eG1sbnM9InVybjpvYXNpczpuYW1l", "czp0YzpTQU1MOjIuMDphc3NlcnRp",
      "b24iPjxTdWJqZWN0PjxOYW1lSUQ+", "YUB4LmRldjwvTmFtZUlEPjwvU3Vi", "amVjdD48L0Fzc2VydGlvbj48L1Jl",
      "c3BvbnNlPg=="].flatMap ascii)]

def existingUser : User where
  id := [1]
  organizationID := [1]
  email := ascii "a@x.dev"
  displayName := ascii "a"
  avatarURL := none
  role := ascii "owner"
  authProvider := ascii "email"
  authProviderID := none
  deleted := false

def oneUser : Store := ⟨[], [existingUser], List.nodup_singleton _⟩

def provider : SAMLProvider :=
  ⟨ascii "https://omnitun.io/saml", ascii "https://omnitun.io/auth/saml/acs", [], [], []⟩

theorem saml_login_genuine_fails :
    ¬ OnlyGenuine ⟨fun _ => False, fun _ => none⟩ provider 0
      (fun text => if text = forgedText then some forgedResponse else none) true
      { organizationID := none, userID := none } oneUser forgedRequest := by
  intro h
  have hlogin : (handleSAMLACS (fun text => if text = forgedText then some forgedResponse else none)
      true { organizationID := none, userID := none } oneUser forgedRequest).1 =
        .ok existingUser := by
    decide +kernel
  obtain ⟨_, _, _, _, _, hg, _⟩ := h existingUser hlogin
  exact hg.signed

end Acceptance

end OmniTun.Auth.Saml
