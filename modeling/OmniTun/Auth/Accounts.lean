import OmniTun.Foundation.Numerals

/-! The accounts of users who log in through an identity provider. -/

namespace OmniTun.Auth

open OmniTun.Foundation OmniTun.Foundation.Numerals

structure Organization where
  id : Bytes
  name : Bytes
  slug : Bytes
  plan : Bytes
  deriving DecidableEq

structure User where
  id : Bytes
  organizationID : Bytes
  email : Bytes
  displayName : Bytes
  avatarURL : Option Bytes
  role : Bytes
  authProvider : Bytes
  authProviderID : Option Bytes
  deleted : Bool
  deriving DecidableEq

structure Store where
  organizations : List Organization
  users : List User
  keyed : (users.map User.id).Nodup

structure OAuthUserInfo where
  provider : Bytes
  providerUserID : Bytes
  email : Bytes
  displayName : Bytes
  avatarURL : Bytes
  deriving DecidableEq

structure OIDCUser where
  email : Bytes
  name : Bytes
  sub : Bytes
  deriving DecidableEq

structure GithubUser where
  id : ℤ
  login : Bytes
  name : Bytes
  avatarURL : Bytes
  email : Bytes
  deriving DecidableEq

structure GithubEmail where
  email : Bytes
  primary : Bool
  verified : Bool
  deriving DecidableEq

structure GoogleUser where
  id : Bytes
  email : Bytes
  name : Bytes
  picture : Bytes
  deriving DecidableEq

def fetchGitHubUserInfo (user : GithubUser) (emails : Option (List GithubEmail)) :
    OAuthUserInfo where
  provider := ascii "github"
  providerUserID := intNumeral user.id
  email :=
    if user.email = [] then
      match (emails.getD []).find? fun e => e.primary && e.verified with
      | none => []
      | some e => e.email
    else user.email
  displayName := if user.name = [] then user.login else user.name
  avatarURL := user.avatarURL

def fetchGoogleUserInfo (user : GoogleUser) : OAuthUserInfo where
  provider := ascii "google"
  providerUserID := user.id
  email := user.email
  displayName := user.name
  avatarURL := user.picture

def OIDCUser.info (user : OIDCUser) : OAuthUserInfo where
  provider := ascii "oidc"
  providerUserID := user.sub
  email := user.email
  displayName := user.name
  avatarURL := []

def slugByte (c : UInt8) : Option UInt8 :=
  if (97 ≤ c ∧ c ≤ 122) ∨ (65 ≤ c ∧ c ≤ 90) ∨ (48 ≤ c ∧ c ≤ 57) ∨ c = 45 then some c
  else if c = 64 ∨ c = 46 then some 45
  else none

def sanitizeSlug (email : Bytes) : Bytes := (email.filterMap slugByte).take 64

namespace Store

variable (s : Store)

def getUserByProvider (provider providerID : Bytes) : Option User :=
  s.users.find? fun u =>
    u.authProvider = provider ∧ u.authProviderID = some providerID ∧ u.deleted = false

def findUserByEmail (email : Bytes) : Option User :=
  s.users.find? fun u => u.email = email ∧ u.deleted = false

def createOrganization (org : Organization) : Option Store :=
  if ∃ o ∈ s.organizations, o.id = org.id ∨ o.slug = org.slug then none
  else some { s with organizations := s.organizations ++ [org] }

def createUser (user : User) : Option Store :=
  if h : ∃ u ∈ s.users, u.id = user.id ∨
      u.organizationID = user.organizationID ∧ u.email = user.email then none
  else some
    { s with
      users := s.users ++ [user]
      keyed := by
        rw [List.map_append, List.map_singleton, List.nodup_append_comm]
        refine List.nodup_cons.mpr ⟨?_, s.keyed⟩
        intro hmem
        obtain ⟨u, hu, hid⟩ := List.mem_map.mp hmem
        exact h ⟨u, hu, .inl hid⟩ }

end Store

inductive LoginError
  | createOrganization
  | createUser
  | tokens
  deriving DecidableEq, Repr

/-- What the database does during a login: which lookups fail, the ids that the inserts draw, or none
when they fail, and whether the tokens are stored. -/
structure Outcome where
  providerFails : Bool := false
  emailFails : Bool := false
  organizationID : Option Bytes
  userID : Option Bytes
  tokensFail : Bool := false

/-- The rows of a new organisation and of its owner, from the ids that they draw. -/
def createRows (o : Outcome) (s : Store) (org : Bytes → Organization) (row : Bytes → Bytes → User) :
    Except LoginError User × Store :=
  match o.organizationID.bind fun id => (s.createOrganization (org id)).map (id, ·) with
  | none => (.error .createOrganization, s)
  | some (organizationID, s) =>
    match o.userID.bind fun id => (s.createUser (row organizationID id)).map (id, ·) with
    | none => (.error .createUser, s)
    | some (id, s) => (.ok (row organizationID id), s)

def createAccount (o : Outcome) (s : Store) (info : OAuthUserInfo) :
    Except LoginError User × Store :=
  createRows o s (fun id => ⟨id, info.email, sanitizeSlug info.email, ascii "free"⟩)
    fun organizationID id =>
      { id := id
        organizationID := organizationID
        email := info.email
        displayName := info.displayName
        avatarURL := if info.avatarURL = [] then none else some info.avatarURL
        role := ascii "owner"
        authProvider := info.provider
        authProviderID := some info.providerUserID
        deleted := false }

def lookupByProvider (o : Outcome) (s : Store) (info : OAuthUserInfo) : Option User :=
  if o.providerFails then none else s.getUserByProvider info.provider info.providerUserID

def lookupByEmail (o : Outcome) (s : Store) (info : OAuthUserInfo) : Option User :=
  if o.emailFails then none else s.findUserByEmail info.email

def findOrCreateOAuthUser (o : Outcome) (s : Store) (info : OAuthUserInfo) :
    Except LoginError User × Store :=
  match lookupByProvider o s info with
  | some user => (.ok user, s)
  | none =>
    match lookupByEmail o s info with
    | some user => (.ok user, s)
    | none => createAccount o s info

def findOrCreateOIDCUser (o : Outcome) (s : Store) (user : OIDCUser) :
    Except LoginError User × Store :=
  match lookupByProvider o s user.info with
  | some user => (.ok user, s)
  | none =>
    if user.email ≠ [] then
      match lookupByEmail o s user.info with
      | some user => (.ok user, s)
      | none => createAccount o s user.info
    else createAccount o s user.info

inductive Login
  | github (user : GithubUser) (emails : Option (List GithubEmail))
  | google (user : GoogleUser)
  | oidc (user : OIDCUser)

namespace Login

def info : Login → OAuthUserInfo
  | .github user emails => fetchGitHubUserInfo user emails
  | .google user => fetchGoogleUserInfo user
  | .oidc user => user.info

def isOIDC : Login → Bool
  | .oidc _ => true
  | _ => false

def identity (l : Login) : Bytes × Bytes := (l.info.provider, l.info.providerUserID)

def findOrCreate (o : Outcome) (s : Store) : Login → Except LoginError User × Store
  | .github user emails => findOrCreateOAuthUser o s (fetchGitHubUserInfo user emails)
  | .google user => findOrCreateOAuthUser o s (fetchGoogleUserInfo user)
  | .oidc user => findOrCreateOIDCUser o s user

def handle (o : Outcome) (s : Store) (l : Login) : Except LoginError User × Store :=
  match l.findOrCreate o s with
  | (.error err, s) => (.error err, s)
  | (.ok user, s) => if o.tokensFail then (.error .tokens, s) else (.ok user, s)

end Login

def logins : Store → List (Outcome × Login) → List (Login × Except LoginError User)
  | _, [] => []
  | s, (o, l) :: rest => (l, (l.handle o s).1) :: logins (l.handle o s).2 rest

end OmniTun.Auth
