import OmniTun.Auth.PasswordReset

/-! Registrations, and the two rows that every new account consists of. -/

namespace OmniTun.Auth

open OmniTun.Foundation PasswordReset
open Saml (emailToSlug)

namespace Store

variable (s : Store)

def FreeOrganization (id slug : Bytes) : Prop :=
  ∀ org ∈ s.organizations, org.id ≠ id ∧ org.slug ≠ slug

def FreeUser (id organizationID email : Bytes) : Prop :=
  ∀ u ∈ s.users, u.id ≠ id ∧ (u.organizationID = organizationID → u.email ≠ email)

end Store

section Rows

variable {s s' : Store} {o : Outcome} {org : Organization} {user : User}

lemma createOrganization_cases (s : Store) (org : Organization) :
    s.FreeOrganization org.id org.slug ∧
      s.createOrganization org = some { s with organizations := s.organizations ++ [org] } ∨
    ¬ s.FreeOrganization org.id org.slug ∧ s.createOrganization org = none := by
  by_cases hfree : s.FreeOrganization org.id org.slug
  · refine .inl ⟨hfree, if_neg ?_⟩
    rintro ⟨o, ho, hid | hslug⟩
    · exact (hfree o ho).1 hid
    · exact (hfree o ho).2 hslug
  · refine .inr ⟨hfree, if_pos ?_⟩
    by_contra hnone
    apply hfree
    intro o ho
    exact ⟨fun hid => hnone ⟨o, ho, .inl hid⟩, fun hslug => hnone ⟨o, ho, .inr hslug⟩⟩

lemma createUser_cases (s : Store) (user : User) :
    s.FreeUser user.id user.organizationID user.email ∧ (∃ s', s.createUser user = some s' ∧
      s'.organizations = s.organizations ∧ s'.users = s.users ++ [user]) ∨
    ¬ s.FreeUser user.id user.organizationID user.email ∧ s.createUser user = none := by
  by_cases hfree : s.FreeUser user.id user.organizationID user.email
  · refine .inl ⟨hfree, _, dif_neg ?_, rfl, rfl⟩
    rintro ⟨u, hu, hid | ⟨horg, hemail⟩⟩
    · exact (hfree u hu).1 hid
    · exact (hfree u hu).2 horg hemail
  · refine .inr ⟨hfree, dif_pos ?_⟩
    by_contra hnone
    apply hfree
    intro u hu
    refine ⟨fun hid => hnone ⟨u, hu, .inl hid⟩, fun horg hemail => ?_⟩
    exact hnone ⟨u, hu, .inr ⟨horg, hemail⟩⟩

def InsertsOrganization (o : Outcome) (s : Store) (slug : Bytes) : Prop :=
  ∃ id, o.organizationID = some id ∧ s.FreeOrganization id slug

def InsertsUser (o : Outcome) (s : Store) (email : Bytes) : Prop :=
  ∃ organizationID id, o.organizationID = some organizationID ∧ o.userID = some id ∧
    s.FreeUser id organizationID email

structure OwnerRows (org : Bytes → Organization) (row : Bytes → Bytes → User)
    (slug email : Bytes) : Prop where
  org_id : ∀ id, (org id).id = id
  org_slug : ∀ id, (org id).slug = slug
  user_id : ∀ organizationID id, (row organizationID id).id = id
  user_organization : ∀ organizationID id, (row organizationID id).organizationID = organizationID
  user_email : ∀ organizationID id, (row organizationID id).email = email
  user_live : ∀ organizationID id, (row organizationID id).deleted = false

inductive RowsCreated (o : Outcome) (s : Store) (org : Bytes → Organization)
    (row : Bytes → Bytes → User) (slug email : Bytes) : Except LoginError User × Store → Prop
  | noOrganization (h : ¬ InsertsOrganization o s slug) :
      RowsCreated o s org row slug email (.error .createOrganization, s)
  | noUser {organizationID s'} (horg : InsertsOrganization o s slug)
      (huser : ¬ InsertsUser o s email)
      (hs : s'.organizations = s.organizations ++ [org organizationID]) (hu : s'.users = s.users) :
      RowsCreated o s org row slug email (.error .createUser, s')
  | both {organizationID id s'} (horg : InsertsOrganization o s slug)
      (huser : InsertsUser o s email)
      (hs : s'.organizations = s.organizations ++ [org organizationID])
      (hu : s'.users = s.users ++ [row organizationID id]) (hfree : ∀ u ∈ s.users, u.id ≠ id)
      (hnew : ∀ org ∈ s.organizations, org.id ≠ organizationID) :
      RowsCreated o s org row slug email (.ok (row organizationID id), s')

lemma createRows_rows {org : Bytes → Organization} {row : Bytes → Bytes → User}
    {slug email : Bytes} (h : OwnerRows org row slug email) :
    RowsCreated o s org row slug email (createRows o s org row) := by
  cases horg : o.organizationID with
  | none =>
    have hno : ¬ InsertsOrganization o s slug := by simp [InsertsOrganization, horg]
    simpa only [createRows, horg, Option.bind_none] using .noOrganization hno
  | some organizationID =>
    simp only [createRows, horg, Option.bind_some]
    rcases createOrganization_cases s (org organizationID) with ⟨hfree, hcreate⟩ | ⟨hfree, hcreate⟩
    · rw [h.org_id, h.org_slug] at hfree
      have hinserts : InsertsOrganization o s slug := ⟨organizationID, horg, hfree⟩
      simp only [hcreate, Option.map_some]
      cases hid : o.userID with
      | none =>
        have hno : ¬ InsertsUser o s email := by simp [InsertsUser, hid]
        exact .noUser hinserts hno rfl rfl
      | some id =>
        simp only [Option.bind_some]
        rcases createUser_cases { s with organizations := s.organizations ++ [org organizationID] }
          (row organizationID id) with ⟨hfree', s', hs', horgs, husers⟩ | ⟨hfree', hnone⟩
        · rw [h.user_id, h.user_organization, h.user_email] at hfree'
          simp only [hs', Option.map_some]
          exact .both hinserts ⟨organizationID, id, horg, hid, hfree'⟩ horgs husers
            (fun u hu => (hfree' u hu).1) fun org horg => (hfree org horg).1
        · rw [h.user_id, h.user_organization, h.user_email] at hfree'
          simp only [hnone, Option.map_none]
          refine .noUser hinserts ?_ rfl rfl
          rintro ⟨organizationID', id', horg', hid', hfree⟩
          obtain rfl := Option.some.inj (horg.symm.trans horg')
          obtain rfl := Option.some.inj (hid.symm.trans hid')
          exact hfree' hfree
    · rw [h.org_id, h.org_slug] at hfree
      simp only [hcreate, Option.map_none]
      apply RowsCreated.noOrganization
      rintro ⟨id, hid, hfree'⟩
      obtain rfl := Option.some.inj (horg.symm.trans hid)
      exact hfree hfree'

end Rows

structure RegisterRequest where
  email : Bytes
  password : Bytes
  displayName : Bytes

structure RegisterResponse where
  userID : Bytes
  message : Bytes
  deriving DecidableEq

def AppError.conflict (message : String) : AppError := ⟨ascii "CONFLICT", ascii message, 409⟩

def isLetter (c : UInt8) : Bool := (97 ≤ c && c ≤ 122) || (65 ≤ c && c ≤ 90)

def isDomainByte (c : UInt8) : Bool := isLetter c || (48 ≤ c && c ≤ 57) || c = 46 || c = 45

def isLocalByte (c : UInt8) : Bool := isDomainByte c || c = 95 || c = 37 || c = 43

/-- One or more bytes of the local part, an at sign, and one or more of the domain before the last
dot, which two or more letters follow. -/
def emailRegex (email : Bytes) : Bool :=
  match email.span isLocalByte with
  | (name, 64 :: domain) =>
    match domain.reverse.span isLetter with
    | (top, 46 :: rest) => name ≠ [] && 2 ≤ top.length && rest ≠ [] && rest.all isDomainByte
    | _ => false
  | _ => false

def validateEmail (email : Bytes) : Option String :=
  if email = [] then some "email is required"
  else if emailRegex email = false then some "invalid email format"
  else none

def registerRow (req : RegisterRequest) (organizationID id : Bytes) : User where
  id := id
  organizationID := organizationID
  email := req.email
  displayName := if req.displayName = [] then req.email else req.displayName
  avatarURL := none
  role := ascii "owner"
  authProvider := ascii "email"
  authProviderID := none
  deleted := false

section

variable (u : Unicode) (hashPassword : Bytes → Option Bytes)

def register (o : Outcome) (db : Database) (req : RegisterRequest) :
    Except AppError RegisterResponse × Database :=
  match validateEmail req.email with
  | some err => (.error (.badRequest err), db)
  | none =>
    match validatePassword u req.password with
    | some err => (.error (.badRequest err.error), db)
    | none =>
      match hashPassword req.password with
      | none => (.error (.internal "failed to process password"), db)
      | some passwordHash =>
        match createRows o db.store
          (fun id => ⟨id, req.email, emailToSlug req.email, ascii "free"⟩) (registerRow req) with
        | (.error .createOrganization, s) =>
          (.error (.internal "failed to create organization"), { db with store := s })
        | (.error _, s) => (.error (.conflict "email already registered"), { db with store := s })
        | (.ok user, s) => (.ok ⟨user.id, ascii "registration successful"⟩,
            { store := s
              credentials :=
                Function.update db.credentials user.id { passwordHash := some passwordHash } })

structure Registers (req : RegisterRequest) (passwordHash : Bytes) : Prop where
  email : validateEmail req.email = none
  password : validatePassword u req.password = none
  hash : hashPassword req.password = some passwordHash

end

lemma registerRow_rows (req : RegisterRequest) :
    OwnerRows (fun id => ⟨id, req.email, emailToSlug req.email, ascii "free"⟩) (registerRow req)
      (emailToSlug req.email) req.email := by
  constructor <;> intros <;> rfl

inductive Registered (u : Unicode) (hashPassword : Bytes → Option Bytes) (o : Outcome)
    (db : Database) (req : RegisterRequest) : Except AppError RegisterResponse × Database → Prop
  | refused {err} (h : ∀ passwordHash, ¬ Registers u hashPassword req passwordHash)
      (hcode : err.code ≠ ascii "CONFLICT") : Registered u hashPassword o db req (.error err, db)
  | noOrganization {passwordHash} (h : Registers u hashPassword req passwordHash)
      (horg : ¬ InsertsOrganization o db.store (emailToSlug req.email)) :
      Registered u hashPassword o db req (.error (.internal "failed to create organization"), db)
  | noUser {passwordHash org s} (h : Registers u hashPassword req passwordHash)
      (horg : InsertsOrganization o db.store (emailToSlug req.email))
      (huser : ¬ InsertsUser o db.store req.email)
      (hs : s.organizations = db.store.organizations ++ [org]) (hu : s.users = db.store.users) :
      Registered u hashPassword o db req
        (.error (.conflict "email already registered"), { db with store := s })
  | both {passwordHash org user s message} (h : Registers u hashPassword req passwordHash)
      (horg : InsertsOrganization o db.store (emailToSlug req.email))
      (huser : InsertsUser o db.store req.email)
      (hs : s.organizations = db.store.organizations ++ [org])
      (hu : s.users = db.store.users ++ [user]) (hfree : ∀ v ∈ db.store.users, v.id ≠ user.id)
      (hrow : user = registerRow req org.id user.id) :
      Registered u hashPassword o db req (.ok ⟨user.id, message⟩,
        { store := s
          credentials :=
            Function.update db.credentials user.id { passwordHash := some passwordHash } })

lemma register_registered (u : Unicode) (hashPassword : Bytes → Option Bytes) (o : Outcome)
    (db : Database) (req : RegisterRequest) :
    Registered u hashPassword o db req (register u hashPassword o db req) := by
  have hcode : ∀ message, (AppError.badRequest message).code ≠ ascii "CONFLICT" := by
    intro message
    change ascii "BAD_REQUEST" ≠ ascii "CONFLICT"
    decide
  simp only [register]
  cases he : validateEmail req.email with
  | some err => exact .refused (fun _ h => by simp [h.email] at he) (hcode err)
  | none =>
    cases hp : validatePassword u req.password with
    | some err => exact .refused (fun _ h => by simp [h.password] at hp) (hcode err.error)
    | none =>
      cases hh : hashPassword req.password with
      | none => exact .refused (fun _ h => by simp [h.hash] at hh) (by decide)
      | some passwordHash =>
        have hreg : Registers u hashPassword req passwordHash := ⟨he, hp, hh⟩
        have hrows := createRows_rows (o := o) (s := db.store) (registerRow_rows req)
        simp only
        generalize createRows o db.store _ _ = r at hrows ⊢
        cases hrows with
        | noOrganization hno => exact .noOrganization hreg hno
        | noUser horg huser hs hu => exact .noUser hreg horg huser hs hu
        | both horg huser hs hu hfree hnew => exact .both hreg horg huser hs hu hfree rfl

end OmniTun.Auth
