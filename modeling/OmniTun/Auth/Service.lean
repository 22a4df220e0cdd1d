import OmniTun.Auth.Saml
import OmniTun.Auth.Totp

/-! Password logins and the second factor. -/

namespace OmniTun.Auth

open OmniTun.Foundation

structure AppError where
  code : Bytes
  message : Bytes
  status : ℕ
  deriving DecidableEq

namespace AppError

def notFound (message : String) : AppError := ⟨ascii "NOT_FOUND", ascii message, 404⟩
def badRequest (message : String) : AppError := ⟨ascii "BAD_REQUEST", ascii message, 400⟩
def unauthorized (message : String) : AppError := ⟨ascii "UNAUTHORIZED", ascii message, 401⟩
def internal (message : String) : AppError := ⟨ascii "INTERNAL_ERROR", ascii message, 500⟩
def mfaRequired : AppError := ⟨ascii "MFA_REQUIRED", ascii "MFA code required", 401⟩

end AppError

/-- The columns of a user's row that no provider login reads. Rows are inserted with the values that
stand here. -/
structure Credentials where
  passwordHash : Option Bytes := none
  mfaEnabled : Bool := false
  mfaSecret : Option Bytes := none
  deriving DecidableEq

structure Database where
  store : Store
  credentials : Bytes → Credentials

namespace Database

variable (db : Database)

def ids : List Bytes := db.store.users.map User.id

def getUserByID (id : Bytes) : Option User :=
  db.store.users.find? fun u => u.id = id ∧ u.deleted = false

def updateMFA (id : Bytes) (enabled : Bool) (secret : Bytes) : Database where
  store := db.store
  credentials := Function.update db.credentials id
    { db.credentials id with mfaEnabled := enabled, mfaSecret := some secret }

def inserted (store : Store) : Database where
  store := store
  credentials id := if id ∈ db.ids then db.credentials id else {}

end Database

structure ServiceOutcome where
  lookupFails : Bool := false
  updateFails : Bool := false
  accessFails : Bool := false
  refreshFails : Bool := false
  storeFails : Bool := false

def currentUser (o : ServiceOutcome) (db : Database) (userID : Option Bytes) :
    Except AppError User :=
  match userID with
  | none => .error (.unauthorized "user not authenticated")
  | some id =>
    match if o.lookupFails then none else db.getUserByID id with
    | none => .error (.notFound "user not found")
    | some user => .ok user

structure LoginRequest where
  email : Bytes
  password : Bytes
  mfaCode : Bytes

section

variable (hmacSHA1 : Bytes → Bytes → Vector UInt8 20) (checkPassword : Bytes → Bytes → Bool)

def checkSecondFactor (c : Credentials) (mfaCode : Bytes) (now : ℕ) : Except AppError Unit :=
  if c.mfaEnabled then
    if mfaCode = [] then .error .mfaRequired
    else
      match c.mfaSecret with
      | none => .error (.internal "MFA secret not configured")
      | some secret =>
        if validateTOTPCode hmacSHA1 secret mfaCode now then .ok ()
        else .error (.unauthorized "invalid MFA code")
  else .ok ()

def login (o : ServiceOutcome) (db : Database) (req : LoginRequest) (now : ℕ) :
    Except AppError User :=
  match if o.lookupFails then none else db.store.findUserByEmail req.email with
  | none => .error (.unauthorized "invalid email or password")
  | some user =>
    match (db.credentials user.id).passwordHash with
    | none => .error (.unauthorized "invalid email or password")
    | some passwordHash =>
      if checkPassword passwordHash req.password = false then
        .error (.unauthorized "invalid email or password")
      else
        match checkSecondFactor hmacSHA1 (db.credentials user.id) req.mfaCode now with
        | .error err => .error err
        | .ok () =>
          if o.accessFails then .error (.internal "failed to generate access token")
          else if o.refreshFails then .error (.internal "failed to generate refresh token")
          else if o.storeFails then .error (.internal "failed to store refresh token")
          else .ok user

def enrollMFA (o : ServiceOutcome) (db : Database) (userID : Option Bytes)
    (draw : Option (Vector UInt8 20)) : Except AppError Bytes × Database :=
  match currentUser o db userID with
  | .error err => (.error err, db)
  | .ok user =>
    match draw with
    | none => (.error (.internal "failed to generate MFA secret"), db)
    | some draw =>
      if o.updateFails then (.error (.internal "failed to store MFA secret"), db)
      else (.ok (generateTOTPSecret draw), db.updateMFA user.id false (generateTOTPSecret draw))

def verifyMFA (o : ServiceOutcome) (db : Database) (userID : Option Bytes) (code : Bytes)
    (now : ℕ) : Except AppError Bool × Database :=
  match currentUser o db userID with
  | .error err => (.error err, db)
  | .ok user =>
    match (db.credentials user.id).mfaSecret with
    | none => (.ok false, db)
    | some secret =>
      if validateTOTPCode hmacSHA1 secret code now = false then
        (.error (.badRequest "invalid MFA code"), db)
      else if o.updateFails then (.error (.internal "failed to enable MFA"), db)
      else (.ok true, db.updateMFA user.id true secret)

end

def disableMFA (o : ServiceOutcome) (db : Database) (userID : Option Bytes) :
    Except AppError Unit × Database :=
  match userID with
  | none => (.error (.unauthorized "user not authenticated"), db)
  | some id =>
    if o.updateFails then (.error (.internal "failed to disable MFA"), db)
    else (.ok (), db.updateMFA id false [])

section

variable {o : ServiceOutcome} {db : Database} {user : User}

lemma currentUser_ok {userID : Option Bytes} (h : currentUser o db userID = .ok user) :
    userID = some user.id ∧ user ∈ db.store.users := by
  cases userID with
  | none => cases h
  | some id =>
    simp only [currentUser] at h
    cases hl : o.lookupFails with
    | true => simp [hl] at h
    | false =>
      cases hu : db.getUserByID id with
      | none => simp [hl, hu] at h
      | some u =>
        simp only [hl, hu, Bool.false_eq_true, if_false, Except.ok.injEq] at h
        subst h
        have hp := List.find?_some hu
        simp only [decide_eq_true_eq] at hp
        exact ⟨congrArg some hp.1.symm, List.mem_of_find?_eq_some hu⟩

lemma enrollMFA_cases (o : ServiceOutcome) (db : Database) (userID : Option Bytes)
    (draw : Option (Vector UInt8 20)) :
    ((∃ err, enrollMFA o db userID draw = (.error err, db)) ∧
      ∀ user, currentUser o db userID = .ok user → draw ≠ none → o.updateFails = true) ∨
    ∃ user d, currentUser o db userID = .ok user ∧ draw = some d ∧ o.updateFails = false ∧
      enrollMFA o db userID draw =
        (.ok (generateTOTPSecret d), db.updateMFA user.id false (generateTOTPSecret d)) := by
  cases hu : currentUser o db userID with
  | error err => exact .inl ⟨⟨err, by simp only [enrollMFA, hu]⟩, by simp⟩
  | ok user =>
    cases draw with
    | none =>
      have hnone : enrollMFA o db userID none =
          (.error (.internal "failed to generate MFA secret"), db) := by
        simp only [enrollMFA, hu]
      exact .inl ⟨⟨_, hnone⟩, by simp⟩
    | some d =>
      cases hf : o.updateFails with
      | true =>
        have hfail : enrollMFA o db userID (some d) =
            (.error (.internal "failed to store MFA secret"), db) := by
          simp only [enrollMFA, hu, hf, if_true]
        exact .inl ⟨⟨_, hfail⟩, by simp⟩
      | false =>
        refine .inr ⟨user, d, rfl, rfl, rfl, ?_⟩
        simp only [enrollMFA, hu, hf, Bool.false_eq_true, if_false]

lemma verifyMFA_cases (hmacSHA1 : Bytes → Bytes → Vector UInt8 20) (o : ServiceOutcome)
    (db : Database) (userID : Option Bytes) (code : Bytes) (now : ℕ) :
    (∃ r, verifyMFA hmacSHA1 o db userID code now = (r, db) ∧ r ≠ .ok true ∧
      ∀ user secret, currentUser o db userID = .ok user →
        (db.credentials user.id).mfaSecret = some secret →
          validateTOTPCode hmacSHA1 secret code now = true → o.updateFails = true) ∨
    ∃ user secret, currentUser o db userID = .ok user ∧
      (db.credentials user.id).mfaSecret = some secret ∧
        validateTOTPCode hmacSHA1 secret code now = true ∧ o.updateFails = false ∧
          verifyMFA hmacSHA1 o db userID code now =
            (.ok true, db.updateMFA user.id true secret) := by
  cases hu : currentUser o db userID with
  | error err => exact .inl ⟨.error err, by simp only [verifyMFA, hu], by simp, by simp⟩
  | ok user =>
    cases hs : (db.credentials user.id).mfaSecret with
    | none =>
      refine .inl ⟨.ok false, by simp only [verifyMFA, hu, hs], by simp, ?_⟩
      rintro _ _ ⟨rfl⟩ hsome
      simp [hs] at hsome
    | some secret =>
      cases hv : validateTOTPCode hmacSHA1 secret code now with
      | false =>
        refine .inl ⟨.error (.badRequest "invalid MFA code"), ?_, by simp, ?_⟩
        · simp only [verifyMFA, hu, hs, hv, if_true]
        · rintro _ _ ⟨rfl⟩ hsome hvalid
          obtain rfl := Option.some.inj (hs.symm.trans hsome)
          simp [hv] at hvalid
      | true =>
        cases hf : o.updateFails with
        | true =>
          refine .inl ⟨.error (.internal "failed to enable MFA"), ?_, by simp, ?_⟩
          · simp only [verifyMFA, hu, hs, hv, hf, Bool.true_eq_false, if_false, if_true]
          · exact fun _ _ _ _ _ => rfl
        | false =>
          refine .inr ⟨user, secret, rfl, hs, hv, rfl, ?_⟩
          simp only [verifyMFA, hu, hs, hv, hf, Bool.true_eq_false, Bool.false_eq_true, if_false]

lemma disableMFA_cases (o : ServiceOutcome) (db : Database) (userID : Option Bytes) :
    (∃ err, disableMFA o db userID = (.error err, db)) ∨
      ∃ id, userID = some id ∧ disableMFA o db userID = (.ok (), db.updateMFA id false []) := by
  cases userID with
  | none => exact .inl ⟨_, rfl⟩
  | some id =>
    cases hf : o.updateFails with
    | true =>
      have hfail : disableMFA o db (some id) =
          (.error (.internal "failed to disable MFA"), db) := by
        simp only [disableMFA, hf, if_true]
      exact .inl ⟨_, hfail⟩
    | false => exact .inr ⟨id, rfl, by simp [disableMFA, hf]⟩

variable {hmacSHA1 : Bytes → Bytes → Vector UInt8 20} {checkPassword : Bytes → Bytes → Bool}

lemma checkSecondFactor_ok {c : Credentials} {mfaCode : Bytes} {now : ℕ}
    (h : checkSecondFactor hmacSHA1 c mfaCode now = .ok ()) (he : c.mfaEnabled = true) :
    ∃ secret, c.mfaSecret = some secret ∧ validateTOTPCode hmacSHA1 secret mfaCode now = true := by
  have hcode : mfaCode ≠ [] := by
    rintro rfl
    simp [checkSecondFactor, he] at h
  simp only [checkSecondFactor, he, if_true, if_neg hcode] at h
  cases hs : c.mfaSecret with
  | none => simp [hs] at h
  | some secret =>
    refine ⟨secret, rfl, ?_⟩
    by_contra hv
    simp [hs, hv] at h

lemma login_ok {req : LoginRequest} {now : ℕ}
    (h : login hmacSHA1 checkPassword o db req now = .ok user) :
    checkSecondFactor hmacSHA1 (db.credentials user.id) req.mfaCode now = .ok () := by
  simp only [login] at h
  split at h
  · cases h
  next u _ =>
    split at h
    · cases h
    · split at h
      · cases h
      · split at h
        · cases h
        next hc =>
          split_ifs at h
          obtain rfl := Except.ok.inj h
          exact hc

end

end OmniTun.Auth
