import Mathlib.Logic.Function.Basic
import OmniTun.Foundation.FilePath
import OmniTun.Tls.Manager

/-! The certificate manager with all its domains and the files it writes, one call at a time. -/

namespace OmniTun.Tls.Disk

open OmniTun.Foundation FilePath

structure CertEntry where
  domain : Bytes
  certPath : Bytes
  keyPath : Bytes
  notAfter : ℤ
  autoRenew : Bool
  renewing : Bool
  deriving DecidableEq

/-- The reading of certificates and keys. That a key belongs to a certificate and that a certificate
is valid for a domain is said here, and the program does not ask for it. -/
structure Pki (Certificate Key : Type) where
  pemDecode : Bytes → Option Bytes
  parseCertificate : Bytes → Option Certificate
  parsePKCS8PrivateKey : Bytes → Option Key
  parsePKCS1PrivateKey : Bytes → Option Key
  parseECPrivateKey : Bytes → Option Key
  notAfter : Certificate → ℤ
  belongs : Certificate → Key → Bool
  validFor : Certificate → Bytes → Bool

@[ext] structure Manager where
  certificates : Bytes → Option CertEntry
  files : Bytes → Option Bytes

inductive Error
  | generateKey
  | generateSerial
  | createCertificate
  | marshalKey
  | createDir
  | writeCert
  | writeKey
  | decodeCert
  | parseCert
  | decodeKey
  | parseKey
  | invalid (err : Error)
  | alreadyRenewing
  | renew (err : Error)
  deriving DecidableEq

def Error.text (domain cause : Bytes) : Error → Bytes
  | .generateKey => ascii "generate ECDSA key: " ++ cause
  | .generateSerial => ascii "generate serial: " ++ cause
  | .createCertificate => ascii "create certificate: " ++ cause
  | .marshalKey => ascii "marshal private key: " ++ cause
  | .createDir => ascii "create cert dir for " ++ domain ++ ascii ": " ++ cause
  | .writeCert => ascii "write cert file: " ++ cause
  | .writeKey => ascii "write key file: " ++ cause
  | .decodeCert => ascii "failed to decode certificate PEM"
  | .parseCert => ascii "parse certificate: " ++ cause
  | .decodeKey => ascii "failed to decode key PEM"
  | .parseKey => ascii "parse private key: " ++ cause
  | .invalid err => ascii "invalid certificate: " ++ err.text domain cause
  | .alreadyRenewing => ascii "certificate for " ++ domain ++ ascii " is already being renewed"
  | .renew err =>
    ascii "renew self-signed cert for " ++ domain ++ ascii ": " ++ err.text domain cause

def dataDir : Bytes := ascii "data"
def certsSubDir : Bytes := ascii "certs"

def certDir (domain : Bytes) : Bytes := join [dataDir, certsSubDir, domain]
def certPath (domain : Bytes) : Bytes := join [certDir domain, ascii "fullchain.pem"]
def keyPath (domain : Bytes) : Bytes := join [certDir domain, ascii "privkey.pem"]

namespace Manager

variable {Certificate Key : Type} (pki : Pki Certificate Key) (m : Manager)

def write (path : Bytes) (left : Option Bytes) : Manager :=
  match left with
  | none => m
  | some content => { m with files := Function.update m.files path (some content) }

def put (domain : Bytes) (entry : CertEntry) : Manager :=
  { m with certificates := Function.update m.certificates domain (some entry) }

def writeFiles (domain : Bytes) (pair : KeyPair) (written : Written) : Manager :=
  (m.write (certPath domain) (written.certFile pair.certPEM)).write (keyPath domain)
    (written.keyFile pair.keyPEM)

def storeCertificateLocked (domain : Bytes) (pair : KeyPair) (written : Written) :
    Except Error CertEntry × Manager :=
  let m := m.writeFiles domain pair written
  match written with
  | .mkdirFails => (.error .createDir, m)
  | .certFails _ => (.error .writeCert, m)
  | .keyFails _ => (.error .writeKey, m)
  | .ok =>
    match pki.pemDecode pair.certPEM with
    | none => (.error .decodeCert, m)
    | some block =>
      match pki.parseCertificate block with
      | none => (.error .parseCert, m)
      | some cert =>
        let entry : CertEntry :=
          { domain := domain
            certPath := certPath domain
            keyPath := keyPath domain
            notAfter := pki.notAfter cert
            autoRenew := true
            renewing := false }
        (.ok entry, m.put domain entry)

end Manager

section Calls

variable {Certificate Key : Type} (pki : Pki Certificate Key)

def parseAndValidateCert (pair : KeyPair) : Except Error (Certificate × Key) :=
  match pki.pemDecode pair.certPEM with
  | none => .error .decodeCert
  | some certBlock =>
    match pki.parseCertificate certBlock with
    | none => .error .parseCert
    | some cert =>
      match pki.pemDecode pair.keyPEM with
      | none => .error .decodeKey
      | some keyBlock =>
        match (pki.parsePKCS8PrivateKey keyBlock).or
            ((pki.parsePKCS1PrivateKey keyBlock).or (pki.parseECPrivateKey keyBlock)) with
        | none => .error .parseKey
        | some privKey => .ok (cert, privKey)

def uploadCustomCertificate (m : Manager) (domain : Bytes) (pair : KeyPair) (written : Written) :
    Except Error CertEntry × Manager :=
  match parseAndValidateCert pki pair with
  | .error err => (.error (.invalid err), m)
  | .ok _ => m.storeCertificateLocked pki domain pair written

def generateAndStoreCert (m : Manager) (domain : Bytes) (generated : Except Error KeyPair)
    (written : Written) : Except Error CertEntry × Manager :=
  match generated with
  | .error err => (.error err, m)
  | .ok pair => m.storeCertificateLocked pki domain pair written

def selfSignedCert (m : Manager) (domain : Bytes) (generated : Except Error KeyPair)
    (written : Written) : Except Error CertEntry × Manager :=
  match m.certificates domain with
  | some entry => (.ok entry, m)
  | none => generateAndStoreCert pki m domain generated written

def Manager.setRenewing (m : Manager) (domain : Bytes) (renewing : Bool) : Manager :=
  match m.certificates domain with
  | none => m
  | some entry => m.put domain { entry with renewing := renewing }

def renewCertificate (m : Manager) (domain : Bytes) (generated : Except Error KeyPair)
    (written : Written) : Option Error × Manager :=
  if (m.certificates domain).any CertEntry.renewing then (some .alreadyRenewing, m)
  else
    match generateAndStoreCert pki (m.setRenewing domain true) domain generated written with
    | (.error err, m) => (some (.renew err), m.setRenewing domain false)
    | (.ok newEntry, m) => (none, (m.put domain newEntry).setRenewing domain false)

end Calls

def plainPki : Pki Bytes Bytes where
  pemDecode pem := if pem = [] then none else some pem
  parseCertificate block := some block
  parsePKCS8PrivateKey block := some block
  parsePKCS1PrivateKey _ := none
  parseECPrivateKey _ := none
  notAfter _ := 0
  belongs cert key := (cert.dropWhile (· ≠ 44)).drop 1 = key
  validFor cert domain := cert.takeWhile (· ≠ 44) = domain

section Paths

variable {domain : Bytes}

def base : List Bytes := [dataDir, certsSubDir]

def dirRoute (domain : Bytes) : Route := .under base (routeOf domain)

lemma base_plain : ∀ seg ∈ base, Route.Plain seg := by
  intro seg hseg
  rcases List.mem_pair.mp hseg with rfl | rfl
  · decide
  · decide

lemma dirRoute_good (domain : Bytes) : (dirRoute domain).Good := by
  intro seg hseg
  rcases List.mem_append.mp hseg with hbase | hdown
  · exact base_plain seg (List.mem_of_mem_take hbase)
  · exact Route.routeOf_good domain seg hdown

lemma certDir_eq (domain : Bytes) : certDir domain = (dirRoute domain).text := by
  have hjoin : certDir domain = clean (ascii "data/certs" ++ 47 :: domain) := by
    have hdrop : [dataDir, certsSubDir, domain].dropWhile (· = []) =
        [dataDir, certsSubDir, domain] := rfl
    have htext : [47].intercalate [dataDir, certsSubDir, domain] =
        ascii "data/certs" ++ 47 :: domain := by
      simp only [List.intercalate, List.intersperse, List.flatten_cons, List.flatten_nil,
        List.append_nil]
      rfl
    rw [certDir, join, hdrop]
    simp only [htext]
  have hhead : (ascii "data/certs" ++ 47 :: domain).head? ≠ some 47 := by
    have hd : (ascii "data/certs" ++ 47 :: domain).head? = some 100 := rfl
    rw [hd]
    decide
  have hbase : routeOf (ascii "data/certs") = .under base ⟨0, []⟩ := by decide
  rw [hjoin, clean, if_neg hhead, Route.routeOf_append, hbase, Route.walk_under]
  rfl

lemma certPath_eq (domain : Bytes) : certPath domain =
    (Route.mk (dirRoute domain).up ((dirRoute domain).down ++ [ascii "fullchain.pem"])).text := by
  rw [certPath, certDir_eq, Route.join_text (dirRoute_good domain) (by decide)]

lemma keyPath_eq (domain : Bytes) : keyPath domain =
    (Route.mk (dirRoute domain).up ((dirRoute domain).down ++ [ascii "privkey.pem"])).text := by
  rw [keyPath, certDir_eq, Route.join_text (dirRoute_good domain) (by decide)]

lemma certPath_ne_keyPath (domain domain' : Bytes) : certPath domain ≠ keyPath domain' := by
  rw [certPath_eq, keyPath_eq]
  intro heq
  have hroute := Route.text_inj ((dirRoute_good domain).append (by decide))
    ((dirRoute_good domain').append (by decide)) heq
  have hlast := congrArg (fun r => r.down.getLast?) hroute
  simp only [List.getLast?_append, List.getLast?_singleton, Option.some_or] at hlast
  exact absurd hlast (by decide)

end Paths

section Files

variable {Certificate Key : Type} {pki : Pki Certificate Key} {m : Manager} {domain path : Bytes}
  {pair : KeyPair} {written : Written}

namespace Manager

@[simp] lemma write_certificates (path : Bytes) (left : Option Bytes) :
    (m.write path left).certificates = m.certificates := by
  cases left <;> rfl

lemma write_files (path : Bytes) (left : Option Bytes) :
    (m.write path left).files = Function.update m.files path (left.or (m.files path)) := by
  cases left with
  | none => exact (Function.update_eq_self path m.files).symm
  | some content => rfl

lemma writeFiles_certificates : (m.writeFiles domain pair written).certificates =
    m.certificates := by
  rw [writeFiles, write_certificates, write_certificates]

lemma writeFiles_files (m : Manager) (domain : Bytes) (pair : KeyPair) (written : Written)
    (path : Bytes) : (m.writeFiles domain pair written).files path =
    if path = keyPath domain then (written.keyFile pair.keyPEM).or (m.files (keyPath domain))
    else if path = certPath domain then
      (written.certFile pair.certPEM).or (m.files (certPath domain))
    else m.files path := by
  rw [writeFiles, write_files, write_files]
  by_cases hkey : path = keyPath domain
  · rw [if_pos hkey, hkey, Function.update_self,
      Function.update_of_ne (certPath_ne_keyPath domain domain).symm]
  · rw [if_neg hkey, Function.update_of_ne hkey]
    split_ifs with hcert
    · rw [hcert, Function.update_self]
    · rw [Function.update_of_ne hcert]

def StepFails (pki : Pki Certificate Key) (pair : KeyPair) (written : Written) : Prop :=
  written ≠ .ok ∨ (pki.pemDecode pair.certPEM).bind pki.parseCertificate = none

lemma store_cases (pki : Pki Certificate Key) (m : Manager) (domain : Bytes) (pair : KeyPair)
    (written : Written) :
    StepFails pki pair written ∧ (∃ err, m.storeCertificateLocked pki domain pair written =
        (.error err, m.writeFiles domain pair written)) ∨
      ¬ StepFails pki pair written ∧ ∃ entry, m.storeCertificateLocked pki domain pair written =
        (.ok entry, (m.writeFiles domain pair written).put domain entry) := by
  cases written with
  | mkdirFails => exact .inl ⟨.inl (by decide), _, rfl⟩
  | certFails left => exact .inl ⟨.inl (by simp), _, rfl⟩
  | keyFails left => exact .inl ⟨.inl (by simp), _, rfl⟩
  | ok =>
    simp only [storeCertificateLocked, StepFails, ne_eq, not_true_eq_false, false_or]
    cases hblock : pki.pemDecode pair.certPEM with
    | none => exact .inl ⟨rfl, _, rfl⟩
    | some block =>
      simp only [Option.bind_some]
      cases hcert : pki.parseCertificate block with
      | none => exact .inl ⟨rfl, _, rfl⟩
      | some cert => exact .inr ⟨Option.some_ne_none cert, _, rfl⟩

lemma store_files : (m.storeCertificateLocked pki domain pair written).2.files =
    (m.writeFiles domain pair written).files := by
  rcases store_cases pki m domain pair written with ⟨-, err, h⟩ | ⟨-, entry, h⟩
  · rw [h]
  · rw [h]
    rfl

end Manager

end Files

end OmniTun.Tls.Disk
