import Mathlib.Algebra.Ring.Int.Defs
import OmniTun.Foundation.Processes
import OmniTun.Foundation.Transport

/-! What the certificate manager keeps for one domain, in memory and on disk. -/

namespace OmniTun.Tls

open OmniTun.Foundation

/-- Times are in nanoseconds. Whether a certificate was uploaded is recorded beside the program. -/
structure CertEntry where
  notAfter : ℤ
  autoRenew : Bool
  renewing : Bool
  uploaded : Bool
  deriving DecidableEq

structure CertFile where
  pem : Bytes
  uploaded : Bool
  deriving DecidableEq

/-- A reference to an entry is its index among the entries ever made; the last one that an upload
made is recorded. -/
structure Domain where
  entries : List CertEntry
  certificates : Option ℕ
  fullchain : Option CertFile
  privkey : Option Bytes
  lastUpload : Option ℕ

/-- How far the writing of the two files comes, and what a write that fails leaves behind, if it has
opened its file. -/
inductive Written
  | ok
  | mkdirFails
  | certFails (left : Option Bytes)
  | keyFails (left : Option Bytes)
  deriving DecidableEq

/-- The reading of certificates, up to their `NotAfter`, and of keys. -/
structure X509 where
  notAfter : Bytes → Option ℤ
  validKey : Bytes → Bool

structure KeyPair where
  certPEM : Bytes
  keyPEM : Bytes
  deriving DecidableEq

def renewalWindow : ℤ := 30 * 24 * 3600 * 10 ^ 9

namespace Written

def certFile (certPEM : Bytes) : Written → Option Bytes
  | .ok => some certPEM
  | .mkdirFails => none
  | .certFails left => left
  | .keyFails _ => some certPEM

def keyFile (keyPEM : Bytes) : Written → Option Bytes
  | .ok => some keyPEM
  | .keyFails left => left
  | _ => none

end Written

namespace Domain

variable (x509 : X509) (s : Domain)

def entry (ref : ℕ) : Option CertEntry := s.entries[ref]?

def current : Option CertEntry := s.certificates.bind s.entry

def setRenewing (renewing : Bool) : Domain :=
  match s.certificates with
  | some ref => { s with entries := s.entries.modify ref fun e => { e with renewing := renewing } }
  | none => s

def writeFiles (pair : KeyPair) (uploaded : Bool) (written : Written) : Domain :=
  { s with
    fullchain := ((written.certFile pair.certPEM).map fun pem => ⟨pem, uploaded⟩).or s.fullchain
    privkey := (written.keyFile pair.keyPEM).or s.privkey }

def storeCertificateLocked (pair : KeyPair) (uploaded : Bool) (written : Written) :
    Option ℕ × Domain :=
  let s := s.writeFiles pair uploaded written
  if written = .ok then
    match x509.notAfter pair.certPEM with
    | none => (none, s)
    | some notAfter =>
      let ref := s.entries.length
      (some ref,
        { s with
          entries := s.entries ++ [⟨notAfter, true, false, uploaded⟩]
          certificates := some ref
          lastUpload := if uploaded then some ref else s.lastUpload })
  else (none, s)

end Domain

/-- The operations, between their locked sections. A renewal keeps the entry that it has marked. -/
inductive Call
  | idle
  | due
  | generating
  | renewing (marked : Option ℕ)
  | renewed (marked : Option ℕ) (newEntry : ℕ)
  | finishing (marked : Option ℕ)
  deriving DecidableEq

inductive Action
  | selfSignedCert
  | checkAndRenew (now : ℤ)
  | renewCertificate
  | generateAndStoreCert (pair : Option KeyPair) (written : Written)
  | replace
  | reset
  | uploadCustomCertificate (pair : KeyPair) (written : Written)
  deriving DecidableEq

variable (x509 : X509)

def isDue (now : ℤ) (s : Domain) : Bool :=
  s.current.any fun e => e.autoRenew && decide (e.notAfter - now < renewalWindow)

def renewCertificate (s : Domain) : Call × Domain :=
  if s.current.any CertEntry.renewing then (.idle, s)
  else (.renewing s.certificates, s.setRenewing true)

def next : Action → Call → Domain → Option (Call × Domain)
  | .selfSignedCert, .idle, s => some (if s.certificates.isSome then .idle else .generating, s)
  | .checkAndRenew now, .idle, s => some (if isDue now s then .due else .idle, s)
  | .renewCertificate, .idle, s => some (renewCertificate s)
  | .renewCertificate, .due, s => some (renewCertificate s)
  | .generateAndStoreCert pair written, .generating, s =>
    match pair with
    | none => some (.idle, s)
    | some pair => some (.idle, (s.storeCertificateLocked x509 pair false written).2)
  | .generateAndStoreCert pair written, .renewing marked, s =>
    match pair with
    | none => some (.finishing marked, s)
    | some pair =>
      match s.storeCertificateLocked x509 pair false written with
      | (none, s) => some (.finishing marked, s)
      | (some newEntry, s) => some (.renewed marked newEntry, s)
  | .replace, .renewed marked newEntry, s =>
    some (.finishing marked, { s with certificates := some newEntry })
  | .reset, .finishing _, s => some (.idle, s.setRenewing false)
  | .uploadCustomCertificate pair written, .idle, s =>
    if x509.notAfter pair.certPEM = none ∨ x509.validKey pair.keyPEM = false then some (.idle, s)
    else some (.idle, (s.storeCertificateLocked x509 pair true written).2)
  | _, _, _ => none

def Domain.started (fullchain : Option CertFile) (privkey : Option Bytes) : Domain where
  entries := []
  certificates := none
  fullchain := fullchain
  privkey := privkey
  lastUpload := none

end OmniTun.Tls
