import OmniTun.Tls.Steps

/-! What interleaved renewals, uploads and self-signed certificates do to one another. -/

namespace OmniTun.Tls

open OmniTun.Foundation Transition

variable {x509 : X509} {s s' : Domain} {a : Action} {l l' : Call}

/-! The entry in memory and the certificate on disk. -/

def Domain.fileNotAfter (x509 : X509) (s : Domain) : Option ℤ :=
  s.fullchain.bind fun file => x509.notAfter file.pem

def Describes (x509 : X509) (s : Domain) : Prop :=
  ∀ e, s.current = some e → s.fileNotAfter x509 = some e.notAfter

/-- What a failing store leaves in the file of the certificate expires with the entry in memory. -/
def KeepsNotAfter (x509 : X509) (pair : KeyPair) (written : Written) (s : Domain) : Prop :=
  Domain.StoreFails x509 pair written → ∀ left e, written.certFile pair.certPEM = some left →
    s.current = some e → x509.notAfter left = some e.notAfter

def DescribesAfter (x509 : X509) (s : Domain) : Action → Call → Prop
  | .generateAndStoreCert (some pair) written, _ => KeepsNotAfter x509 pair written s
  | .uploadCustomCertificate pair written, _ =>
    ¬ (x509.notAfter pair.certPEM = none ∨ x509.validKey pair.keyPEM = false) →
      KeepsNotAfter x509 pair written s
  | .replace, .renewed _ newEntry =>
    ∀ e, s.entry newEntry = some e → s.fileNotAfter x509 = some e.notAfter
  | _, _ => True

lemma describes_store {pair : KeyPair} {uploaded : Bool} {written : Written}
    (h : Describes x509 s) :
    Describes x509 (s.storeCertificateLocked x509 pair uploaded written).2 ↔
      KeepsNotAfter x509 pair written s := by
  rcases Domain.store_cases x509 pair uploaded written s with
    ⟨notAfter, hok, hparse, hstore, rfl⟩ | ⟨hfails, hstore⟩
  · rw [hstore]
    refine iff_of_true ?_ fun hfails => absurd hfails hok
    intro e he
    have hcurrent : (s.stored pair uploaded notAfter).current =
        some ⟨notAfter, true, false, uploaded⟩ := Domain.entry_stored_new pair uploaded notAfter s
    rw [hcurrent] at he
    cases he
    exact hparse
  · rw [hstore]
    have hcurrent : (s.writeFiles pair uploaded written).current = s.current := rfl
    cases hfile : written.certFile pair.certPEM with
    | none =>
      have hsame : (s.writeFiles pair uploaded written).fileNotAfter x509 = s.fileNotAfter x509 := by
        simp [Domain.writeFiles, Domain.fileNotAfter, hfile]
      refine iff_of_true ?_ ?_
      · intro e he
        rw [hsame]
        exact h e he
      · intro _ left e hleft
        rw [hfile] at hleft
        cases hleft
    | some left =>
      have hwritten : (s.writeFiles pair uploaded written).fileNotAfter x509 =
          x509.notAfter left := by
        simp [Domain.writeFiles, Domain.fileNotAfter, hfile]
      rw [Describes, hcurrent, hwritten]
      constructor
      · intro hkeeps _ left' e hleft he
        rw [hfile] at hleft
        rw [← Option.some.inj hleft]
        exact hkeeps e he
      · intro hkeeps e he
        exact hkeeps hfails left e hfile he

lemma describes_setRenewing (b : Bool) (h : Describes x509 s) :
    Describes x509 (s.setRenewing b) := by
  obtain ⟨hcertificates, hfile, -⟩ := s.setRenewing_frame b
  intro e' he'
  have hsame : (s.setRenewing b).fileNotAfter x509 = s.fileNotAfter x509 := by
    rw [Domain.fileNotAfter, hfile]
    rfl
  cases hc : s.certificates with
  | none =>
    rw [Domain.current, hcertificates, hc] at he'
    cases he'
  | some ref =>
    rw [Domain.current_eq (hcertificates.trans hc)] at he'
    cases he : s.entry ref with
    | none => simp [Domain.entry_setRenewing, he] at he'
    | some e =>
      obtain ⟨e'', he'', hnotAfter, -⟩ := Domain.entry_setRenewing_some (b := b) he
      rw [he''] at he'
      rw [hsame, ← Option.some.inj he', hnotAfter]
      exact h e ((Domain.current_eq hc).trans he)

lemma step_describes (hstep : Step x509 a l s l' s') (h : Describes x509 s) :
    Describes x509 s' ↔ DescribesAfter x509 s a l := by
  cases hstep with
  | selfSignedCert | checkAndRenew | refuse | notGenerated | notRenewed => exact iff_of_true h trivial
  | start | reset => exact iff_of_true (describes_setRenewing _ h) trivial
  | generate | renewFails | renew => exact describes_store h
  | replace => exact Iff.rfl
  | refuseUpload hinvalid => exact iff_of_true h fun hvalid => absurd hinvalid hvalid
  | upload hvalid =>
    exact (describes_store h).trans ⟨fun hkeeps _ => hkeeps, fun hkeeps => hkeeps hvalid⟩

/-! Uploaded certificates. -/

/-- The last certificate to be uploaded is the one in memory, and the file has no other kind. -/
def UploadStays (s : Domain) : Prop :=
  ∀ ref, s.lastUpload = some ref → s.certificates = some ref ∧
    ∀ file, s.fullchain = some file → file.uploaded = true

def SparesUpload (s : Domain) : Action → Call → Prop
  | .generateAndStoreCert (some pair) written, _ =>
    written.certFile pair.certPEM ≠ none → s.lastUpload = none
  | .replace, .renewed _ _ => s.lastUpload = none
  | _, _ => True

def Shared (s : Domain) : Prop :=
  ∀ ref, s.lastUpload = some ref → ∃ e, s.entry ref = some e ∧ e.uploaded = true

def Own (l : Call) (s : Domain) : Prop :=
  ∀ marked newEntry, l = .renewed marked newEntry →
    ∃ e, s.entry newEntry = some e ∧ e.uploaded = false

def Extends (s s' : Domain) : Prop :=
  ∀ ref e, s.entry ref = some e → ∃ e', s'.entry ref = some e' ∧ e'.uploaded = e.uploaded

lemma extends_refl (s : Domain) : Extends s s := fun _ e h => ⟨e, h, rfl⟩

lemma extends_store {pair : KeyPair} {uploaded : Bool} {written : Written} :
    Extends s (s.storeCertificateLocked x509 pair uploaded written).2 := by
  intro ref e h
  rcases Domain.store_cases x509 pair uploaded written s with ⟨_, -, -, hstore, -⟩ | ⟨-, hstore⟩
  · rw [hstore]
    exact ⟨e, Domain.entry_stored h, rfl⟩
  · rw [hstore]
    exact ⟨e, h, rfl⟩

lemma step_extends (hstep : Step x509 a l s l' s') : Extends s s' := by
  cases hstep with
  | selfSignedCert | checkAndRenew | refuse | notGenerated | notRenewed | refuseUpload | replace =>
    exact extends_refl s
  | start | reset =>
    intro ref e h
    obtain ⟨e', he', -, huploaded⟩ := Domain.entry_setRenewing_some h
    exact ⟨e', he', huploaded⟩
  | generate | renewFails | renew | upload => exact extends_store

lemma shared_of_lastUpload (h : Extends s s') (hlast : s'.lastUpload = s.lastUpload)
    (hs : Shared s) : Shared s' := by
  intro ref href
  rw [hlast] at href
  obtain ⟨e, he, huploaded⟩ := hs ref href
  obtain ⟨e', he', hsame⟩ := h ref e he
  exact ⟨e', he', hsame.trans huploaded⟩

lemma lastUpload_generate {pair : KeyPair} {written : Written} :
    (s.storeCertificateLocked x509 pair false written).2.lastUpload = s.lastUpload := by
  rcases Domain.store_cases x509 pair false written s with ⟨_, -, -, hstore, -⟩ | ⟨-, hstore⟩
  · rw [hstore]
    rfl
  · rw [hstore]
    rfl

lemma shared_upload {pair : KeyPair} {written : Written} (hs : Shared s) :
    Shared (s.storeCertificateLocked x509 pair true written).2 := by
  rcases Domain.store_cases x509 pair true written s with
    ⟨notAfter, -, -, hstore, -⟩ | ⟨-, hstore⟩
  · rw [hstore]
    intro ref href
    have hnew : ref = s.entries.length := (Option.some.inj href).symm
    rw [hnew]
    exact ⟨_, Domain.entry_stored_new pair true notAfter s, rfl⟩
  · rw [hstore]
    exact hs

lemma step_shared (hstep : Step x509 a l s l' s') (hs : Shared s) : Shared s' := by
  have hextends := step_extends hstep
  cases hstep with
  | selfSignedCert | checkAndRenew | refuse | notGenerated | notRenewed | refuseUpload | replace =>
    exact hs
  | start | reset => exact shared_of_lastUpload hextends (s.setRenewing_frame _).2.2 hs
  | generate | renewFails | renew => exact shared_of_lastUpload hextends lastUpload_generate hs
  | upload => exact shared_upload hs

lemma own_of_extends (h : Extends s s') (hown : Own l s) : Own l s' := by
  intro marked newEntry hl
  obtain ⟨e, he, huploaded⟩ := hown marked newEntry hl
  obtain ⟨e', he', hsame⟩ := h newEntry e he
  exact ⟨e', he', hsame.trans huploaded⟩

lemma step_own (hstep : Step x509 a l s l' s') : Own l' s' := by
  cases hstep with
  | @renew pair written marked newEntry _ hnew =>
    intro marked' newEntry' hl
    cases hl
    rcases Domain.store_cases x509 pair false written s with
      ⟨notAfter, -, -, hstore, -⟩ | ⟨-, hstore⟩
    · rw [hstore] at hnew ⊢
      rw [← Option.some.inj hnew]
      exact ⟨_, Domain.entry_stored_new pair false notAfter s, rfl⟩
    · rw [hstore] at hnew
      cases hnew
  | selfSignedCert h => rcases h with rfl | rfl <;> exact fun _ _ hl => by cases hl
  | checkAndRenew h => rcases h with rfl | rfl <;> exact fun _ _ hl => by cases hl
  | _ => exact fun _ _ hl => by cases hl

lemma uploadStays_generate {pair : KeyPair} {written : Written} (h : UploadStays s) :
    UploadStays (s.storeCertificateLocked x509 pair false written).2 ↔
      (written.certFile pair.certPEM ≠ none → s.lastUpload = none) := by
  have hlast : (s.storeCertificateLocked x509 pair false written).2.lastUpload = s.lastUpload :=
    lastUpload_generate
  cases hfile : written.certFile pair.certPEM with
  | none =>
    refine iff_of_true ?_ fun hne => absurd rfl hne
    rcases Domain.store_cases x509 pair false written s with
      ⟨_, -, -, -, rfl⟩ | ⟨-, hstore⟩
    · cases hfile
    · have hsame : (s.writeFiles pair false written).fullchain = s.fullchain := by
        simp [Domain.writeFiles, hfile]
      rw [hstore]
      intro ref href
      obtain ⟨hc, hkept⟩ := h ref href
      exact ⟨hc, fun file hf => hkept file (hsame.symm.trans hf)⟩
  | some left =>
    have hwritten : (s.storeCertificateLocked x509 pair false written).2.fullchain =
        some ⟨left, false⟩ := by
      rcases Domain.store_cases x509 pair false written s with
        ⟨_, -, -, hstore, rfl⟩ | ⟨-, hstore⟩
      · rw [hstore, ← Option.some.inj hfile]
        rfl
      · rw [hstore]
        simp [Domain.writeFiles, hfile]
    constructor
    · intro hstays _
      cases hupload : s.lastUpload with
      | none => rfl
      | some ref =>
        have huploaded := (hstays ref (hlast.trans hupload)).2 _ hwritten
        cases huploaded
    · intro hnone ref href
      rw [hlast, hnone (by simp)] at href
      cases href

lemma uploadStays_upload {pair : KeyPair} {written : Written} (h : UploadStays s) :
    UploadStays (s.storeCertificateLocked x509 pair true written).2 := by
  rcases Domain.store_cases x509 pair true written s with
    ⟨notAfter, -, -, hstore, -⟩ | ⟨-, hstore⟩
  · rw [hstore]
    intro ref href
    refine ⟨href, fun file hf => ?_⟩
    rw [← Option.some.inj hf]
  · rw [hstore]
    intro ref href
    obtain ⟨hc, hkept⟩ := h ref href
    refine ⟨hc, fun file hf => ?_⟩
    cases hfile : written.certFile pair.certPEM with
    | none => exact hkept file (by simpa [Domain.writeFiles, hfile] using hf)
    | some left =>
      have hleft : some (⟨left, true⟩ : CertFile) = some file := by
        simpa [Domain.writeFiles, hfile] using hf
      rw [← Option.some.inj hleft]

lemma step_uploadStays (hstep : Step x509 a l s l' s') (hs : Shared s) (hown : Own l s)
    (h : UploadStays s) : UploadStays s' ↔ SparesUpload s a l := by
  cases hstep with
  | selfSignedCert | checkAndRenew | refuse | notGenerated | notRenewed | refuseUpload =>
    exact iff_of_true h trivial
  | start | reset =>
    refine iff_of_true ?_ trivial
    obtain ⟨hcertificates, hfile, hlast⟩ := s.setRenewing_frame _
    rw [UploadStays, hcertificates, hfile, hlast]
    exact h
  | generate | renewFails | renew => exact uploadStays_generate h
  | upload => exact iff_of_true (uploadStays_upload h) trivial
  | @replace marked newEntry =>
    constructor
    · intro hstays
      rw [SparesUpload]
      cases hupload : s.lastUpload with
      | none => rfl
      | some ref =>
        obtain ⟨e, he, huploaded⟩ := hs ref hupload
        obtain ⟨e', he', hnot⟩ := hown marked newEntry rfl
        have hsame : some newEntry = some ref := (hstays ref hupload).1
        rw [Option.some.inj hsame, he] at he'
        rw [← Option.some.inj he', huploaded] at hnot
        cases hnot
    · intro hnone ref href
      have hupload : s.lastUpload = none := hnone
      rw [show s.lastUpload = some ref from href] at hupload
      cases hupload

end OmniTun.Tls
