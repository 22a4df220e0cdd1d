import OmniTun.Tls.Disk

/-! What storing a certificate leaves on disk when a step of it fails, and which pairs an upload
accepts. -/

namespace OmniTun.Tls.Disk

open OmniTun.Foundation FilePath

variable {Certificate Key : Type} (pki : Pki Certificate Key)

section Definitions

def Belong (pair : KeyPair) : Prop :=
  ∃ cert key, parseAndValidateCert pki pair = .ok (cert, key) ∧ pki.belongs cert key = true

/-- The files of the domain are a pair that belongs together, if there are any. -/
def Together (m : Manager) (domain : Bytes) : Prop :=
  m.files (certPath domain) = none ∧ m.files (keyPath domain) = none ∨
    ∃ pair, m.files (certPath domain) = some pair.certPEM ∧
      m.files (keyPath domain) = some pair.keyPEM ∧ Belong pki pair

structure StoresAtomically (m : Manager) (domain : Bytes) (pair : KeyPair) (written : Written) :
    Prop where
  restored : ∀ err, (m.storeCertificateLocked pki domain pair written).1 = .error err →
    (m.storeCertificateLocked pki domain pair written).2 = m
  together : Together pki m domain → Belong pki pair →
    Together pki (m.storeCertificateLocked pki domain pair written).2 domain

def Untouched (m : Manager) (domain : Bytes) (pair : KeyPair) (written : Written) : Prop :=
  (∀ content ∈ written.certFile pair.certPEM, m.files (certPath domain) = some content) ∧
    ∀ content ∈ written.keyFile pair.keyPEM, m.files (keyPath domain) = some content

def Usable (domain : Bytes) (pair : KeyPair) : Prop :=
  ∃ cert key, parseAndValidateCert pki pair = .ok (cert, key) ∧ pki.belongs cert key = true ∧
    pki.validFor cert domain = true

structure UploadsMatch (m : Manager) (domain : Bytes) (pair : KeyPair) (written : Written) :
    Prop where
  accepted : ∀ entry, (uploadCustomCertificate pki m domain pair written).1 = .ok entry →
    Usable pki domain pair
  rejected : ¬ Usable pki domain pair →
    (∃ err, (uploadCustomCertificate pki m domain pair written).1 = .error err) ∧
      (uploadCustomCertificate pki m domain pair written).2 = m

end Definitions

variable {pki} {m : Manager} {domain : Bytes} {pair : KeyPair} {written : Written}

lemma or_eq_self_iff {α : Type} {o o' : Option α} : o.or o' = o' ↔ ∀ a ∈ o, o' = some a := by
  cases o with
  | none => simp
  | some a => simp [eq_comm]

lemma writeFiles_eq_iff :
    m.writeFiles domain pair written = m ↔ Untouched m domain pair written := by
  rw [Untouched, ← or_eq_self_iff, ← or_eq_self_iff]
  constructor
  · intro h
    have hcert := Manager.writeFiles_files m domain pair written (certPath domain)
    have hkey := Manager.writeFiles_files m domain pair written (keyPath domain)
    rw [h, if_neg (certPath_ne_keyPath domain domain), if_pos rfl] at hcert
    rw [h, if_pos rfl] at hkey
    exact ⟨hcert.symm, hkey.symm⟩
  · rintro ⟨hcert, hkey⟩
    have hfiles : (m.writeFiles domain pair written).files = m.files := by
      funext path
      rw [Manager.writeFiles_files]
      split_ifs with h h'
      · rw [hkey, h]
      · rw [hcert, h']
      · rfl
    exact Manager.ext Manager.writeFiles_certificates hfiles

lemma together_written (h : Belong pki pair) (hok : written = .ok) :
    Together pki (m.writeFiles domain pair written) domain := by
  refine .inr ⟨pair, ?_, ?_, h⟩
  · rw [Manager.writeFiles_files, if_neg (certPath_ne_keyPath domain domain), if_pos rfl, hok]
    rfl
  · rw [Manager.writeFiles_files, if_pos rfl, hok]
    rfl

/-- An error restores what was there, and the files of a domain stay a pair, just when no step fails
after something has been written over. -/
theorem stores_atomically_iff (pki : Pki Certificate Key) (m : Manager) (domain : Bytes)
    (pair : KeyPair) (written : Written) :
    StoresAtomically pki m domain pair written ↔
      (Manager.StepFails pki pair written → Untouched m domain pair written) := by
  rcases Manager.store_cases pki m domain pair written with
    ⟨hfails, err, hstore⟩ | ⟨hok, entry, hstore⟩
  · rw [← writeFiles_eq_iff]
    constructor
    · intro h _
      have hrestored := h.restored err (by rw [hstore])
      rwa [hstore] at hrestored
    · intro h
      have hsame := h hfails
      refine ⟨fun _ _ => ?_, fun htogether _ => ?_⟩
      · rw [hstore]
        exact hsame
      · rw [hstore, hsame]
        exact htogether
  · have hwritten : written = .ok := by
      by_contra hne
      exact hok (.inl hne)
    refine iff_of_true ⟨fun err herr => ?_, fun _ hbelong => ?_⟩ fun hfails => absurd hfails hok
    · rw [hstore] at herr
      cases herr
    · rw [hstore]
      exact together_written hbelong hwritten

def oldPair : KeyPair := ⟨ascii "a,old", ascii "old"⟩

def newPair : KeyPair := ⟨ascii "a,new", ascii "new"⟩

def renewing : Manager where
  certificates _ := none
  files := fun path => if path = certPath (ascii "a") then some oldPair.certPEM
    else if path = keyPath (ascii "a") then some oldPair.keyPEM else none

theorem store_leaves_new_certificate :
    renewing.files (certPath (ascii "a")) = some oldPair.certPEM ∧
      (renewing.storeCertificateLocked plainPki (ascii "a") newPair (.keyFails none)).2.files
        (certPath (ascii "a")) = some newPair.certPEM ∧
      (renewing.storeCertificateLocked plainPki (ascii "a") newPair (.keyFails none)).2.files
        (keyPath (ascii "a")) = some oldPair.keyPEM ∧
      ¬ StoresAtomically plainPki renewing (ascii "a") newPair (.keyFails none) := by
  have hold : renewing.files (certPath (ascii "a")) = some oldPair.certPEM := by
    simp [renewing]
  have hkey : renewing.files (keyPath (ascii "a")) = some oldPair.keyPEM := by
    simp [renewing, (certPath_ne_keyPath (ascii "a") (ascii "a")).symm]
  have hnew : (renewing.storeCertificateLocked plainPki (ascii "a") newPair
      (.keyFails none)).2.files (certPath (ascii "a")) = some newPair.certPEM := by
    rw [Manager.store_files, Manager.writeFiles_files, if_neg (certPath_ne_keyPath _ _), if_pos rfl]
    rfl
  refine ⟨hold, hnew, ?_, fun h => ?_⟩
  · rw [Manager.store_files, Manager.writeFiles_files, if_pos rfl]
    exact hkey
  · rw [h.restored .writeKey rfl, hold] at hnew
    exact absurd hnew (by decide)

lemma parseAndValidateCert_cert {cert : Certificate} {key : Key}
    (h : parseAndValidateCert pki pair = .ok (cert, key)) :
    (pki.pemDecode pair.certPEM).bind pki.parseCertificate = some cert := by
  simp only [parseAndValidateCert] at h
  split at h
  · cases h
  · rename_i block hblock
    split at h
    · cases h
    · rename_i cert' hcert
      split at h
      · cases h
      · split at h
        · cases h
        · cases h
          rw [hblock]
          exact hcert

lemma usable_iff {cert : Certificate} {key : Key}
    (h : parseAndValidateCert pki pair = .ok (cert, key)) :
    Usable pki domain pair ↔ pki.belongs cert key = true ∧ pki.validFor cert domain = true := by
  constructor
  · rintro ⟨cert', key', hparse, husable⟩
    obtain ⟨rfl, rfl⟩ := Prod.mk.inj (Except.ok.inj (h.symm.trans hparse))
    exact husable
  · exact fun husable => ⟨cert, key, h, husable⟩

lemma unusable_match_iff {parsed : Certificate × Key}
    (hparse : parseAndValidateCert pki pair = .ok parsed) (husable : ¬ Usable pki domain pair) :
    UploadsMatch pki m domain pair written ↔
      written ≠ .ok ∧ Untouched m domain pair written := by
  have hupload : uploadCustomCertificate pki m domain pair written =
      m.storeCertificateLocked pki domain pair written := by
    rw [uploadCustomCertificate, hparse]
  rcases Manager.store_cases pki m domain pair written with
    ⟨hfails, err, hstore⟩ | ⟨hok, entry, hstore⟩
  · have hwritten : written ≠ .ok := by
      rcases hfails with hne | hnone
      · exact hne
      · rw [parseAndValidateCert_cert hparse] at hnone
        cases hnone
    rw [and_iff_right hwritten, ← writeFiles_eq_iff]
    constructor
    · intro h
      have hsame := (h.rejected husable).2
      rwa [hupload, hstore] at hsame
    · intro hsame
      refine ⟨fun entry hentry => ?_, fun _ => ?_⟩
      · rw [hupload, hstore] at hentry
        cases hentry
      · rw [hupload, hstore]
        exact ⟨⟨err, rfl⟩, hsame⟩
  · have hwritten : written = .ok := by
      by_contra hne
      exact hok (.inl hne)
    refine iff_of_false (fun h => ?_) fun h => h.1 hwritten
    apply husable
    apply h.accepted entry
    rw [hupload, hstore]

/-- An upload is accepted just when the pair is usable, and otherwise changes nothing, unless the pair
can be read, is not usable, and something of it is written. -/
theorem uploads_match_iff (pki : Pki Certificate Key) (m : Manager) (domain : Bytes)
    (pair : KeyPair) (written : Written) :
    UploadsMatch pki m domain pair written ↔
      (∃ err, parseAndValidateCert pki pair = .error err) ∨ Usable pki domain pair ∨
        written ≠ .ok ∧ Untouched m domain pair written := by
  cases hparse : parseAndValidateCert pki pair with
  | error err =>
    have hupload : uploadCustomCertificate pki m domain pair written = (.error (.invalid err), m) := by
      rw [uploadCustomCertificate, hparse]
    refine iff_of_true ⟨fun entry hentry => ?_, fun _ => ?_⟩ (.inl ⟨err, rfl⟩)
    · rw [hupload] at hentry
      cases hentry
    · rw [hupload]
      exact ⟨⟨_, rfl⟩, rfl⟩
  | ok parsed =>
    have hread : ¬ ∃ err, Except.ok parsed = (.error err : Except Error (Certificate × Key)) := by
      rintro ⟨err, herr⟩
      cases herr
    by_cases husable : Usable pki domain pair
    · exact iff_of_true ⟨fun _ _ => husable, fun hnot => absurd husable hnot⟩ (.inr (.inl husable))
    · simp only [hread, husable, false_or]
      exact unusable_match_iff hparse husable

theorem upload_accepts_a_mismatch :
    ¬ Usable plainPki (ascii "a") ⟨ascii "b,x", ascii "k"⟩ ∧
      (∃ entry, (uploadCustomCertificate plainPki ⟨fun _ => none, fun _ => none⟩ (ascii "a")
        ⟨ascii "b,x", ascii "k"⟩ .ok).1 = .ok entry) ∧
      ¬ UploadsMatch plainPki ⟨fun _ => none, fun _ => none⟩ (ascii "a")
        ⟨ascii "b,x", ascii "k"⟩ .ok := by
  have hparse : parseAndValidateCert plainPki ⟨ascii "b,x", ascii "k"⟩ =
      .ok (ascii "b,x", ascii "k") := rfl
  have hnot : ¬ Usable plainPki (ascii "a") ⟨ascii "b,x", ascii "k"⟩ := by
    rw [usable_iff hparse]
    decide
  exact ⟨hnot, ⟨_, rfl⟩, fun h => hnot (h.accepted _ rfl)⟩

end OmniTun.Tls.Disk
