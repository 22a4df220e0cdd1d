import OmniTun.Tls.Manager

/-! The steps of the certificate manager, one by one, and what they leave alone. -/

namespace OmniTun.Tls

open OmniTun.Foundation

inductive Step (x509 : X509) : Action → Call → Domain → Call → Domain → Prop
  | selfSignedCert {l' s} (h : l' = .idle ∨ l' = .generating) :
    Step x509 .selfSignedCert .idle s l' s
  | checkAndRenew {now l' s} (h : l' = .idle ∨ l' = .due) :
    Step x509 (.checkAndRenew now) .idle s l' s
  | refuse {l s} (hl : l = .idle ∨ l = .due) (h : s.current.any CertEntry.renewing = true) :
    Step x509 .renewCertificate l s .idle s
  | start {l s} (hl : l = .idle ∨ l = .due) (h : s.current.any CertEntry.renewing = false) :
    Step x509 .renewCertificate l s (.renewing s.certificates) (s.setRenewing true)
  | notGenerated {written s} : Step x509 (.generateAndStoreCert none written) .generating s .idle s
  | generate {pair written s} :
    Step x509 (.generateAndStoreCert (some pair) written) .generating s .idle
      (s.storeCertificateLocked x509 pair false written).2
  | notRenewed {written marked s} :
    Step x509 (.generateAndStoreCert none written) (.renewing marked) s (.finishing marked) s
  | renewFails {pair written marked s}
    (h : (s.storeCertificateLocked x509 pair false written).1 = none) :
    Step x509 (.generateAndStoreCert (some pair) written) (.renewing marked) s (.finishing marked)
      (s.storeCertificateLocked x509 pair false written).2
  | renew {pair written marked newEntry s}
    (h : (s.storeCertificateLocked x509 pair false written).1 = some newEntry) :
    Step x509 (.generateAndStoreCert (some pair) written) (.renewing marked) s
      (.renewed marked newEntry) (s.storeCertificateLocked x509 pair false written).2
  | replace {marked newEntry s} :
    Step x509 .replace (.renewed marked newEntry) s (.finishing marked)
      { s with certificates := some newEntry }
  | reset {marked s} : Step x509 .reset (.finishing marked) s .idle (s.setRenewing false)
  | refuseUpload {pair written s}
    (h : x509.notAfter pair.certPEM = none ∨ x509.validKey pair.keyPEM = false) :
    Step x509 (.uploadCustomCertificate pair written) .idle s .idle s
  | upload {pair written s}
    (h : ¬ (x509.notAfter pair.certPEM = none ∨ x509.validKey pair.keyPEM = false)) :
    Step x509 (.uploadCustomCertificate pair written) .idle s .idle
      (s.storeCertificateLocked x509 pair true written).2

variable {x509 : X509} {s s' : Domain} {a : Action} {l l' : Call}

/-! Entries. -/

namespace Domain

lemma entry_setRenewing (b : Bool) (ref : ℕ) :
    (s.setRenewing b).entry ref =
      if s.certificates = some ref then (s.entry ref).map fun e => { e with renewing := b }
      else s.entry ref := by
  cases hc : s.certificates with
  | none => simp [setRenewing, hc]
  | some r =>
    by_cases hr : r = ref
    · subst hr
      simp [setRenewing, hc, entry]
    · simp [setRenewing, hc, entry, hr]

lemma setRenewing_frame (b : Bool) : (s.setRenewing b).certificates = s.certificates ∧
    (s.setRenewing b).fullchain = s.fullchain ∧ (s.setRenewing b).lastUpload = s.lastUpload := by
  unfold setRenewing
  split <;> exact ⟨rfl, rfl, rfl⟩

lemma entry_setRenewing_some {b : Bool} {ref : ℕ} {e : CertEntry} (h : s.entry ref = some e) :
    ∃ e', (s.setRenewing b).entry ref = some e' ∧ e'.notAfter = e.notAfter ∧
      e'.uploaded = e.uploaded := by
  rw [entry_setRenewing, h]
  split_ifs
  · exact ⟨_, rfl, rfl, rfl⟩
  · exact ⟨_, rfl, rfl, rfl⟩

lemma current_eq {ref : ℕ} (h : s.certificates = some ref) : s.current = s.entry ref := by
  simp [current, h]

def stored (pair : KeyPair) (uploaded : Bool) (notAfter : ℤ) (s : Domain) : Domain :=
  { s.writeFiles pair uploaded .ok with
    entries := s.entries ++ [⟨notAfter, true, false, uploaded⟩]
    certificates := some s.entries.length
    lastUpload := if uploaded then some s.entries.length else s.lastUpload }

lemma entry_stored {pair : KeyPair} {uploaded : Bool} {notAfter : ℤ} {ref : ℕ} {e : CertEntry}
    (h : s.entry ref = some e) : (s.stored pair uploaded notAfter).entry ref = some e := by
  have hlt : ref < s.entries.length := (List.getElem?_eq_some_iff.mp h).1
  have happend : (s.stored pair uploaded notAfter).entry ref = s.entry ref :=
    List.getElem?_append_left hlt
  rw [happend, h]

lemma entry_stored_new (pair : KeyPair) (uploaded : Bool) (notAfter : ℤ) (s : Domain) :
    (s.stored pair uploaded notAfter).entry s.entries.length =
      some ⟨notAfter, true, false, uploaded⟩ := by
  simp [stored, entry]

def StoreFails (x509 : X509) (pair : KeyPair) (written : Written) : Prop :=
  written = .ok → x509.notAfter pair.certPEM = none

lemma store_cases (x509 : X509) (pair : KeyPair) (uploaded : Bool) (written : Written) (s : Domain) :
    (∃ notAfter, ¬ StoreFails x509 pair written ∧ x509.notAfter pair.certPEM = some notAfter ∧
      s.storeCertificateLocked x509 pair uploaded written =
        (some s.entries.length, s.stored pair uploaded notAfter) ∧ written = .ok) ∨
    (StoreFails x509 pair written ∧
      s.storeCertificateLocked x509 pair uploaded written =
        (none, s.writeFiles pair uploaded written)) := by
  by_cases hok : written = .ok
  · subst hok
    cases hparse : x509.notAfter pair.certPEM with
    | none =>
      refine .inr ⟨fun _ => hparse, ?_⟩
      simp [storeCertificateLocked, hparse]
    | some notAfter =>
      refine .inl ⟨notAfter, fun h => ?_, rfl, ?_, rfl⟩
      · rw [h rfl] at hparse
        cases hparse
      · simp [storeCertificateLocked, hparse, stored, writeFiles]
  · refine .inr ⟨fun h => absurd h hok, ?_⟩
    simp [storeCertificateLocked, hok]

end Domain

lemma renewCertificate_step (hl : l = .idle ∨ l = .due) (h : renewCertificate s = (l', s')) :
    Step x509 .renewCertificate l s l' s' := by
  rw [renewCertificate] at h
  split_ifs at h with hrenewing
  · cases h
    exact .refuse hl hrenewing
  · cases h
    exact .start hl (Bool.eq_false_iff.mpr hrenewing)

lemma generateAndStoreCert_step {pair : Option KeyPair} {written : Written}
    (h : next x509 (.generateAndStoreCert pair written) l s = some (l', s')) :
    Step x509 (.generateAndStoreCert pair written) l s l' s' := by
  cases pair with
  | none =>
    cases l with
    | generating =>
      cases h
      exact .notGenerated
    | renewing marked =>
      cases h
      exact .notRenewed
    | _ => cases h
  | some pair =>
    cases l with
    | generating =>
      cases h
      exact .generate
    | renewing marked =>
      rw [next] at h
      cases hstore : s.storeCertificateLocked x509 pair false written with
      | mk result after =>
        have hafter : after = (s.storeCertificateLocked x509 pair false written).2 := by rw [hstore]
        cases result with
        | none =>
          simp only [hstore] at h
          cases h
          rw [hafter]
          exact .renewFails (by rw [hstore])
        | some newEntry =>
          simp only [hstore] at h
          cases h
          rw [hafter]
          exact .renew (by rw [hstore])
    | _ => cases h

lemma next_step (h : next x509 a l s = some (l', s')) : Step x509 a l s l' s' := by
  cases a with
  | selfSignedCert =>
    cases l with
    | idle =>
      cases h
      refine .selfSignedCert ?_
      split_ifs
      · exact .inl rfl
      · exact .inr rfl
    | _ => cases h
  | checkAndRenew now =>
    cases l with
    | idle =>
      cases h
      refine .checkAndRenew ?_
      split_ifs
      · exact .inr rfl
      · exact .inl rfl
    | _ => cases h
  | renewCertificate =>
    cases l with
    | idle => exact renewCertificate_step (.inl rfl) (Option.some.inj h)
    | due => exact renewCertificate_step (.inr rfl) (Option.some.inj h)
    | _ => cases h
  | generateAndStoreCert pair written => exact generateAndStoreCert_step h
  | replace =>
    cases l with
    | renewed marked newEntry =>
      cases h
      exact .replace
    | _ => cases h
  | reset =>
    cases l with
    | finishing marked =>
      cases h
      exact .reset
    | _ => cases h
  | uploadCustomCertificate pair written =>
    cases l with
    | idle =>
      rw [next] at h
      split_ifs at h with hinvalid
      · cases h
        exact .refuseUpload hinvalid
      · cases h
        exact .upload hinvalid
    | _ => cases h

end OmniTun.Tls
