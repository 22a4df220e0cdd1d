import OmniTun.Foundation.Transition
import OmniTun.Tls.Paths
import OmniTun.Tls.Steps

/-! What the manager keeps for one domain, and its calls as runs of that domain alone. -/

namespace OmniTun.Tls.Disk

open OmniTun.Foundation Transition

section Definitions

variable {Certificate Key : Type} (pki : Pki Certificate Key)

def Pki.x509 : X509 where
  notAfter pem := ((pki.pemDecode pem).bind pki.parseCertificate).map pki.notAfter
  validKey pem := ((pki.pemDecode pem).bind fun block =>
    (pki.parsePKCS8PrivateKey block).or
      ((pki.parsePKCS1PrivateKey block).or (pki.parseECPrivateKey block))).isSome

def CertEntry.view (e : CertEntry) : ℤ × Bool × Bool := (e.notAfter, e.autoRenew, e.renewing)

structure Shows (m : Manager) (domain : Bytes) (s : Domain) : Prop where
  entry : s.current.map (fun e => (e.notAfter, e.autoRenew, e.renewing)) =
    (m.certificates domain).map CertEntry.view
  reference : s.current = none → s.certificates = none
  fullchain : s.fullchain.map CertFile.pem = m.files (certPath domain)
  privkey : s.privkey = m.files (keyPath domain)

def Call.start : Call → Action
  | .selfSigned _ _ => .selfSignedCert
  | .renew _ _ => .renewCertificate
  | .upload pair written => .uploadCustomCertificate pair written

def Runs (x509 : X509) (s : Domain) (as : List Action) (s' : Domain) : Prop :=
  run (fun (p : Tls.Call × Domain) a => next x509 a p.1 p.2) (.idle, s) as = some (.idle, s')

end Definitions

section Views

variable {Certificate Key : Type} {pki : Pki Certificate Key} {m : Manager} {domain : Bytes}
  {s : Domain} {pair : KeyPair} {written : Written}

lemma put_certificates (m : Manager) (domain : Bytes) (entry : CertEntry) :
    (m.put domain entry).certificates domain = some entry := Function.update_self ..

lemma put_stored {entry : CertEntry} (h : m.certificates domain = some entry) :
    m.put domain entry = m := by
  rw [Manager.put, ← h, Function.update_eq_self]

lemma shows_writeFiles (pair : KeyPair) (written : Written) (uploaded : Bool)
    (h : Shows m domain s) :
    Shows (m.writeFiles domain pair written) domain (s.writeFiles pair uploaded written) := by
  refine ⟨?_, h.reference, ?_, ?_⟩
  · rw [Manager.writeFiles_certificates]
    exact h.entry
  · rw [Manager.writeFiles_files, if_neg (certPath_ne_keyPath domain domain), if_pos rfl,
      ← h.fullchain, Domain.writeFiles]
    cases written.certFile pair.certPEM <;> rfl
  · rw [Manager.writeFiles_files, if_pos rfl, ← h.privkey]
    rfl

lemma stepFails_iff : Manager.StepFails pki pair written ↔
    Domain.StoreFails pki.x509 pair written := by
  have hnone : pki.x509.notAfter pair.certPEM = none ↔
      (pki.pemDecode pair.certPEM).bind pki.parseCertificate = none := Option.map_eq_none_iff
  rw [Manager.StepFails, Domain.StoreFails, hnone]
  exact imp_iff_not_or.symm

lemma shows_store (pki : Pki Certificate Key) (pair : KeyPair) (written : Written) (uploaded : Bool)
    (h : Shows m domain s) :
    (∃ err m' s', m.storeCertificateLocked pki domain pair written = (.error err, m') ∧
      s.storeCertificateLocked pki.x509 pair uploaded written = (none, s') ∧ Shows m' domain s') ∨
    ∃ entry ref m' s', m.storeCertificateLocked pki domain pair written = (.ok entry, m') ∧
      s.storeCertificateLocked pki.x509 pair uploaded written = (some ref, s') ∧
      m'.certificates domain = some entry ∧ s'.certificates = some ref ∧ Shows m' domain s' := by
  have hfiles := shows_writeFiles pair written uploaded h
  rcases Domain.store_cases pki.x509 pair uploaded written s with
    ⟨notAfter, -, hparse, hstore, rfl⟩ | ⟨hfails, hstore⟩
  · obtain ⟨cert, hdecoded, rfl⟩ := Option.map_eq_some_iff.mp hparse
    obtain ⟨block, hblock, hcert⟩ := Option.bind_eq_some_iff.mp hdecoded
    let entry : CertEntry :=
      ⟨domain, certPath domain, keyPath domain, pki.notAfter cert, true, false⟩
    have hput : m.storeCertificateLocked pki domain pair .ok =
        (.ok entry, (m.writeFiles domain pair .ok).put domain entry) := by
      simp only [Manager.storeCertificateLocked, hblock, hcert, entry]
    right
    refine ⟨entry, s.entries.length, _, _, hput, hstore, ?_, rfl, ?_, ?_, ?_, ?_⟩
    · exact put_certificates _ domain entry
    · rw [Domain.current_eq rfl, Domain.entry_stored_new, put_certificates]
      rfl
    · intro hnone
      rw [Domain.current_eq rfl, Domain.entry_stored_new] at hnone
      cases hnone
    · exact hfiles.fullchain
    · exact hfiles.privkey
  · rcases Manager.store_cases pki m domain pair written with ⟨-, err, herr⟩ | ⟨hok, -⟩
    · exact .inl ⟨err, _, _, herr, hstore, hfiles⟩
    · exact absurd (stepFails_iff.mpr hfails) hok

lemma shows_setRenewing (b : Bool) (h : Shows m domain s) :
    Shows (m.setRenewing domain b) domain (s.setRenewing b) := by
  obtain ⟨hrefs, hfullchain, -⟩ := s.setRenewing_frame b
  have hcurrent : (s.setRenewing b).current =
      s.current.map fun e => { e with renewing := b } := by
    rw [Domain.current, Domain.current, hrefs]
    cases href : s.certificates with
    | none => rfl
    | some ref => rw [Option.bind_some, Option.bind_some, Domain.entry_setRenewing, if_pos href]
  have hprivkey : (s.setRenewing b).privkey = s.privkey := by
    rw [Domain.setRenewing]
    split <;> rfl
  refine ⟨?_, ?_, ?_, ?_⟩
  · have hentry := h.entry
    rw [hcurrent, Manager.setRenewing]
    cases hm : m.certificates domain with
    | none =>
      rw [hm, Option.map_none, Option.map_eq_none_iff] at hentry
      rw [hentry, hm]
      rfl
    | some entry =>
      rw [hm] at hentry
      obtain ⟨e, he, hview⟩ := Option.map_eq_some_iff.mp hentry
      simp only [CertEntry.view, Prod.mk.injEq] at hview
      simp [he, Manager.put, CertEntry.view, hview]
  · rw [hcurrent, hrefs, Option.map_eq_none_iff]
    exact h.reference
  · rw [setRenewing_files, hfullchain]
    exact h.fullchain
  · rw [setRenewing_files, hprivkey]
    exact h.privkey

lemma isSome_certificates (h : Shows m domain s) :
    s.certificates.isSome = (m.certificates domain).isSome := by
  have hentry := congrArg Option.isSome h.entry
  rw [Option.isSome_map, Option.isSome_map] at hentry
  rw [← hentry]
  cases hc : s.current with
  | none =>
    rw [h.reference hc]
    rfl
  | some e =>
    cases hr : s.certificates with
    | none => simp [Domain.current, hr] at hc
    | some ref => rfl

lemma any_renewing (h : Shows m domain s) :
    s.current.any Tls.CertEntry.renewing = (m.certificates domain).any CertEntry.renewing := by
  have hany := congrArg (fun o : Option (ℤ × Bool × Bool) => o.any fun v => v.2.2) h.entry
  simpa [Option.any_map, Function.comp_def, CertEntry.view] using hany

lemma shows_generate (pki : Pki Certificate Key) (generated : Except Error KeyPair)
    (written : Written) (h : Shows m domain s) :
    (∃ err m', generateAndStoreCert pki m domain generated written = (.error err, m') ∧
      ∃ s', (∀ marked, next pki.x509 (.generateAndStoreCert generated.toOption written)
        (.renewing marked) s = some (.finishing marked, s')) ∧
        next pki.x509 (.generateAndStoreCert generated.toOption written) .generating s =
          some (.idle, s') ∧ Shows m' domain s') ∨
    ∃ entry m', generateAndStoreCert pki m domain generated written = (.ok entry, m') ∧
      m'.certificates domain = some entry ∧
      ∃ ref s', (∀ marked, next pki.x509 (.generateAndStoreCert generated.toOption written)
        (.renewing marked) s = some (.renewed marked ref, s')) ∧
        next pki.x509 (.generateAndStoreCert generated.toOption written) .generating s =
          some (.idle, s') ∧ s'.certificates = some ref ∧ Shows m' domain s' := by
  cases generated with
  | error err => exact .inl ⟨err, m, rfl, s, fun _ => rfl, rfl, h⟩
  | ok pair =>
    rcases shows_store pki pair written false h with
      ⟨err, m', s', hm, hs, hshows⟩ | ⟨entry, ref, m', s', hm, hs, hentry, href, hshows⟩
    · refine .inl ⟨err, m', hm, s', fun marked => ?_, ?_, hshows⟩
      · simp only [Except.toOption, next, hs]
      · simp only [Except.toOption, next, hs]
    · refine .inr ⟨entry, m', hm, hentry, ref, s', fun marked => ?_, ?_, href, hshows⟩
      · simp only [Except.toOption, next, hs]
      · simp only [Except.toOption, next, hs]

lemma eq_of_file {d d' file : Bytes} (hfile : FilePath.Route.Plain file)
    (h : (FilePath.Route.mk (dirRoute d).up ((dirRoute d).down ++ [file])).text =
      (FilePath.Route.mk (dirRoute d').up ((dirRoute d').down ++ [file])).text) :
    certDir d = certDir d' := by
  have hroute := FilePath.Route.text_inj ((dirRoute_good d).append hfile)
    ((dirRoute_good d').append hfile) h
  obtain ⟨hup, hdown⟩ := FilePath.Route.mk.inj hroute
  rw [certDir_eq, certDir_eq, FilePath.Route.ext hup (List.append_cancel_right hdown)]

lemma certDir_of_certPath {d d' : Bytes} (h : certPath d = certPath d') :
    certDir d = certDir d' := by
  rw [certPath_eq, certPath_eq] at h
  exact eq_of_file (by decide) h

lemma certDir_of_keyPath {d d' : Bytes} (h : keyPath d = keyPath d') : certDir d = certDir d' := by
  rw [keyPath_eq, keyPath_eq] at h
  exact eq_of_file (by decide) h

section Others

variable {d : Bytes} {generated : Except Error KeyPair}

lemma put_other (m : Manager) (hne : domain ≠ d) (entry : CertEntry) :
    (m.put d entry).certificates domain = m.certificates domain := Function.update_of_ne hne ..

lemma setRenewing_other (m : Manager) (hne : domain ≠ d) (b : Bool) :
    (m.setRenewing d b).certificates domain = m.certificates domain := by
  rw [Manager.setRenewing]
  split
  · rfl
  · exact put_other m hne _

lemma store_other (hne : domain ≠ d) :
    (m.storeCertificateLocked pki d pair written).2.certificates domain =
      m.certificates domain := by
  rcases Manager.store_cases pki m d pair written with ⟨-, err, h⟩ | ⟨-, entry, h⟩
  · rw [h, Manager.writeFiles_certificates]
  · rw [h, put_other _ hne, Manager.writeFiles_certificates]

lemma generate_other (hne : domain ≠ d) :
    (generateAndStoreCert pki m d generated written).2.certificates domain =
      m.certificates domain := by
  cases generated with
  | error err => rfl
  | ok pair => exact store_other hne

lemma run_certificates (c : Call) (hne : domain ≠ d) :
    (c.run pki m d).certificates domain = m.certificates domain := by
  cases c with
  | selfSigned generated written =>
    simp only [Call.run, selfSignedCert]
    split
    · rfl
    · exact generate_other hne
  | renew generated written =>
    simp only [Call.run, Disk.renewCertificate]
    split_ifs
    · rfl
    · have hother : (generateAndStoreCert pki (m.setRenewing d true) d generated
          written).2.certificates domain = m.certificates domain := by
        rw [generate_other hne, setRenewing_other m hne]
      split
      · rename_i err m' heq
        rw [heq] at hother
        rw [setRenewing_other m' hne, hother]
      · rename_i entry m' heq
        rw [heq] at hother
        rw [setRenewing_other _ hne, put_other m' hne, hother]
  | upload pair written =>
    simp only [Call.run, uploadCustomCertificate]
    split
    · rfl
    · exact store_other hne

end Others

lemma parse_cases (pki : Pki Certificate Key) (pair : KeyPair) :
    (pki.x509.notAfter pair.certPEM = none ∨ pki.x509.validKey pair.keyPEM = false) ∧
        (∃ err, parseAndValidateCert pki pair = .error err) ∨
      ¬ (pki.x509.notAfter pair.certPEM = none ∨ pki.x509.validKey pair.keyPEM = false) ∧
        ∃ found, parseAndValidateCert pki pair = .ok found := by
  cases hcert : pki.pemDecode pair.certPEM with
  | none =>
    exact .inl ⟨.inl (by simp [Pki.x509, hcert]), .decodeCert, by
      simp only [parseAndValidateCert, hcert]⟩
  | some certBlock =>
    cases hparsed : pki.parseCertificate certBlock with
    | none =>
      exact .inl ⟨.inl (by simp [Pki.x509, hcert, hparsed]), .parseCert, by
        simp only [parseAndValidateCert, hcert, hparsed]⟩
    | some cert =>
      cases hkey : pki.pemDecode pair.keyPEM with
      | none =>
        exact .inl ⟨.inr (by simp [Pki.x509, hkey]), .decodeKey, by
          simp only [parseAndValidateCert, hcert, hparsed, hkey]⟩
      | some keyBlock =>
        cases hprivate : (pki.parsePKCS8PrivateKey keyBlock).or
            ((pki.parsePKCS1PrivateKey keyBlock).or (pki.parseECPrivateKey keyBlock)) with
        | none =>
          exact .inl ⟨.inr (by simp [Pki.x509, hkey, hprivate]), .parseKey, by
            simp only [parseAndValidateCert, hcert, hparsed, hkey, hprivate]⟩
        | some privKey =>
          exact .inr ⟨by simp [Pki.x509, hcert, hparsed, hkey, hprivate], (cert, privKey), by
            simp only [parseAndValidateCert, hcert, hparsed, hkey, hprivate]⟩

end Views

section Runs

variable {Certificate Key : Type} (pki : Pki Certificate Key) {m : Manager} {domain : Bytes}
  {s s' s'' : Domain}

lemma Runs.append {x509 : X509} {as bs : List Action} (h : Runs x509 s as s')
    (h' : Runs x509 s' bs s'') : Runs x509 s (as ++ bs) s'' := by
  rw [Runs, run_append, h]
  exact h'

lemma selfSigned_runs (generated : Except Error KeyPair) (written : Written)
    (h : Shows m domain s) :
    ∃ as s', Runs pki.x509 s (.selfSignedCert :: as) s' ∧
      Shows (selfSignedCert pki m domain generated written).2 domain s' := by
  have hsome := isSome_certificates h
  cases hm : m.certificates domain with
  | some entry =>
    rw [hm] at hsome
    refine ⟨[], s, ?_, ?_⟩
    · simp [Runs, next, hsome]
    · simpa only [selfSignedCert, hm] using h
  | none =>
    rw [hm] at hsome
    have hstart : next pki.x509 .selfSignedCert .idle s = some (.generating, s) := by
      simp [next, hsome]
    have hgenerate : ∃ s', next pki.x509 (.generateAndStoreCert generated.toOption written)
        .generating s = some (.idle, s') ∧
        Shows (generateAndStoreCert pki m domain generated written).2 domain s' := by
      rcases shows_generate pki generated written h with
        ⟨err, m', hm', s', -, hs, hshows⟩ | ⟨entry, m', hm', -, ref, s', -, hs, -, hshows⟩
      · exact ⟨s', hs, hm' ▸ hshows⟩
      · exact ⟨s', hs, hm' ▸ hshows⟩
    obtain ⟨s', hs, hshows⟩ := hgenerate
    refine ⟨[.generateAndStoreCert generated.toOption written], s', ?_, ?_⟩
    · simp [Runs, hstart, hs]
    · simpa only [selfSignedCert, hm] using hshows

lemma renew_runs (generated : Except Error KeyPair) (written : Written) (h : Shows m domain s) :
    ∃ as s', Runs pki.x509 s (.renewCertificate :: as) s' ∧
      Shows (Disk.renewCertificate pki m domain generated written).2 domain s' := by
  have hany := any_renewing h
  cases hrenewing : (m.certificates domain).any CertEntry.renewing with
  | true =>
    rw [hrenewing] at hany
    refine ⟨[], s, ?_, ?_⟩
    · simp [Runs, next, Tls.renewCertificate, hany]
    · simpa only [Disk.renewCertificate, hrenewing, if_true] using h
  | false =>
    rw [hrenewing] at hany
    have hstart : next pki.x509 .renewCertificate .idle s =
        some (.renewing s.certificates, s.setRenewing true) := by
      simp [next, Tls.renewCertificate, hany]
    have hreset : ∀ marked s, next pki.x509 .reset (.finishing marked) s =
        some (.idle, s.setRenewing false) := fun _ _ => rfl
    rcases shows_generate pki generated written (shows_setRenewing true h) with
      ⟨err, m', hm', s', hs, -, hshows⟩ | ⟨entry, m', hm', hentry, ref, s', hs, -, href, hshows⟩
    · refine ⟨[.generateAndStoreCert generated.toOption written, .reset], s'.setRenewing false,
        ?_, ?_⟩
      · simp [Runs, hstart, hs, hreset]
      · simp only [Disk.renewCertificate, hrenewing, Bool.false_eq_true, if_false, hm']
        exact shows_setRenewing false hshows
    · have hreplace : ∀ marked, next pki.x509 .replace (.renewed marked ref) s' =
          some (.finishing marked, s') := by
        intro marked
        rw [next, ← href]
      refine ⟨[.generateAndStoreCert generated.toOption written, .replace, .reset],
        s'.setRenewing false, ?_, ?_⟩
      · simp [Runs, hstart, hs, hreplace, hreset]
      · simp only [Disk.renewCertificate, hrenewing, Bool.false_eq_true, if_false, hm',
          put_stored hentry]
        exact shows_setRenewing false hshows

lemma upload_runs (pair : KeyPair) (written : Written) (h : Shows m domain s) :
    ∃ s', Runs pki.x509 s [.uploadCustomCertificate pair written] s' ∧
      Shows (uploadCustomCertificate pki m domain pair written).2 domain s' := by
  rcases parse_cases pki pair with ⟨hpair, err, herr⟩ | ⟨hpair, found, hfound⟩
  · refine ⟨s, by simp [Runs, next, hpair], ?_⟩
    simpa only [uploadCustomCertificate, herr] using h
  · have hnext : next pki.x509 (.uploadCustomCertificate pair written) .idle s =
        some (.idle, (s.storeCertificateLocked pki.x509 pair true written).2) := by
      simp only [next, if_neg hpair]
    refine ⟨(s.storeCertificateLocked pki.x509 pair true written).2, by simp [Runs, hnext], ?_⟩
    simp only [uploadCustomCertificate, hfound]
    rcases shows_store pki pair written true h with
      ⟨err, m', s', hm, hs, hshows⟩ | ⟨entry, ref, m', s', hm, hs, -, -, hshows⟩
    · rw [hm, hs]
      exact hshows
    · rw [hm, hs]
      exact hshows

lemma call_runs (c : Call) (h : Shows m domain s) :
    ∃ as s', Runs pki.x509 s (c.start :: as) s' ∧ Shows (c.run pki m domain) domain s' := by
  cases c with
  | selfSigned generated written => exact selfSigned_runs pki generated written h
  | renew generated written => exact renew_runs pki generated written h
  | upload pair written => exact ⟨[], upload_runs pki pair written h⟩

lemma shows_other {d : Bytes} (c : Call) (hne : domain ≠ d) (hdir : certDir domain ≠ certDir d)
    (h : Shows m domain s) : Shows (c.run pki m d) domain s := by
  have hcert : certPath domain ≠ certPath d := fun heq => hdir (certDir_of_certPath heq)
  have hkey : keyPath domain ≠ keyPath d := fun heq => hdir (certDir_of_keyPath heq)
  refine ⟨?_, h.reference, ?_, ?_⟩
  · rw [run_certificates c hne]
    exact h.entry
  · rw [run_frame c hcert (certPath_ne_keyPath domain d)]
    exact h.fullchain
  · rw [run_frame c (certPath_ne_keyPath d domain).symm hkey]
    exact h.privkey

lemma shows_started (h : m.certificates domain = none) :
    Shows m domain (.started ((m.files (certPath domain)).map fun pem => ⟨pem, false⟩)
      (m.files (keyPath domain))) := by
  refine ⟨?_, fun _ => rfl, ?_, rfl⟩
  · rw [h]
    rfl
  · cases hfile : m.files (certPath domain) with
    | none => simp [Domain.started]
    | some pem => simp [Domain.started]

/-- Any calls, with any domains whose directories are their own, are a run of each domain. -/
theorem calls_run (calls : List (Bytes × Call)) (h : Shows m domain s)
    (hdirs : ∀ p ∈ calls, p.1 ≠ domain → certDir p.1 ≠ certDir domain) :
    ∃ as s', Runs pki.x509 s as s' ∧
      Shows (calls.foldl (fun m p => p.2.run pki m p.1) m) domain s' := by
  induction calls generalizing m s with
  | nil => exact ⟨[], s, rfl, h⟩
  | cons p calls ih =>
    have hrest : ∀ q ∈ calls, q.1 ≠ domain → certDir q.1 ≠ certDir domain :=
      fun q hq => hdirs q (List.mem_cons_of_mem p hq)
    rw [List.foldl_cons]
    by_cases hp : p.1 = domain
    · subst hp
      obtain ⟨as, s', hruns, hshows⟩ := call_runs pki p.2 h
      obtain ⟨bs, s'', hruns', hshows'⟩ := ih hshows hrest
      exact ⟨_, s'', hruns.append hruns', hshows'⟩
    · have hother := shows_other pki p.2 (Ne.symm hp) (hdirs p List.mem_cons_self hp).symm h
      exact ih hother hrest

end Runs

end OmniTun.Tls.Disk
