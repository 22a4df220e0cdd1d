import OmniTun.Tls.Renewal

/-! How many renewals of a domain run at a time. -/

namespace OmniTun.Tls

open OmniTun.Foundation Transition

variable {x509 : X509} {ι : Type} [DecidableEq ι]

def Call.renewal : Call → Option (Option ℕ)
  | .renewing marked => some marked
  | .renewed marked _ => some marked
  | .finishing marked => some marked
  | _ => none

abbrev World (ι : Type) : Type := Processes.World ι Call Domain

def managerStep (x509 : X509) : World ι → ι × Action → Option (World ι) :=
  Processes.step fun _ => next x509

def SingleRenewal (w : World ι) : Prop :=
  ∀ i j m m', (w.locals i).renewal = some m → (w.locals j).renewal = some m' → i = j

/-- The entry that a running renewal has marked is still there when another is to start. -/
def StillMarked (w : World ι) (a : ι × Action) : Prop :=
  a.2 = .renewCertificate → ∀ j marked, (w.locals j).renewal = some marked →
    ∃ ref, marked = some ref ∧ w.store.certificates = some ref

structure Marks (w : World ι) : Prop where
  marked : ∀ i ref, (w.locals i).renewal = some (some ref) →
    ∃ e, w.store.entry ref = some e ∧ e.renewing = true
  marking : ∀ ref e, w.store.certificates = some ref → w.store.entry ref = some e →
    e.renewing = true → ∃ i, (w.locals i).renewal = some (some ref)
  unmarked : ∀ i marked newEntry, w.locals i = .renewed marked newEntry →
    ∃ e, w.store.entry newEntry = some e ∧ e.renewing = false
  refers : ∀ ref, w.store.certificates = some ref → ∃ e, w.store.entry ref = some e

section

variable {w : World ι} {i : ι} {a : Action} {l : Call} {s : Domain}

def moved (w : World ι) (i : ι) (l : Call) (s : Domain) : World ι :=
  ⟨Function.update w.locals i l, s⟩

structure Quiet (w : World ι) (i : ι) (l : Call) (s : Domain) : Prop where
  renewal : l.renewal = (w.locals i).renewal
  unmarked : ∀ marked newEntry, l = .renewed marked newEntry →
    ∃ e, s.entry newEntry = some e ∧ e.renewing = false
  entries : ∀ ref e, w.store.entry ref = some e → s.entry ref = some e
  current : ∀ ref, s.certificates = some ref → w.store.certificates = some ref ∨
    ∃ e, s.entry ref = some e ∧ e.renewing = false

lemma renewal_moved {j : ι} : ((moved w i l s).locals j).renewal =
    if j = i then l.renewal else (w.locals j).renewal := by
  by_cases hj : j = i
  · simp [moved, hj]
  · simp [moved, hj]

lemma single_moved (h : SingleRenewal w)
    (hl : ∀ m, l.renewal = some m → ∃ m', (w.locals i).renewal = some m') :
    SingleRenewal (moved w i l s) := by
  have hold : ∀ j m, ((moved w i l s).locals j).renewal = some m →
      ∃ m', (w.locals j).renewal = some m' := by
    intro j m hj
    rw [renewal_moved] at hj
    split_ifs at hj with hji
    · rw [hji]
      exact hl m hj
    · exact ⟨m, hj⟩
  intro j k m m' hj hk
  obtain ⟨n, hn⟩ := hold j m hj
  obtain ⟨n', hn'⟩ := hold k m' hk
  exact h j k n n' hn hn'

lemma Quiet.single (hq : Quiet w i l s) (h : SingleRenewal w) : SingleRenewal (moved w i l s) :=
  single_moved h fun m hm => ⟨m, hq.renewal ▸ hm⟩

lemma Quiet.renewal_eq (hq : Quiet w i l s) (j : ι) :
    ((moved w i l s).locals j).renewal = (w.locals j).renewal := by
  rw [renewal_moved]
  split_ifs with hj
  · rw [hj, hq.renewal]
  · rfl

lemma Quiet.marks (hq : Quiet w i l s) (h : Marks w) : Marks (moved w i l s) where
  marked := by
    intro j ref hj
    rw [hq.renewal_eq] at hj
    obtain ⟨e, he, hrenewing⟩ := h.marked j ref hj
    exact ⟨e, hq.entries ref e he, hrenewing⟩
  marking := by
    intro ref e hc he hrenewing
    rcases hq.current ref hc with hold | ⟨e', he', hnot⟩
    · obtain ⟨e', he'⟩ := h.refers ref hold
      have hsame : s.entry ref = some e := he
      rw [hq.entries ref e' he'] at hsame
      rw [Option.some.inj hsame] at he'
      obtain ⟨j, hj⟩ := h.marking ref e hold he' hrenewing
      exact ⟨j, (hq.renewal_eq j).trans hj⟩
    · have hsame : s.entry ref = some e := he
      rw [he'] at hsame
      rw [Option.some.inj hsame, hrenewing] at hnot
      cases hnot
  unmarked := by
    intro j marked newEntry hj
    by_cases hji : j = i
    · subst hji
      exact hq.unmarked marked newEntry (by simpa [moved] using hj)
    · obtain ⟨e, he, hnot⟩ := h.unmarked j marked newEntry (by simpa [moved, hji] using hj)
      exact ⟨e, hq.entries newEntry e he, hnot⟩
  refers := by
    intro ref hc
    rcases hq.current ref hc with hold | ⟨e, he, -⟩
    · obtain ⟨e, he⟩ := h.refers ref hold
      exact ⟨e, hq.entries ref e he⟩
    · exact ⟨e, he⟩

omit [DecidableEq ι] in
lemma quiet_same (hr : l.renewal = (w.locals i).renewal)
    (hl : ∀ marked newEntry, l ≠ .renewed marked newEntry) : Quiet w i l w.store where
  renewal := hr
  unmarked marked newEntry h := absurd h (hl marked newEntry)
  entries _ _ h := h
  current _ h := .inl h

omit [DecidableEq ι] in
lemma quiet_store {pair : KeyPair} {uploaded : Bool} {written : Written}
    (hr : l.renewal = (w.locals i).renewal)
    (hl : ∀ marked newEntry, l = .renewed marked newEntry →
      (w.store.storeCertificateLocked x509 pair uploaded written).1 = some newEntry) :
    Quiet w i l (w.store.storeCertificateLocked x509 pair uploaded written).2 := by
  rcases Domain.store_cases x509 pair uploaded written w.store with
    ⟨notAfter, -, -, hstore, -⟩ | ⟨-, hstore⟩
  · have hnew := Domain.entry_stored_new pair uploaded notAfter w.store
    rw [hstore] at hl ⊢
    refine ⟨hr, ?_, fun _ _ h => Domain.entry_stored h, ?_⟩
    · intro marked newEntry h
      rw [← Option.some.inj (hl marked newEntry h)]
      exact ⟨_, hnew, rfl⟩
    · intro ref hc
      refine .inr ?_
      rw [← Option.some.inj hc]
      exact ⟨_, hnew, rfl⟩
  · rw [hstore] at hl ⊢
    refine ⟨hr, ?_, fun _ _ h => h, fun _ h => .inl h⟩
    intro marked newEntry h
    cases hl marked newEntry h

omit [DecidableEq ι] in
lemma quiet_replace {marked : Option ℕ} {newEntry : ℕ} (h : Marks w)
    (hi : w.locals i = .renewed marked newEntry) :
    Quiet w i (.finishing marked) { w.store with certificates := some newEntry } where
  renewal := by
    rw [hi]
    rfl
  unmarked _ _ h := by cases h
  entries _ _ h := h
  current := by
    intro ref href
    refine .inr ?_
    rw [← Option.some.inj href]
    exact h.unmarked i marked newEntry hi

omit [DecidableEq ι] in
lemma step_quiet (hstep : Step x509 a (w.locals i) w.store l s) (h : Marks w) :
    Quiet w i l s ∨ (∃ marked, w.locals i = .finishing marked ∧ l = .idle ∧
        s = w.store.setRenewing false ∧ a ≠ .renewCertificate) ∨
      (w.locals i).renewal = none ∧ l = .renewing w.store.certificates ∧
        s = w.store.setRenewing true ∧ a = .renewCertificate ∧
        w.store.current.any CertEntry.renewing = false := by
  generalize hl : w.locals i = l₀ at hstep
  generalize hs : w.store = s₀ at hstep
  have hsame : ∀ {l : Call}, l.renewal = l₀.renewal →
      (∀ marked newEntry, l ≠ .renewed marked newEntry) → Quiet w i l s₀ := by
    intro l hr hne
    rw [← hs]
    exact quiet_same (by rw [hl, hr]) hne
  cases hstep with
  | selfSignedCert h => rcases h with rfl | rfl <;> exact .inl (hsame rfl (by simp))
  | checkAndRenew h => rcases h with rfl | rfl <;> exact .inl (hsame rfl (by simp))
  | refuse hidle _ => rcases hidle with rfl | rfl <;> exact .inl (hsame rfl (by simp))
  | start hidle hfree =>
    refine .inr (.inr ⟨?_, rfl, rfl, rfl, hfree⟩)
    rcases hidle with rfl | rfl <;> rfl
  | notGenerated | refuseUpload => exact .inl (hsame rfl (by simp))
  | notRenewed => exact .inl (hsame rfl (by simp))
  | generate | upload | renewFails =>
    rw [← hs]
    exact .inl (quiet_store (by simp [hl, Call.renewal]) (by simp))
  | renew hnew =>
    rw [← hs] at hnew ⊢
    refine .inl (quiet_store (by rw [hl]; rfl) fun marked newEntry h => ?_)
    cases h
    exact hnew
  | replace =>
    rw [← hs]
    exact .inl (quiet_replace h hl)
  | reset => exact .inr (.inl ⟨_, rfl, rfl, rfl, by simp⟩)

lemma marks_reset {marked : Option ℕ} (h : Marks w) (hsingle : SingleRenewal w)
    (hi : w.locals i = .finishing marked) : Marks (moved w i .idle (w.store.setRenewing false)) := by
  have hrunning : (w.locals i).renewal = some marked := by rw [hi]; rfl
  have hnone : ∀ j m, ((moved w i .idle (w.store.setRenewing false)).locals j).renewal ≠ some m := by
    intro j m hj
    rw [renewal_moved] at hj
    split_ifs at hj with hji
    · cases hj
    · exact hji (hsingle j i m marked hj hrunning)
  obtain ⟨hcertificates, -, -⟩ := w.store.setRenewing_frame false
  constructor
  · intro j ref hj
    exact absurd hj (hnone j _)
  · intro ref e hc he hrenewing
    have hold : w.store.certificates = some ref := hcertificates.symm.trans hc
    have hentry : (w.store.setRenewing false).entry ref = some e := he
    rw [Domain.entry_setRenewing, if_pos hold] at hentry
    obtain ⟨e', -, rfl⟩ := Option.map_eq_some_iff.mp hentry
    cases hrenewing
  · intro j m newEntry hj
    exact absurd (by rw [hj]; rfl) (hnone j m)
  · intro ref hc
    obtain ⟨e, he⟩ := h.refers ref (hcertificates.symm.trans hc)
    obtain ⟨e', he', -⟩ := Domain.entry_setRenewing_some he
    exact ⟨e', he'⟩

lemma marks_start (h : Marks w) (hi : (w.locals i).renewal = none)
    (hsingle : SingleRenewal
      (moved w i (.renewing w.store.certificates) (w.store.setRenewing true))) :
    Marks (moved w i (.renewing w.store.certificates) (w.store.setRenewing true)) := by
  have hself : ((moved w i (.renewing w.store.certificates) (w.store.setRenewing true)).locals
      i).renewal = some w.store.certificates := by
    rw [renewal_moved, if_pos rfl]
    rfl
  have honly : ∀ j m, ((moved w i (.renewing w.store.certificates)
      (w.store.setRenewing true)).locals j).renewal = some m → m = w.store.certificates := by
    intro j m hj
    obtain rfl := hsingle j i m _ hj hself
    rw [hself] at hj
    exact (Option.some.inj hj).symm
  obtain ⟨hcertificates, -, -⟩ := w.store.setRenewing_frame true
  constructor
  · intro j ref hj
    have hc : w.store.certificates = some ref := (honly j _ hj).symm
    obtain ⟨e, he⟩ := h.refers ref hc
    refine ⟨{ e with renewing := true }, ?_, rfl⟩
    have hentry := Domain.entry_setRenewing (s := w.store) true ref
    rw [if_pos hc, he] at hentry
    exact hentry
  · intro ref e hc _ _
    refine ⟨i, ?_⟩
    rw [hself]
    exact congrArg some (hcertificates.symm.trans hc)
  · intro j m newEntry hj
    have hrenewed : ((moved w i (.renewing w.store.certificates)
        (w.store.setRenewing true)).locals j).renewal = some m := by rw [hj]; rfl
    obtain rfl := hsingle j i m _ hrenewed hself
    simp [moved] at hj
  · intro ref hc
    obtain ⟨e, he⟩ := h.refers ref (hcertificates.symm.trans hc)
    obtain ⟨e', he', -⟩ := Domain.entry_setRenewing_some he
    exact ⟨e', he'⟩

omit [DecidableEq ι] in
lemma stillMarked_of_refused (h : Marks w) (hsingle : SingleRenewal w)
    (hrefused : w.store.current.any CertEntry.renewing = true) : StillMarked w (i, a) := by
  intro _ j marked hj
  obtain ⟨e, he, hrenewing⟩ := (Option.any_eq_true _ _).mp hrefused
  obtain ⟨ref, hc, hentry⟩ := Option.bind_eq_some_iff.mp he
  obtain ⟨k, hk⟩ := h.marking ref e hc hentry hrenewing
  obtain rfl := hsingle j k _ _ hj hk
  rw [hj] at hk
  exact ⟨ref, Option.some.inj hk, hc⟩

lemma step_single (hstep : Step x509 a (w.locals i) w.store l s) (h : Marks w)
    (hsingle : SingleRenewal w) :
    (SingleRenewal (moved w i l s) ↔ StillMarked w (i, a)) ∧
      (SingleRenewal (moved w i l s) → Marks (moved w i l s)) := by
  rcases step_quiet hstep h with hquiet | ⟨marked, hi, rfl, rfl, ha⟩ | ⟨hi, rfl, rfl, rfl, hfree⟩
  · refine ⟨iff_of_true (hquiet.single hsingle) ?_, fun _ => hquiet.marks h⟩
    generalize hl : w.locals i = l₀ at hstep
    generalize hs : w.store = s₀ at hstep
    cases hstep with
    | refuse _ hrefused =>
      rw [← hs] at hrefused
      exact stillMarked_of_refused h hsingle hrefused
    | start hidle _ =>
      have hnone : (w.locals i).renewal = none := by
        rw [hl]
        rcases hidle with rfl | rfl <;> rfl
      have hstarted := hquiet.renewal
      rw [hnone] at hstarted
      cases hstarted
    | _ => exact fun hrenew => by cases hrenew
  · have hrenewal : Call.idle.renewal = none := rfl
    have hnext : SingleRenewal (moved w i .idle (w.store.setRenewing false)) :=
      single_moved hsingle fun m hm => by cases hrenewal.symm.trans hm
    exact ⟨iff_of_true hnext fun hrenew => absurd hrenew ha, fun _ => marks_reset h hsingle hi⟩
  · refine ⟨?_, marks_start h hi⟩
    constructor
    · intro hnext _ j m hj
      have hji : j ≠ i := by
        rintro rfl
        rw [hi] at hj
        cases hj
      have hmoved : ((moved w i (.renewing w.store.certificates)
          (w.store.setRenewing true)).locals j).renewal = some m := by
        rw [renewal_moved, if_neg hji, hj]
      have hself : ((moved w i (.renewing w.store.certificates)
          (w.store.setRenewing true)).locals i).renewal = some w.store.certificates := by
        rw [renewal_moved, if_pos rfl]
        rfl
      exact absurd (hnext j i m _ hmoved hself) hji
    · -- A renewal that still runs would have the entry marked, and this one would be refused.
      intro hmarked
      have hnone : ∀ j m, (w.locals j).renewal ≠ some m := by
        intro j m hj
        obtain ⟨ref, rfl, hc⟩ := hmarked rfl j m hj
        obtain ⟨e, he, hrenewing⟩ := h.marked j ref hj
        simp [Domain.current_eq hc, he, hrenewing] at hfree
      intro j k m m' hj hk
      rw [renewal_moved] at hj hk
      split_ifs at hj hk with hji hki
      · exact hji.trans hki.symm
      · exact absurd hk (hnone k m')
      · exact absurd hj (hnone j m)
      · exact absurd hj (hnone j m)

end

def begun (fullchain : Option CertFile) (privkey : Option Bytes) : World ι :=
  ⟨fun _ => .idle, .started fullchain privkey⟩

/-- The three promises hold in every state of a run exactly as long as no step breaks its own. -/
theorem renewal_promises_iff (x509 : X509) (fullchain : Option CertFile) (privkey : Option Bytes)
    (as : List (ι × Action)) :
    (Always (managerStep x509) SingleRenewal (begun fullchain privkey) as ↔
        Guarded (managerStep x509) StillMarked (begun fullchain privkey) as) ∧
      (Always (managerStep x509) (fun w => Describes x509 w.store) (begun fullchain privkey) as ↔
        Guarded (managerStep x509) (fun w a => DescribesAfter x509 w.store a.2 (w.locals a.1))
          (begun fullchain privkey) as) ∧
      (Always (managerStep x509) (fun w => UploadStays w.store) (begun fullchain privkey) as ↔
        Guarded (managerStep x509) (fun w a => SparesUpload w.store a.2 (w.locals a.1))
          (begun fullchain privkey) as) := by
  have hsingle : SingleRenewal (begun fullchain privkey : World ι) := fun i j m m' h => by cases h
  have hmarks : Marks (begun fullchain privkey : World ι) :=
    ⟨fun i ref h => (Option.some_ne_none _ h.symm).elim,
      fun ref e h => (Option.some_ne_none _ h.symm).elim, fun i m n h => (by cases h),
      fun ref h => (Option.some_ne_none _ h.symm).elim⟩
  have hholds : Processes.Holds Shared (fun (_ : ι) l s => Own l s) (begun fullchain privkey) :=
    ⟨fun ref h => (Option.some_ne_none ref h.symm).elim, fun i m n h => by cases h⟩
  have hnon : Processes.NonInterfering (fun _ : ι => next x509) Shared fun _ l s => Own l s :=
    { own := fun hs hown h => ⟨step_shared (next_step h) hs, step_own (next_step h)⟩
      other := fun _ _ _ hm h => own_of_extends (step_extends (next_step h)) hm }
  refine ⟨?_, ?_, ?_⟩
  · apply always_iff_guarded hsingle hmarks
    intro w a w' hw hq h
    obtain ⟨l, s, hnext, rfl⟩ := Processes.step_eq_some h
    exact step_single (next_step hnext) hq hw
  · apply hnon.always_iff_guarded (fun e he => by cases he) hholds
    intro w i a l s _ hp hnext
    exact step_describes (next_step hnext) hp
  · apply hnon.always_iff_guarded (fun ref h => (Option.some_ne_none ref h.symm).elim) hholds
    intro w i a l s hw hp hnext
    exact step_uploadStays (next_step hnext) hw.1 (hw.2 i) hp

def firstByte : X509 where
  notAfter pem := pem.head?.map fun b => b.toNat
  validKey _ := true

def overtaken : List (ℕ × Action) :=
  [(0, .renewCertificate), (1, .renewCertificate),
    (0, .generateAndStoreCert (some ⟨[1], [0]⟩) .ok), (2, .uploadCustomCertificate ⟨[2], [0]⟩ .ok),
    (0, .replace)]

theorem renewal_promises_fail :
    ¬ Always (managerStep firstByte) SingleRenewal (begun none none : World ℕ) overtaken ∧
      ¬ Always (managerStep firstByte) (fun w => Describes firstByte w.store)
        (begun none none : World ℕ) overtaken ∧
      ¬ Always (managerStep firstByte) (fun w => UploadStays w.store)
        (begun none none : World ℕ) overtaken := by
  have hrun : (run (managerStep firstByte) (begun none none : World ℕ) overtaken).map
      (fun w => ((w.locals 0).renewal, (w.locals 1).renewal, w.store.current,
        w.store.fullchain, w.store.lastUpload, w.store.certificates)) =
      some (some none, some none, some ⟨1, true, false, false⟩, some ⟨[2], true⟩, some 1, some 0) :=
    rfl
  obtain ⟨w, hw, hstate⟩ := Option.map_eq_some_iff.mp hrun
  simp only [Prod.mk.injEq] at hstate
  obtain ⟨hfirst, hsecond, hcurrent, hfile, hupload, hcertificates⟩ := hstate
  refine ⟨fun h => ?_, fun h => ?_, fun h => ?_⟩
  · have hsame := (h.last hw) 0 1 _ _ hfirst hsecond
    cases hsame
  · have hnotAfter := (h.last hw) _ hcurrent
    simp [Domain.fileNotAfter, hfile, firstByte] at hnotAfter
  · have hstays := ((h.last hw) 1 hupload).1
    rw [hcertificates] at hstays
    cases hstays

end OmniTun.Tls
