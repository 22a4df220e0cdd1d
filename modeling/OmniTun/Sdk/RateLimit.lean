import Mathlib.Data.List.Perm.Subperm
import OmniTun.Foundation.Pacing
import OmniTun.Foundation.Processes
import OmniTun.Foundation.Progress
import OmniTun.Sdk.Requests

/-! The rate limit of a client in Go: requests that wait for one another at its mutex, sleep while
they hold it, and are tried again. -/

namespace OmniTun.Sdk.RateLimit

open OmniTun.Foundation Transition Processes Pacing

def maxDuration : ℤ := 9223372036854775807

def defaultRetryDelay : ℤ := 500000000

inductive Op
  | request
  | withRateLimit (interval : Option ℤ)

inductive Local
  | lock (attempt : ℕ)
  | check (attempt : ℕ)
  | sleep (attempt : ℕ) (duration : ℤ)
  | asleep (attempt : ℕ) (wake : ℤ)
  | stamp (attempt : ℕ)
  | unlock (attempt : ℕ)
  | send (attempt : ℕ)
  | pause (attempt : ℕ) (duration : ℤ)
  | paused (attempt : ℕ) (wake : ℤ)
  | limit (interval : Option ℤ)
  | returned
  deriving DecidableEq

/-- There is an interval when the rate is positive, and it is what the client makes of the rate.
`passed` is who got through the limiter and when, `earlier` how many of them before the interval was
set, and `sent` who has sent a request. -/
structure Client (ι : Type*) where
  now : ℤ
  rateMu : Option ι
  interval : Option ℤ
  rateLastCall : Option ℤ
  passed : List (ι × ℤ)
  earlier : ℕ
  sent : List ι

/-- What a step meets: how long it has been since the last one, whether a request can be made of the
URL, how it ends, and the header `Retry-After` where it can be parsed. -/
structure Env where
  elapsed : ℕ
  valid : Bool
  outcome : Outcome
  retryAfter : Option ℤ

def retryDelay (attempt : ℕ) (e : Env) : Option ℤ :=
  let delay := defaultRetryDelay * (attempt + 1)
  match e.outcome with
  | .sendError | .answerError => some delay
  | .answer a =>
    if a.status = 429 then some (e.retryAfter.getD delay)
    else if 500 ≤ a.status then some delay
    else none

def retry (attempt : ℕ) : Option ℤ → Local
  | none => .returned
  | some delay => if attempt + 1 < defaultRetries then .pause attempt delay else .returned

variable {ι : Type*}

namespace Client

def tick (c : Client ι) (elapsed : ℕ) : Client ι := { c with now := c.now + elapsed }

def pass (c : Client ι) (i : ι) : Client ι := { c with passed := c.passed ++ [(i, c.now)] }

def since (c : Client ι) : List ℤ := (c.passed.drop c.earlier).map Prod.snd

def elapsed (c : Client ι) (last : ℤ) : ℤ := min (c.now - last) maxDuration

def withRateLimit (c : Client ι) (interval : Option ℤ) : Client ι :=
  { c with interval := interval, rateLastCall := none, earlier := c.passed.length }

end Client

def checked (k : ℕ) (c : Client ι) (d : ℤ) : Local :=
  match c.rateLastCall with
  | none => .stamp k
  | some last => if c.elapsed last < d then .sleep k (d - c.elapsed last) else .stamp k

def act (i : ι) (e : Env) (l : Local) (c : Client ι) : Option (Local × Client ι) :=
  match l with
  | .lock k => if c.rateMu.isSome then none else some (.check k, { c with rateMu := some i })
  | .check k =>
    match c.interval with
    | none => some (.unlock k, c.pass i)
    | some d => some (checked k c d, c)
  | .sleep k duration => some (.asleep k (c.now + duration), c)
  | .asleep k wake => if wake ≤ c.now then some (.stamp k, c) else none
  | .stamp k => some (.unlock k, { c.pass i with rateLastCall := some c.now })
  | .unlock k => some (.send k, { c with rateMu := none })
  | .send k =>
    if e.valid then some (retry k (retryDelay k e), { c with sent := c.sent ++ [i] })
    else some (.returned, c)
  | .pause k duration => some (.paused k (c.now + duration), c)
  | .paused k wake => if wake ≤ c.now then some (.lock (k + 1), c) else none
  | .limit interval =>
    if c.rateMu.isSome then none else some (.returned, c.withRateLimit interval)
  | .returned => none

def next (i : ι) (e : Env) (l : Local) (c : Client ι) : Option (Local × Client ι) :=
  act i e l (c.tick e.elapsed)

def envAfter (elapsed : ℕ) : Env := ⟨elapsed, true, .sendError, none⟩

variable [DecidableEq ι]

def step : World ι Local (Client ι) → ι × Env → Option (World ι Local (Client ι)) :=
  Processes.step next

def Op.start : Op → Local
  | .request => .lock 0
  | .withRateLimit interval => .limit interval

def newClient (now : ℤ) (interval : Option ℤ) : Client ι := ⟨now, none, interval, none, [], 0, []⟩

def start (now : ℤ) (interval : Option ℤ) (ops : ι → Op) : World ι Local (Client ι) :=
  ⟨fun i => (ops i).start, newClient now interval⟩

/-! What is kept. -/

def Local.holds : Local → Bool
  | .check _ | .sleep _ _ | .asleep _ _ | .stamp _ | .unlock _ => true
  | _ => false

def Local.owes : Local → ℕ
  | .unlock _ | .send _ => 1
  | _ => 0

def Local.Tried (n : ℕ) : Local → Prop
  | .lock k | .check k | .sleep k _ | .asleep k _ | .stamp k => n = k ∧ k < defaultRetries
  | .unlock k | .send k => n = k + 1 ∧ k < defaultRetries
  | .pause k _ | .paused k _ => n = k + 1 ∧ k + 1 < defaultRetries
  | .limit _ | .returned => n ≤ defaultRetries

def Due (c : Client ι) (wake : ℤ) : Prop :=
  ∃ d, c.interval = some d ∧ ∀ last ∈ c.rateLastCall, last + d ≤ wake

def Waits (c : Client ι) : Local → Prop
  | .sleep _ duration => Due c (c.now + duration)
  | .asleep _ wake => Due c wake
  | .stamp _ => Due c c.now
  | _ => True

structure Own (i : ι) (l : Local) (c : Client ι) : Prop where
  holds : l.holds = true ↔ c.rateMu = some i
  waits : Waits c l
  owes : c.sent.count i + l.owes ≤ (c.passed.map Prod.fst).count i
  tried : l.Tried ((c.passed.map Prod.fst).count i)

structure Shared (start : ℤ) (c : Client ι) : Prop where
  begun : start ≤ c.now
  times : ∀ t ∈ c.passed.map Prod.snd, start ≤ t ∧ t ≤ c.now
  earlier : c.earlier ≤ c.passed.length
  last : c.interval.isSome → c.rateLastCall = c.since.getLast?
  spaced : ∀ d, c.interval = some d → Spaced d c.since

section

variable {c c' : Client ι} {i j : ι} {l l' : Local} {e : Env} {begin : ℤ}

omit [DecidableEq ι] in
lemma Due.mono {wake wake' : ℤ} (h : Due c wake) (hw : wake ≤ wake') : Due c wake' := by
  obtain ⟨d, hd, hlast⟩ := h
  exact ⟨d, hd, fun last hl => (hlast last hl).trans hw⟩

omit [DecidableEq ι] in
lemma Waits.tick (h : Waits c l) (n : ℕ) : Waits (c.tick n) l := by
  cases l with
  | sleep k duration => exact h.mono (by simp [Client.tick])
  | stamp k => exact h.mono (by simp [Client.tick])
  | asleep k wake => exact h
  | _ => trivial

lemma Own.tick (h : Own i l c) (n : ℕ) : Own i l (c.tick n) :=
  ⟨h.holds, h.waits.tick n, h.owes, h.tried⟩

omit [DecidableEq ι] in
lemma Shared.tick (h : Shared begin c) (n : ℕ) : Shared begin (c.tick n) where
  begun := by
    have hbegun := h.begun
    simp only [Client.tick]
    omega
  times := by
    intro t ht
    have htimes := h.times t ht
    simp only [Client.tick]
    omega
  earlier := h.earlier
  last := h.last
  spaced := h.spaced

omit [DecidableEq ι] in
lemma since_pass (h : c.earlier ≤ c.passed.length) (i : ι) :
    (c.pass i).since = c.since ++ [c.now] := by
  simp [Client.pass, Client.since, List.drop_append_of_le_length h]

omit [DecidableEq ι] in
lemma Shared.withRateLimit (h : Shared begin c) (interval : Option ℤ) :
    Shared begin (c.withRateLimit interval) where
  begun := h.begun
  times := h.times
  earlier := Nat.le_refl _
  last := by simp [Client.withRateLimit, Client.since]
  spaced := by
    intro d _
    simpa [Client.withRateLimit, Client.since] using spaced_nil

omit [DecidableEq ι] in
lemma times_pass (h : Shared begin c) (i : ι) :
    ∀ t ∈ (c.pass i).passed.map Prod.snd, begin ≤ t ∧ t ≤ c.now := by
  intro t ht
  rw [Client.pass, List.map_append, List.mem_append, List.map_singleton, List.mem_singleton] at ht
  rcases ht with ht | rfl
  · exact h.times t ht
  · exact ⟨h.begun, Int.le_refl _⟩

omit [DecidableEq ι] in
lemma Shared.free (h : Shared begin c) (hi : c.interval = none) (i : ι) :
    Shared begin (c.pass i) where
  begun := h.begun
  times := times_pass h i
  earlier := by
    have hearlier := h.earlier
    simp only [Client.pass, List.length_append]
    omega
  last := by simp [Client.pass, hi]
  spaced := by simp [Client.pass, hi]

omit [DecidableEq ι] in
lemma Shared.stamp (h : Shared begin c) (hd : Due c c.now) (i : ι) :
    Shared begin { c.pass i with rateLastCall := some c.now } where
  begun := h.begun
  times := times_pass h i
  earlier := by
    have hearlier := h.earlier
    simp only [Client.pass, List.length_append]
    omega
  last := by
    intro _
    have hsince := since_pass h.earlier i
    simp only [Client.since] at hsince ⊢
    rw [hsince, List.getLast?_concat]
  spaced := by
    obtain ⟨d, hd, hlast⟩ := hd
    intro d' hd'
    obtain rfl : d = d' := Option.some.inj (hd.symm.trans hd')
    have hsince := since_pass h.earlier i
    have hspaced := (h.spaced d hd).concat (t := c.now) fun s hs => by
      apply hlast
      rw [h.last (by simp [hd])]
      exact hs
    simp only [Client.since] at hsince hspaced ⊢
    rwa [hsince]

omit [DecidableEq ι] in
lemma waits_checked {d : ℤ} (hd : c.interval = some d) (k : ℕ) : Waits c (checked k c d) := by
  unfold checked
  split
  next hlast => exact ⟨d, hd, by simp [hlast]⟩
  next last hlast =>
    have hle : c.elapsed last ≤ c.now - last := min_le_left _ _
    split_ifs with hlt
    · refine ⟨d, hd, fun last' hl => ?_⟩
      obtain rfl : last = last' := by simpa [hlast] using hl
      omega
    · refine ⟨d, hd, fun last' hl => ?_⟩
      obtain rfl : last = last' := by simpa [hlast] using hl
      omega

lemma count_pass (c : Client ι) (i j : ι) : ((c.pass i).passed.map Prod.fst).count j =
    (c.passed.map Prod.fst).count j + if i = j then 1 else 0 := by
  simp [Client.pass, List.count_singleton, beq_iff_eq]

omit [DecidableEq ι] in
lemma checked_cases (k : ℕ) (c : Client ι) (d : ℤ) :
    checked k c d = .stamp k ∨ ∃ duration, checked k c d = .sleep k duration := by
  unfold checked
  split
  · exact .inl rfl
  · split_ifs
    · exact .inr ⟨_, rfl⟩
    · exact .inl rfl

lemma retry_cases (k : ℕ) (delay : Option ℤ) :
    retry k delay = .returned ∨
      k + 1 < defaultRetries ∧ ∃ duration, retry k delay = .pause k duration := by
  cases delay with
  | none => exact .inl rfl
  | some delay =>
    unfold retry
    split_ifs with hk
    · exact .inr ⟨hk, delay, rfl⟩
    · exact .inl rfl

lemma act_shared (hs : Shared begin c) (ho : Own i l c) (h : act i e l c = some (l', c')) :
    Shared begin c' := by
  cases l with
  | lock k =>
    simp only [act, Option.ite_none_left_eq_some, Option.some.injEq, Prod.mk.injEq] at h
    obtain ⟨-, -, rfl⟩ := h
    exact ⟨hs.begun, hs.times, hs.earlier, hs.last, hs.spaced⟩
  | check k =>
    simp only [act] at h
    split at h
    next hinterval =>
      cases h
      exact hs.free hinterval i
    next d hinterval =>
      cases h
      exact hs
  | sleep k duration =>
    cases h
    exact hs
  | asleep k wake =>
    simp only [act, Option.ite_none_right_eq_some, Option.some.injEq, Prod.mk.injEq] at h
    obtain ⟨-, -, rfl⟩ := h
    exact hs
  | stamp k =>
    cases h
    exact hs.stamp ho.waits i
  | unlock k =>
    cases h
    exact ⟨hs.begun, hs.times, hs.earlier, hs.last, hs.spaced⟩
  | send k =>
    simp only [act] at h
    split_ifs at h
    · cases h
      exact ⟨hs.begun, hs.times, hs.earlier, hs.last, hs.spaced⟩
    · cases h
      exact hs
  | pause k duration =>
    cases h
    exact hs
  | paused k wake =>
    simp only [act, Option.ite_none_right_eq_some, Option.some.injEq, Prod.mk.injEq] at h
    obtain ⟨-, -, rfl⟩ := h
    exact hs
  | limit interval =>
    simp only [act, Option.ite_none_left_eq_some, Option.some.injEq, Prod.mk.injEq] at h
    obtain ⟨-, -, rfl⟩ := h
    exact hs.withRateLimit interval
  | returned => simp [act] at h

lemma act_own (ho : Own i l c) (h : act i e l c = some (l', c')) : Own i l' c' := by
  obtain ⟨hholds, hwaits, howes, htried⟩ := ho
  cases l with
  | lock k =>
    simp only [act, Option.ite_none_left_eq_some, Option.some.injEq, Prod.mk.injEq] at h
    obtain ⟨-, rfl, rfl⟩ := h
    exact ⟨by simp [Local.holds], trivial, howes, htried⟩
  | check k =>
    have hmu : c.rateMu = some i := hholds.mp rfl
    simp only [act] at h
    split at h
    next hinterval =>
      cases h
      refine ⟨by simpa [Local.holds, Client.pass] using hmu, trivial, ?_, ?_⟩
      · rw [count_pass, if_pos rfl]
        exact Nat.add_le_add_right howes 1
      · rw [count_pass, if_pos rfl]
        exact ⟨congrArg (· + 1) htried.1, htried.2⟩
    next d hinterval =>
      cases h
      have hchecked := waits_checked hinterval k
      rcases checked_cases k c d with hnext | ⟨duration, hnext⟩
      · rw [hnext] at hchecked ⊢
        exact ⟨hholds, hchecked, howes, htried⟩
      · rw [hnext] at hchecked ⊢
        exact ⟨hholds, hchecked, howes, htried⟩
  | sleep k duration =>
    cases h
    exact ⟨hholds, hwaits, howes, htried⟩
  | asleep k wake =>
    simp only [act, Option.ite_none_right_eq_some, Option.some.injEq, Prod.mk.injEq] at h
    obtain ⟨hwake, rfl, rfl⟩ := h
    exact ⟨hholds, hwaits.mono hwake, howes, htried⟩
  | stamp k =>
    have hmu : c.rateMu = some i := hholds.mp rfl
    cases h
    refine ⟨by simpa [Local.holds, Client.pass] using hmu, trivial, ?_, ?_⟩
    · have hcount := count_pass c i i
      rw [if_pos rfl] at hcount
      simp only [hcount]
      exact Nat.add_le_add_right howes 1
    · have hcount := count_pass c i i
      rw [if_pos rfl] at hcount
      simp only [hcount]
      exact ⟨congrArg (· + 1) htried.1, htried.2⟩
  | unlock k =>
    cases h
    exact ⟨by simp [Local.holds], trivial, howes, htried⟩
  | send k =>
    have hmu : c.rateMu ≠ some i := fun hmu => nomatch hholds.mpr hmu
    obtain ⟨hn, hk⟩ := htried
    have hle : (c.passed.map Prod.fst).count i ≤ defaultRetries := hn.symm ▸ hk
    simp only [act] at h
    split_ifs at h
    · cases h
      have howes' : (c.sent ++ [i]).count i + 0 ≤ (c.passed.map Prod.fst).count i := by
        simpa [Local.owes] using howes
      rcases retry_cases k (retryDelay k e) with hnext | ⟨hk', duration, hnext⟩
      · rw [hnext]
        exact ⟨by simpa [Local.holds] using hmu, trivial, howes', hle⟩
      · rw [hnext]
        exact ⟨by simpa [Local.holds] using hmu, trivial, howes', hn, hk'⟩
    · cases h
      exact ⟨by simpa [Local.holds] using hmu, trivial, (Nat.le_add_right _ _).trans howes, hle⟩
  | pause k duration =>
    cases h
    exact ⟨hholds, trivial, howes, htried⟩
  | paused k wake =>
    simp only [act, Option.ite_none_right_eq_some, Option.some.injEq, Prod.mk.injEq] at h
    obtain ⟨-, rfl, rfl⟩ := h
    exact ⟨hholds, trivial, howes, htried⟩
  | limit interval =>
    simp only [act, Option.ite_none_left_eq_some, Option.some.injEq, Prod.mk.injEq] at h
    obtain ⟨-, rfl, rfl⟩ := h
    exact ⟨hholds, trivial, howes, htried⟩
  | returned => simp [act] at h

structure Leaves (i : ι) (c c' : Client ι) : Prop where
  now : c'.now = c.now
  holds : ∀ j, j ≠ i → (c'.rateMu = some j ↔ c.rateMu = some j)
  held : ∀ j, j ≠ i → c.rateMu = some j →
    c'.interval = c.interval ∧ c'.rateLastCall = c.rateLastCall
  sent : ∀ j, j ≠ i → c'.sent.count j = c.sent.count j
  passed : ∀ j, j ≠ i → (c'.passed.map Prod.fst).count j = (c.passed.map Prod.fst).count j

lemma leaves_refl (i : ι) (c : Client ι) : Leaves i c c :=
  ⟨rfl, fun _ _ => Iff.rfl, fun _ _ _ => ⟨rfl, rfl⟩, fun _ _ => rfl, fun _ _ => rfl⟩

lemma act_leaves (ho : Own i l c) (h : act i e l c = some (l', c')) : Leaves i c c' := by
  have hpassed : ∀ j, j ≠ i →
      ((c.pass i).passed.map Prod.fst).count j = (c.passed.map Prod.fst).count j := by
    intro j hj
    rw [count_pass, if_neg (Ne.symm hj)]
    rfl
  cases l with
  | lock k =>
    simp only [act, Option.ite_none_left_eq_some, Option.some.injEq, Prod.mk.injEq] at h
    obtain ⟨hfree, -, rfl⟩ := h
    have hnone : c.rateMu = none := by simpa using hfree
    refine ⟨rfl, fun j hj => ?_, fun j hj hmu => by simp [hnone] at hmu, fun _ _ => rfl,
      fun _ _ => rfl⟩
    simp [hnone, Ne.symm hj]
  | check k =>
    simp only [act] at h
    split at h
    · cases h
      exact ⟨rfl, fun _ _ => Iff.rfl, fun _ _ _ => ⟨rfl, rfl⟩, fun _ _ => rfl, hpassed⟩
    · cases h
      exact leaves_refl i c
  | sleep k duration =>
    cases h
    exact leaves_refl i c
  | asleep k wake =>
    simp only [act, Option.ite_none_right_eq_some, Option.some.injEq, Prod.mk.injEq] at h
    obtain ⟨-, -, rfl⟩ := h
    exact leaves_refl i c
  | stamp k =>
    have hmu : c.rateMu = some i := ho.holds.mp rfl
    cases h
    refine ⟨rfl, fun _ _ => Iff.rfl, fun j hj hmu' => ?_, fun _ _ => rfl, hpassed⟩
    exact absurd (Option.some.inj (hmu'.symm.trans hmu)) hj
  | unlock k =>
    have hmu : c.rateMu = some i := ho.holds.mp rfl
    cases h
    refine ⟨rfl, fun j hj => ?_, fun _ _ _ => ⟨rfl, rfl⟩, fun _ _ => rfl, fun _ _ => rfl⟩
    simp [hmu, Ne.symm hj]
  | send k =>
    simp only [act] at h
    split_ifs at h
    · cases h
      refine ⟨rfl, fun _ _ => Iff.rfl, fun _ _ _ => ⟨rfl, rfl⟩, fun j hj => ?_, fun _ _ => rfl⟩
      simp [Ne.symm hj]
    · cases h
      exact leaves_refl i c
  | pause k duration =>
    cases h
    exact leaves_refl i c
  | paused k wake =>
    simp only [act, Option.ite_none_right_eq_some, Option.some.injEq, Prod.mk.injEq] at h
    obtain ⟨-, -, rfl⟩ := h
    exact leaves_refl i c
  | limit interval =>
    simp only [act, Option.ite_none_left_eq_some, Option.some.injEq, Prod.mk.injEq] at h
    obtain ⟨hfree, -, rfl⟩ := h
    have hnone : c.rateMu = none := by simpa using hfree
    exact ⟨rfl, fun _ _ => Iff.rfl, fun j hj hmu => by simp [hnone] at hmu, fun _ _ => rfl,
      fun _ _ => rfl⟩
  | returned => simp [act] at h

lemma Leaves.own (h : Leaves i c c') (hj : j ≠ i) (ho : Own j l c) : Own j l c' := by
  have hmu := h.holds j hj
  refine ⟨ho.holds.trans hmu.symm, ?_, ?_, ?_⟩
  · have hdue : l.holds = true → ∀ wake, Due c wake → Due c' wake := by
      rintro hl wake ⟨d, hd, hlast⟩
      obtain ⟨hinterval, hcall⟩ := h.held j hj (ho.holds.mp hl)
      exact ⟨d, hinterval.trans hd, hcall ▸ hlast⟩
    have hwaits := ho.waits
    cases l with
    | sleep k duration =>
      simp only [Waits, h.now]
      exact hdue rfl _ hwaits
    | asleep k wake => exact hdue rfl _ hwaits
    | stamp k =>
      simp only [Waits, h.now]
      exact hdue rfl _ hwaits
    | _ => trivial
  · rw [h.sent j hj, h.passed j hj]
    exact ho.owes
  · rw [h.passed j hj]
    exact ho.tried

lemma nonInterfering (begin : ℤ) :
    NonInterfering (@next ι) (Shared begin) Own where
  own := fun hs ho h =>
    ⟨act_shared (hs.tick _) (ho.tick _) h, act_own (ho.tick _) h⟩
  other := fun hij _ ho hj h => (act_leaves (ho.tick _) h).own (Ne.symm hij) (hj.tick _)

lemma own_start (i : ι) (op : Op) (begin : ℤ) (interval : Option ℤ) :
    Own i op.start (newClient begin interval) := by
  cases op with
  | request => exact ⟨by simp [Op.start, Local.holds, newClient], trivial, Nat.le_refl _, rfl,
      Nat.succ_pos _⟩
  | withRateLimit interval' =>
    exact ⟨by simp [Op.start, Local.holds, newClient], trivial, Nat.le_refl _, Nat.zero_le _⟩

lemma holds_start (begin : ℤ) (interval : Option ℤ) (ops : ι → Op) :
    Holds (Shared begin) Own (start begin interval ops) := by
  refine ⟨⟨Int.le_refl _, ?_, Nat.le_refl _, fun _ => rfl, fun d _ => spaced_nil⟩, fun i => ?_⟩
  · intro t ht
    exact absurd ht List.not_mem_nil
  · exact own_start i (ops i) begin interval

lemma holds_run {interval : Option ℤ} {ops : ι → Op} {as : List (ι × Env)}
    {w : World ι Local (Client ι)} (hr : run step (start begin interval ops) as = some w) :
    Holds (Shared begin) Own w :=
  run_invariant (holds_start begin interval ops) hr fun _ _ _ hw h =>
    (nonInterfering begin).step hw h

lemma sent_le_passed (ho : ∀ i, ∃ l, Own i l c) : c.sent.length ≤ c.passed.length := by
  have hsub : c.sent.Subperm (c.passed.map Prod.fst) := by
    rw [List.subperm_iff_count]
    intro i
    obtain ⟨l, hl⟩ := ho i
    exact (Nat.le_add_right _ _).trans hl.owes
  simpa using hsub.length_le

lemma Own.sent_le (h : Own i l c) : c.sent.count i ≤ defaultRetries := by
  have hle := (Nat.le_add_right _ _).trans h.owes
  have htried : (c.passed.map Prod.fst).count i ≤ defaultRetries := by
    have ht := h.tried
    cases l <;> simp only [Local.Tried] at ht <;> omega
  exact hle.trans htried

end

/-- Whatever requests are made at the same time and whenever the limit is set, the calls that are
let through while an interval is in force keep it between them, so that a stretch of time has one
more of them than intervals at most. A request is sent three times at most, and while the interval
of the first call is in force no more requests are sent than calls could be let through. -/
theorem requests_paced (begin : ℤ) (interval : Option ℤ) (ops : ι → Op) (as : List (ι × Env))
    {w : World ι Local (Client ι)} (hr : run step (start begin interval ops) as = some w) :
    (∀ d, w.store.interval = some d → Spaced d w.store.since) ∧
      (∀ d, w.store.interval = some d → 0 < d → ∀ a width, 0 ≤ width →
        ((w.store.since.filter fun t => a ≤ t ∧ t ≤ a + width).length : ℤ) ≤ width / d + 1) ∧
      (∀ i, w.store.sent.count i ≤ defaultRetries) ∧
      ∀ d, w.store.interval = some d → 0 < d → w.store.earlier = 0 →
        (w.store.sent.length : ℤ) ≤ (w.store.now - begin) / d + 1 := by
  obtain ⟨hshared, hown⟩ := holds_run hr
  refine ⟨hshared.spaced, fun d hd hpos a width hw => (hshared.spaced d hd).window hpos hw a,
    fun i => (hown i).sent_le, fun d hd hpos hfirst => ?_⟩
  have hsince : w.store.since = w.store.passed.map Prod.snd := by
    rw [Client.since, hfirst, List.drop_zero]
  have hall : (w.store.since.filter fun t => begin ≤ t ∧ t ≤ begin + (w.store.now - begin)) =
      w.store.since := by
    rw [List.filter_eq_self]
    intro t ht
    have htimes := hshared.times t (hsince ▸ ht)
    simp only [decide_eq_true_eq]
    omega
  have hnonneg : 0 ≤ w.store.now - begin := Int.sub_nonneg.mpr hshared.begun
  have hwindow := (hshared.spaced d hd).window hpos hnonneg begin
  rw [hall, hsince, List.length_map] at hwindow
  have hsent := sent_le_passed fun i => ⟨_, hown i⟩
  omega

def twice : List (Bool × Env) :=
  List.replicate 5 (false, envAfter 0) ++
    [(true, envAfter 10), (true, envAfter 0), (true, envAfter 0), (true, envAfter 1000000000),
      (true, envAfter 0), (true, envAfter 0), (true, envAfter 0)]

def startTwice : World Bool Local (Client Bool) := start 0 (some 1000000000) fun _ => .request

theorem requests_paced_twice :
    ∃ w, run step startTwice twice = some w ∧ w.store.since = [0, 1000000010] ∧
      w.store.sent = [false, true] ∧ Spaced 1000000000 w.store.since ∧
      (w.store.sent.length : ℤ) ≤ (w.store.now - 0) / 1000000000 + 1 := by
  have hrun : ((run step startTwice twice).map fun w =>
      (w.store.since, w.store.sent, w.store.interval, w.store.earlier)) =
      some ([0, 1000000010], [false, true], some 1000000000, 0) := by
    decide +kernel
  obtain ⟨w, hr, hw⟩ := Option.map_eq_some_iff.mp hrun
  simp only [Prod.mk.injEq] at hw
  obtain ⟨hsince, hsent, hinterval, hearlier⟩ := hw
  obtain ⟨hspaced, -, -, hbound⟩ :=
    requests_paced 0 (some 1000000000) (fun _ : Bool => .request) twice hr
  exact ⟨w, hr, hsince, hsent, hspaced _ hinterval, hbound _ hinterval (by decide) hearlier⟩

/-! Going on. -/

def Local.remaining : Local → ℕ
  | .lock k => 9 * (2 - k) + 7
  | .check k => 9 * (2 - k) + 6
  | .sleep k _ => 9 * (2 - k) + 5
  | .asleep k _ => 9 * (2 - k) + 4
  | .stamp k => 9 * (2 - k) + 3
  | .unlock k => 9 * (2 - k) + 2
  | .send k => 9 * (2 - k) + 1
  | .pause k _ => 9 * (2 - k)
  | .paused k _ => 9 * (2 - k) - 1
  | .limit _ => 1
  | .returned => 0

section

variable {c c' : Client ι} {i : ι} {l l' : Local} {e : Env} {begin : ℤ}

lemma act_remaining (ho : Own i l c) (h : act i e l c = some (l', c')) :
    l'.remaining + 1 ≤ l.remaining := by
  have htried := ho.tried
  cases l with
  | lock k =>
    simp only [act, Option.ite_none_left_eq_some, Option.some.injEq, Prod.mk.injEq] at h
    obtain ⟨-, rfl, -⟩ := h
    exact Nat.le_refl _
  | check k =>
    simp only [act] at h
    split at h
    next hinterval =>
      cases h
      simp only [Local.remaining]
      omega
    next d hinterval =>
      cases h
      rcases checked_cases k c d with hnext | ⟨duration, hnext⟩
      · rw [hnext]
        simp only [Local.remaining]
        omega
      · rw [hnext]
        exact Nat.le_refl _
  | sleep k duration =>
    cases h
    exact Nat.le_refl _
  | asleep k wake =>
    simp only [act, Option.ite_none_right_eq_some, Option.some.injEq, Prod.mk.injEq] at h
    obtain ⟨-, rfl, -⟩ := h
    exact Nat.le_refl _
  | stamp k =>
    cases h
    exact Nat.le_refl _
  | unlock k =>
    cases h
    exact Nat.le_refl _
  | send k =>
    simp only [act] at h
    split_ifs at h
    · cases h
      rcases retry_cases k (retryDelay k e) with hnext | ⟨hk, duration, hnext⟩
      · rw [hnext]
        exact Nat.le_add_left _ _
      · rw [hnext]
        exact Nat.le_refl _
    · cases h
      exact Nat.le_add_left _ _
  | pause k duration =>
    cases h
    have hk : k + 1 < 3 := htried.2
    simp only [Local.remaining]
    omega
  | paused k wake =>
    simp only [act, Option.ite_none_right_eq_some, Option.some.injEq, Prod.mk.injEq] at h
    obtain ⟨-, rfl, -⟩ := h
    have hk : k + 1 < 3 := htried.2
    simp only [Local.remaining]
    omega
  | limit interval =>
    simp only [act, Option.ite_none_left_eq_some, Option.some.injEq, Prod.mk.injEq] at h
    obtain ⟨-, rfl, -⟩ := h
    exact Nat.le_refl _
  | returned => simp [act] at h

omit [DecidableEq ι] in
lemma wake_le (c : Client ι) (wake : ℤ) :
    wake ≤ (c.tick (envAfter (wake - c.now).toNat).elapsed).now := by
  have hle := Int.self_le_toNat (wake - c.now)
  simp only [Client.tick, envAfter]
  omega

omit [DecidableEq ι] in
lemma goes_on (h : l.holds = true ∨ c.rateMu = none) (hl : l ≠ .returned) :
    ∃ e, (next i e l c).isSome := by
  cases l with
  | lock k =>
    have hfree : c.rateMu = none := h.resolve_left (by simp [Local.holds])
    exact ⟨envAfter 0, by simp [next, act, Client.tick, hfree]⟩
  | check k =>
    refine ⟨envAfter 0, ?_⟩
    simp only [next, act]
    split <;> rfl
  | asleep k wake =>
    refine ⟨envAfter (wake - c.now).toNat, ?_⟩
    simp only [next, act, if_pos (wake_le c wake), Option.isSome_some]
  | paused k wake =>
    refine ⟨envAfter (wake - c.now).toNat, ?_⟩
    simp only [next, act, if_pos (wake_le c wake), Option.isSome_some]
  | limit interval =>
    have hfree : c.rateMu = none := h.resolve_left (by simp [Local.holds])
    exact ⟨envAfter 0, by simp [next, act, Client.tick, hfree]⟩
  | returned => exact absurd rfl hl
  | _ => exact ⟨envAfter 0, rfl⟩

lemma remaining_step {a : ι × Env} {w w' : World ι Local (Client ι)}
    (hw : Holds (Shared begin) Own w) (h : step w a = some w') (i : ι) : (w'.locals i).remaining +
      (if decide (a.1 = i) then 1 else 0) ≤ (w.locals i).remaining := by
  obtain ⟨l, c, hnext, rfl⟩ := step_eq_some h
  by_cases hi : a.1 = i
  · subst hi
    have hless := act_remaining ((hw.2 a.1).tick a.2.elapsed) hnext
    simpa using hless
  · simp [hi, Function.update_of_ne (Ne.symm hi)]

lemma returned_of_stuck {w : World ι Local (Client ι)} (hown : ∀ i, Own i (w.locals i) w.store)
    (hstuck : ∀ a, step w a = none) (i : ι) : w.locals i = .returned := by
  have hnext : ∀ j, (w.locals j).holds = true ∨ w.store.rateMu = none → w.locals j = .returned := by
    intro j hj
    by_contra hne
    obtain ⟨e, he⟩ := goes_on (i := j) hj hne
    have hnone := hstuck (j, e)
    rw [step, Processes.step, Option.map_eq_none_iff] at hnone
    simp [hnone] at he
  cases hmu : w.store.rateMu with
  | none => exact hnext i (.inr hmu)
  | some j =>
    -- Whoever holds the mutex can go on, and has not returned.
    have hholds := (hown j).holds.mpr hmu
    have hreturned := hnext j (.inl hholds)
    rw [hreturned] at hholds
    exact absurd hholds Bool.false_ne_true

end

/-- No call takes more than 25 steps, and where no call can go on all have returned: none waits
forever for the mutex. -/
theorem calls_return (begin : ℤ) (interval : Option ℤ) (ops : ι → Op) (as : List (ι × Env))
    {w : World ι Local (Client ι)} (hr : run step (start begin interval ops) as = some w) :
    (∀ i, as.countP (fun a => a.1 = i) ≤ 25) ∧
      ((∀ a, step w a = none) → ∀ i, w.locals i = .returned) := by
  refine ⟨fun i => ?_, fun hstuck i => returned_of_stuck (holds_run hr).2 hstuck i⟩
  have hcount : as.countP (fun a => decide (a.1 = i)) + (w.locals i).remaining ≤
      ((start begin interval ops).locals i).remaining + 0 * as.countP (fun _ => false) := by
    apply countP_add_le (holds_start begin interval ops) hr
    intro w a w' hw h
    exact ⟨(nonInterfering begin).step hw h, by simpa using remaining_step hw h i⟩
  have hstart : ((start begin interval ops).locals i).remaining ≤ 25 := by
    cases hop : ops i <;> simp [start, hop, Op.start, Local.remaining]
  omega

theorem calls_return_twice :
    ∃ w, run step startTwice twice = some w ∧ twice.countP (fun a => a.1 = true) ≤ 25 ∧
      ((∀ a, step w a = none) → ∀ i, w.locals i = .returned) := by
  have hrun : (run step startTwice twice).isSome = true := by decide +kernel
  obtain ⟨w, hr⟩ := Option.isSome_iff_exists.mp hrun
  obtain ⟨hcount, hstuck⟩ := calls_return 0 (some 1000000000) (fun _ : Bool => .request) twice hr
  exact ⟨w, hr, hcount true, hstuck⟩

end OmniTun.Sdk.RateLimit
