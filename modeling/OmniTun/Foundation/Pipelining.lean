import Mathlib.Data.List.Nodup
import Mathlib.Logic.Function.Basic
import OmniTun.Foundation.Transition

/-! Clients that share an ordered channel to a server, with nothing in a response to tell whose it
is: a response goes to whichever client reads next. -/

namespace OmniTun.Foundation.Pipelining

open Transition Function

variable {ι : Type*}

inductive Phase (ι : Type*)
  | ready
  | refused
  | waiting
  | answered (owner : ι)
  deriving DecidableEq

/-- `requests` and `responses` are the clients whose messages are under way, first in first out, and
`queue` the clients that wait, in the order they began to. -/
structure State (ι : Type*) where
  phase : ι → Phase ι
  requests : List ι
  responses : List ι
  queue : List ι

inductive Action (ι : Type*)
  | send (i : ι)
  | refuse (i : ι)
  | answer
  | receive (i : ι)

def init : State ι := ⟨fun _ => .ready, [], [], []⟩

variable [DecidableEq ι]

def step (s : State ι) : Action ι → Option (State ι)
  | .send i =>
    if s.phase i = .ready then
      some ⟨update s.phase i .waiting, s.requests ++ [i], s.responses, s.queue ++ [i]⟩
    else none
  | .refuse i =>
    if s.phase i = .ready then
      some ⟨update s.phase i .refused, s.requests, s.responses, s.queue⟩
    else none
  | .answer =>
    match s.requests with
    | [] => none
    | i :: requests => some ⟨s.phase, requests, s.responses ++ [i], s.queue⟩
  | .receive i =>
    match s.responses with
    | [] => none
    | owner :: responses =>
      if s.phase i = .waiting then
        some ⟨update s.phase i (.answered owner), s.requests, responses, s.queue.erase i⟩
      else none

section Inversion

variable {s t : State ι} {i : ι}

lemma step_send (h : step s (.send i) = some t) : s.phase i = .ready ∧
    t = ⟨update s.phase i .waiting, s.requests ++ [i], s.responses, s.queue ++ [i]⟩ := by
  simp only [step] at h
  split_ifs at h with hi
  exact ⟨hi, (Option.some.inj h).symm⟩

lemma step_refuse (h : step s (.refuse i) = some t) : s.phase i = .ready ∧
    t = ⟨update s.phase i .refused, s.requests, s.responses, s.queue⟩ := by
  simp only [step] at h
  split_ifs at h with hi
  exact ⟨hi, (Option.some.inj h).symm⟩

lemma step_answer (h : step s .answer = some t) : ∃ i requests, s.requests = i :: requests ∧
    t = ⟨s.phase, requests, s.responses ++ [i], s.queue⟩ := by
  simp only [step] at h
  split at h
  · cases h
  next i requests hr => exact ⟨i, requests, hr, (Option.some.inj h).symm⟩

lemma step_receive (h : step s (.receive i) = some t) : ∃ owner responses,
    s.responses = owner :: responses ∧ s.phase i = .waiting ∧
    t = ⟨update s.phase i (.answered owner), s.requests, responses, s.queue.erase i⟩ := by
  simp only [step] at h
  split at h
  · cases h
  next owner responses hr =>
    split_ifs at h with hi
    exact ⟨owner, responses, hr, hi, (Option.some.inj h).symm⟩

end Inversion

/-- Every client gets its own response, once, and does not wait in vain. -/
structure Own (s : State ι) : Prop where
  own : ∀ i owner, s.phase i = .answered owner → owner = i
  once : ∀ i, s.phase i = .answered i → i ∉ s.responses ++ s.requests
  pending : ∀ i, s.phase i = .waiting → i ∈ s.responses ++ s.requests

def InTurn (s : State ι) : Action ι → Prop
  | .receive i => s.queue.head? = some i
  | _ => True

structure Tidy (s : State ι) : Prop where
  queue : s.queue = s.responses ++ s.requests
  nodup : s.queue.Nodup
  mem_queue : ∀ i, i ∈ s.queue ↔ s.phase i = .waiting

variable {s t : State ι} {i owner : ι} {responses : List ι}

omit [DecidableEq ι] in
lemma tidy_init : Tidy (init : State ι) where
  queue := rfl
  nodup := List.nodup_nil
  mem_queue i := by simp [init]

omit [DecidableEq ι] in
lemma own_of_tidy (ht : Tidy t) (h : ∀ i owner, t.phase i = .answered owner → owner = i) :
    Own t where
  own := h
  once i hi := by
    rw [← ht.queue, ht.mem_queue, hi]
    simp
  pending i hi := by
    rw [← ht.queue, ht.mem_queue, hi]

omit [DecidableEq ι] in
lemma own_init : Own (init : State ι) :=
  own_of_tidy tidy_init fun i owner h => by cases h

omit [DecidableEq ι] in
lemma not_mem_queue (hq : Tidy s) (hi : s.phase i = .ready) : i ∉ s.queue := by
  rw [hq.mem_queue, hi]
  simp

lemma answered_update {p : Phase ι} (hs : Own s) (hp : ∀ owner, p = .answered owner → owner = i) :
    ∀ j owner, update s.phase i p j = .answered owner → owner = j := by
  intro j owner h
  by_cases hj : j = i
  · subst hj
    rw [update_self] at h
    exact hp owner h
  · rw [update_of_ne hj] at h
    exact hs.own j owner h

lemma tidy_send (hq : Tidy s) (hi : s.phase i = .ready) :
    Tidy ⟨update s.phase i .waiting, s.requests ++ [i], s.responses, s.queue ++ [i]⟩ where
  queue := by
    rw [hq.queue]
    simp
  nodup := List.nodup_append_comm.mp (List.nodup_cons.mpr ⟨not_mem_queue hq hi, hq.nodup⟩)
  mem_queue j := by
    by_cases hj : j = i
    · simp [hj]
    · simp [hj, hq.mem_queue]

lemma tidy_refuse (hq : Tidy s) (hi : s.phase i = .ready) :
    Tidy ⟨update s.phase i .refused, s.requests, s.responses, s.queue⟩ where
  queue := hq.queue
  nodup := hq.nodup
  mem_queue j := by
    by_cases hj : j = i
    · simp [hj, not_mem_queue hq hi]
    · simp [hj, hq.mem_queue]

lemma tidy_receive (hq : Tidy s) (hr : s.responses = i :: responses) :
    Tidy ⟨update s.phase i (.answered i), s.requests, responses, s.queue.erase i⟩ where
  queue := by
    rw [hq.queue, hr]
    simp
  nodup := hq.nodup.erase i
  mem_queue j := by
    by_cases hj : j = i
    · simp [hj, hq.nodup.not_mem_erase]
    · simp [hj, List.mem_erase_of_ne hj, hq.mem_queue]

lemma own_step_iff {a : Action ι} (hs : Own s) (hq : Tidy s) (h : step s a = some t) :
    (Own t ↔ InTurn s a) ∧ (Own t → Tidy t) := by
  cases a with
  | send i =>
    obtain ⟨hi, rfl⟩ := step_send h
    have ht := tidy_send hq hi
    exact ⟨iff_of_true (own_of_tidy ht (answered_update hs (by simp))) trivial, fun _ => ht⟩
  | refuse i =>
    obtain ⟨hi, rfl⟩ := step_refuse h
    have ht := tidy_refuse hq hi
    exact ⟨iff_of_true (own_of_tidy ht (answered_update hs (by simp))) trivial, fun _ => ht⟩
  | answer =>
    obtain ⟨i, requests, hr, rfl⟩ := step_answer h
    have ht : Tidy ⟨s.phase, requests, s.responses ++ [i], s.queue⟩ :=
      ⟨by rw [hq.queue, hr]; simp, hq.nodup, hq.mem_queue⟩
    exact ⟨iff_of_true (own_of_tidy ht hs.own) trivial, fun _ => ht⟩
  | receive i =>
    obtain ⟨owner, responses, hr, hi, rfl⟩ := step_receive h
    -- the response under way is the one that the head of the queue waits for
    have hhead : s.queue.head? = some owner := by rw [hq.queue, hr]; rfl
    by_cases ho : owner = i
    · subst ho
      have ht := tidy_receive hq hr
      exact ⟨iff_of_true (own_of_tidy ht (answered_update hs (by simp))) hhead, fun _ => ht⟩
    · have hown : ¬ Own ⟨update s.phase i (.answered owner), s.requests, responses,
          s.queue.erase i⟩ := fun ht => ho (ht.own i owner (update_self i _ _))
      refine ⟨iff_of_false hown ?_, fun ht => absurd ht hown⟩
      simp only [InTurn, hhead]
      exact fun he => ho (Option.some.inj he)

end OmniTun.Foundation.Pipelining
