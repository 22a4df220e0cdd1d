import Mathlib.Data.Fintype.Basic
import Mathlib.Data.List.Nodup
import Mathlib.Logic.Function.Basic
import OmniTun.Foundation.Transition

/-! Senders that put blocks on one wire, each block in several writes. -/

namespace OmniTun.Foundation.Interleaving

open Transition

variable {ι β : Type*} [DecidableEq ι]

structure State (ι β : Type*) where
  pending : ι → List (List β)
  wire : List β
  started : List ι

def init (blocks : ι → List (List β)) : State ι β := ⟨blocks, [], []⟩

def step (blocks : ι → List (List β)) (s : State ι β) (i : ι) : Option (State ι β) :=
  match s.pending i with
  | [] => none
  | b :: bs => some
    { pending := Function.update s.pending i bs
      wire := s.wire ++ b
      -- a block has started with its first write
      started := if bs.length + 1 = (blocks i).length then s.started ++ [i] else s.started }

variable (blocks : ι → List (List β))

def Midway (s : State ι β) (i : ι) : Prop :=
  s.pending i ≠ [] ∧ (s.pending i).length < (blocks i).length

def Alone (s : State ι β) (i : ι) : Prop := ∀ j, j ≠ i → ¬ Midway blocks s j

instance (s : State ι β) (i : ι) : Decidable (Midway blocks s i) :=
  inferInstanceAs (Decidable (¬ (s.pending i = []) ∧ _))

instance [Fintype ι] (s : State ι β) (i : ι) : Decidable (Alone blocks s i) :=
  inferInstanceAs (Decidable (∀ j, j ≠ i → ¬ Midway blocks s j))

structure Tidy (s : State ι β) : Prop where
  nodup : s.started.Nodup
  suffix : ∀ i, s.pending i <:+ blocks i
  mem_started : ∀ i, i ∈ s.started ↔ (s.pending i).length < (blocks i).length
  idle : (∀ i, ¬ Midway blocks s i) → s.wire = s.started.flatMap fun i => (blocks i).flatten
  busy : ∀ i, Midway blocks s i →
    s.wire ++ (s.pending i).flatten = s.started.flatMap fun i => (blocks i).flatten

variable {blocks} {s t : State ι β} {i : ι}

omit [DecidableEq ι] in
lemma tidy_init : Tidy blocks (init blocks) where
  nodup := List.nodup_nil
  suffix i := List.suffix_rfl
  mem_started i := by simp [init]
  idle _ := rfl
  busy i h := absurd h.2 (Nat.lt_irrefl _)

lemma step_cases (h : step blocks s i = some t) :
    ∃ b bs, s.pending i = b :: bs ∧ t.pending = Function.update s.pending i bs ∧
      t.wire = s.wire ++ b ∧
      t.started = if bs.length + 1 = (blocks i).length then s.started ++ [i] else s.started := by
  simp only [step] at h
  cases hp : s.pending i with
  | nil => simp [hp] at h
  | cons b bs =>
    simp only [hp, Option.some.injEq] at h
    subst h
    exact ⟨b, bs, rfl, rfl, rfl, rfl⟩

lemma step_wire (hs : Tidy blocks s) (ha : Alone blocks s i) (h : step blocks s i = some t) :
    t.wire ++ (t.pending i).flatten = t.started.flatMap fun i => (blocks i).flatten := by
  obtain ⟨b, bs, hp, hpend, hwire, hstart⟩ := step_cases h
  have hsuf := hs.suffix i
  rw [hp] at hsuf
  simp only [hpend, Function.update_self, hwire, hstart]
  split_ifs with hf
  -- the block starts here, and before it the wire carried whole blocks only
  · have hb : b :: bs = blocks i := hsuf.eq_of_length (by simpa using hf)
    have hidle : s.wire = s.started.flatMap fun i => (blocks i).flatten := by
      apply hs.idle
      intro j
      by_cases hj : j = i
      · subst hj
        simp [Midway, hp, hf]
      · exact ha j hj
    simp [hidle, ← hb]
  -- the block started before, and is the one that was unfinished
  · have hlt : bs.length + 1 < (blocks i).length :=
      Nat.lt_of_le_of_ne (by simpa using hsuf.length_le) hf
    have hbusy := hs.busy i ⟨by simp [hp], by simpa [hp] using hlt⟩
    rw [hp] at hbusy
    simpa using hbusy

lemma step_tidy (hs : Tidy blocks s) (ha : Alone blocks s i) (h : step blocks s i = some t) :
    Tidy blocks t := by
  have hw := step_wire hs ha h
  obtain ⟨b, bs, hp, hpend, hwire, hstart⟩ := step_cases h
  have hsuf := hs.suffix i
  rw [hp] at hsuf
  have hle : bs.length + 1 ≤ (blocks i).length := by simpa using hsuf.length_le
  have hti : t.pending i = bs := by simp [hpend]
  have htj : ∀ j, j ≠ i → t.pending j = s.pending j := fun j hj => by simp [hpend, hj]
  have hmid : ∀ j, j ≠ i → ¬ Midway blocks t j := by
    intro j hj hm
    rw [Midway, htj j hj] at hm
    exact ha j hj hm
  have hmem := hs.mem_started i
  rw [hp, List.length_cons] at hmem
  refine ⟨?_, ?_, ?_, ?_, ?_⟩
  · rw [hstart]
    split_ifs with hf
    · rw [← List.concat_eq_append]
      exact hs.nodup.concat (by rw [hmem]; omega)
    · exact hs.nodup
  · intro j
    by_cases hj : j = i
    · subst hj
      rw [hti]
      exact (List.suffix_cons b bs).trans hsuf
    · rw [htj j hj]
      exact hs.suffix j
  · intro j
    by_cases hj : j = i
    · subst hj
      rw [hti, hstart]
      split_ifs with hf
      · simp; omega
      · rw [hmem]; omega
    · rw [htj j hj, ← hs.mem_started j, hstart]
      split_ifs <;> simp [hj]
  · intro hn
    have hnil : bs = [] := by
      by_contra hne
      exact hn i ⟨by rwa [hti], by rw [hti]; omega⟩
    simpa [hti, hnil] using hw
  · intro j hm
    by_cases hj : j = i
    · exact hj ▸ hw
    · exact absurd hm (hmid j hj)

lemma guarded_wire {as : List ι} (hg : Guarded (step blocks) (Alone blocks) (init blocks) as)
    (hr : run (step blocks) (init blocks) as = some t) (hn : ∀ i, ¬ Midway blocks t i) :
    t.started.Nodup ∧ (∀ i, i ∈ t.started ↔ t.pending i = [] ∧ blocks i ≠ []) ∧
      t.wire = t.started.flatMap fun i => (blocks i).flatten := by
  have ht : Tidy blocks t := guarded_invariant tidy_init hg hr fun _ _ _ => step_tidy
  refine ⟨ht.nodup, fun i => ?_, ht.idle hn⟩
  rw [ht.mem_started]
  constructor
  · intro hl
    exact ⟨by by_contra hne; exact hn i ⟨hne, hl⟩, by intro he; simp [he] at hl⟩
  · rintro ⟨hp, hb⟩
    simpa [hp, List.length_pos_iff] using hb

end OmniTun.Foundation.Interleaving
