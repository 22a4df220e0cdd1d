import Mathlib.Data.List.Basic
import Mathlib.Order.Lattice
import Mathlib.Tactic.Common

/-! Sorting by a comparison, where equal elements come in any order. -/

namespace OmniTun.Foundation

variable {α : Type}

structure StrictWeakOn (less : α → α → Bool) (l : List α) : Prop where
  irrefl : ∀ a ∈ l, less a a = false
  trans : ∀ a ∈ l, ∀ b ∈ l, ∀ c ∈ l, less a b = true → less b c = true → less a c = true
  incomp : ∀ a ∈ l, ∀ b ∈ l, ∀ c ∈ l, less a b = false → less b c = false → less a c = false

/-- A sort that need not be stable. The order of the result is promised for strict weak orders. -/
structure SliceSort where
  sort : ∀ {α : Type}, (α → α → Bool) → List α → List α
  perm : ∀ {α : Type} (less : α → α → Bool) (l : List α), (sort less l).Perm l
  sorted : ∀ {α : Type} (less : α → α → Bool) (l : List α), StrictWeakOn less l →
    (sort less l).Pairwise fun a b => less b a = false

lemma StrictWeakOn.of_key {K : Type*} [LinearOrder K] {key : α → K} {less : α → α → Bool}
    {l : List α} (h : ∀ a ∈ l, ∀ b ∈ l, (less a b = true ↔ key a < key b)) :
    StrictWeakOn less l := by
  have hnot : ∀ a ∈ l, ∀ b ∈ l, (less a b = false ↔ key b ≤ key a) := by
    intro a ha b hb
    rw [← Bool.not_eq_true, h a ha b hb, not_lt]
  refine ⟨fun a ha => ?_, fun a ha b hb c hc hab hbc => ?_, fun a ha b hb c hc hab hbc => ?_⟩
  · exact (hnot a ha a ha).mpr le_rfl
  · rw [h a ha c hc]
    exact lt_trans ((h a ha b hb).mp hab) ((h b hb c hc).mp hbc)
  · rw [hnot a ha c hc]
    exact le_trans ((hnot b hb c hc).mp hbc) ((hnot a ha b hb).mp hab)

namespace SliceSort

variable (sorter : SliceSort) {less : α → α → Bool} {l : List α} {a : α}

lemma head_mem (h : l ≠ []) (d : α) : (sorter.sort less l).headD d ∈ l := by
  have hperm := sorter.perm less l
  cases hs : sorter.sort less l with
  | nil =>
    rw [hs] at hperm
    exact absurd hperm.symm.eq_nil h
  | cons b bs =>
    rw [hs] at hperm
    exact hperm.subset List.mem_cons_self

lemma key_head_le {K : Type*} [LinearOrder K] {key : α → K}
    (h : ∀ a ∈ l, ∀ b ∈ l, (less a b = true ↔ key a < key b)) (ha : a ∈ l) (d : α) :
    key ((sorter.sort less l).headD d) ≤ key a := by
  have hperm := sorter.perm less l
  have hsorted := sorter.sorted less l (.of_key h)
  have hne : l ≠ [] := List.ne_nil_of_mem ha
  have hmem : (sorter.sort less l).headD d ∈ l := sorter.head_mem hne d
  cases hs : sorter.sort less l with
  | nil =>
    rw [hs] at hperm
    exact absurd hperm.symm.eq_nil hne
  | cons b bs =>
    rw [hs] at hperm hsorted hmem
    rcases List.mem_cons.mp (hperm.mem_iff.mpr ha) with rfl | hbs
    · exact le_rfl
    · have hless := (List.pairwise_cons.mp hsorted).1 a hbs
      rw [← Bool.not_eq_true, h a ha b hmem, not_lt] at hless
      exact hless

def notAfter (less : α → α → Bool) (l : List α) (a b : { x // x ∈ l }) : Bool := !less b.val a.val

lemma notAfter_trans (h : StrictWeakOn less l) (a b c : { x // x ∈ l })
    (hab : notAfter less l a b = true) (hbc : notAfter less l b c = true) :
    notAfter less l a c = true := by
  simp only [notAfter, Bool.not_eq_true'] at hab hbc ⊢
  exact h.incomp c c.2 b b.2 a a.2 hbc hab

lemma notAfter_total (h : StrictWeakOn less l) (a b : { x // x ∈ l }) :
    (notAfter less l a b || notAfter less l b a) = true := by
  simp only [notAfter]
  cases hab : less a.val b.val with
  | false => simp
  | true =>
    have hba : less b.val a.val = false := by
      by_contra hba
      rw [Bool.not_eq_false] at hba
      have haa := h.trans a a.2 b b.2 a a.2 hab hba
      rw [h.irrefl a a.2] at haa
      cases haa
    simp [hba]

def merging : SliceSort where
  sort less l := (l.attach.mergeSort (notAfter less l)).map Subtype.val
  perm less l := by
    have hperm := (List.mergeSort_perm l.attach (notAfter less l)).map Subtype.val
    rw [List.attach_map_subtype_val] at hperm
    exact hperm
  sorted less l h := by
    rw [List.pairwise_map]
    have hpair := List.pairwise_mergeSort (notAfter_trans h) (notAfter_total h) l.attach
    apply hpair.imp
    intro a b hab
    simpa [notAfter] using hab

end SliceSort

end OmniTun.Foundation
