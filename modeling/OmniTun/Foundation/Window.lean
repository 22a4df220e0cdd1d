import Mathlib.Algebra.Order.Ring.Int
import Mathlib.Data.List.Enum
import Mathlib.Tactic.Common

/-! The elements of a list at the positions of an interval of integers. -/

namespace OmniTun.Foundation

variable {α : Type*}

def window (l : List α) (offset limit : ℤ) : List α :=
  (l.zipIdx.filter fun p => offset ≤ p.2 ∧ (p.2 : ℤ) < offset + limit).map Prod.fst

namespace window

lemma zipIdx_filter (l : List α) (k a b : ℕ) :
    ((l.zipIdx k).filter fun p => a ≤ p.2 ∧ p.2 < b).map Prod.fst =
      (l.take (b - k)).drop (a - k) := by
  induction l generalizing k with
  | nil => simp
  | cons x l ih =>
    rw [List.zipIdx_cons, List.filter_cons]
    by_cases hb : k < b
    · obtain ⟨m, hm⟩ : ∃ m, b - k = m + 1 := ⟨b - k - 1, by omega⟩
      have hm' : b - (k + 1) = m := by omega
      rw [hm, List.take_succ_cons]
      by_cases ha : a ≤ k
      · have hzero : a - k = 0 := by omega
        have hzero' : a - (k + 1) = 0 := by omega
        rw [if_pos (by simp [ha, hb]), List.map_cons, ih, hm', hzero, hzero']
        rfl
      · obtain ⟨n, hn⟩ : ∃ n, a - k = n + 1 := ⟨a - k - 1, by omega⟩
        have hn' : a - (k + 1) = n := by omega
        rw [if_neg (by simp [ha]), ih, hm', hn, hn', List.drop_succ_cons]
    · have hzero : b - k = 0 := by omega
      have hzero' : b - (k + 1) = 0 := by omega
      rw [if_neg (by simp [hb]), ih, hzero, hzero']
      simp

lemma eq_drop_take (l : List α) (a n : ℕ) : window l a n = (l.drop a).take n := by
  have hfilter := zipIdx_filter l 0 a (a + n)
  have hpred : ∀ p : α × ℕ, ((a : ℤ) ≤ p.2 ∧ (p.2 : ℤ) < a + n) ↔ a ≤ p.2 ∧ p.2 < a + n := by
    intro p
    omega
  simp only [window, hpred]
  rw [hfilter, Nat.sub_zero, Nat.sub_zero, List.drop_take, Nat.add_sub_cancel_left]

lemma eq_nil_of_length_le {l : List α} {offset : ℤ} (h : l.length ≤ offset) (limit : ℤ) :
    window l offset limit = [] := by
  have hnone : l.zipIdx.filter (fun p => offset ≤ p.2 ∧ (p.2 : ℤ) < offset + limit) = [] := by
    rw [List.filter_eq_nil_iff]
    rintro ⟨x, i⟩ hmem
    have hlt := List.snd_lt_of_mem_zipIdx hmem
    simp only [decide_eq_true_eq, not_and]
    omega
  rw [window, hnone, List.map_nil]

lemma append_drop (l : List α) (a n : ℕ) : window l a n ++ l.drop (a + n) = l.drop a := by
  rw [eq_drop_take, ← List.drop_drop, List.take_append_drop]

lemma ne_nil {l : List α} {a n : ℕ} (ha : a < l.length) (hn : 0 < n) : window l a n ≠ [] := by
  apply List.ne_nil_of_length_pos
  rw [eq_drop_take, List.length_take, List.length_drop]
  omega

end window

end OmniTun.Foundation
