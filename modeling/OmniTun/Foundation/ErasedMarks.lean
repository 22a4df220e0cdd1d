import Mathlib.Data.List.TakeWhile
import Mathlib.Tactic.Common

/-! A list with marks, cut after some length: whether its image is still the same once the marks are
erased, if each of them is shown in the same way. -/

namespace OmniTun.Foundation.ErasedMarks

variable {α β : Type*} {q : α → Bool} {g : α → β} {b : β} {l : List α} {n : ℕ}

lemma take_of_take_succ {l : List β} (h : l.take (n + 1) = List.replicate (n + 1) b) :
    l.take n = List.replicate n b := by
  have hcut := congrArg (List.take n) h
  rwa [List.take_take, List.take_replicate, min_eq_left (Nat.le_succ n)] at hcut

lemma take_map_of_filter (hmark : ∀ a, q a = false → g a = b)
    (h : ((l.filter q).map g).take n = List.replicate n b) :
    (l.map g).take n = List.replicate n b := by
  induction l generalizing n with
  | nil => exact h
  | cons a l ih =>
    cases n with
    | zero => rfl
    | succ n =>
      rw [List.map_cons, List.take_succ_cons, List.replicate_succ]
      cases ha : q a with
      | true =>
        rw [List.filter_cons_of_pos ha, List.map_cons, List.take_succ_cons, List.replicate_succ] at h
        obtain ⟨hhead, htail⟩ := List.cons.inj h
        rw [hhead, ih htail]
      | false =>
        rw [List.filter_cons_of_neg (by simp [ha])] at h
        rw [hmark a ha, ih (take_of_take_succ h)]

lemma cons_take_map_eq_iff (hmark : ∀ a, q a = false → g a = b) :
    b :: (l.map g).take n = ((l.filter q).map g).take (n + 1) ↔
      ((l.filter q).map g).take (n + 1) = List.replicate (n + 1) b := by
  constructor
  · intro h
    have hupto : ∀ k ≤ n + 1, ((l.filter q).map g).take k = List.replicate k b := by
      intro k hk
      induction k with
      | zero => rfl
      | succ k ih =>
        have hcut : ((l.filter q).map g).take (k + 1) = b :: (l.map g).take k := by
          have hcut := congrArg (List.take (k + 1)) h
          rw [List.take_succ_cons, List.take_take, List.take_take, min_eq_left (by omega),
            min_eq_left hk] at hcut
          exact hcut.symm
        rw [hcut, take_map_of_filter hmark (ih (by omega)), List.replicate_succ]
    exact hupto (n + 1) le_rfl
  · intro h
    rw [h, take_map_of_filter hmark (take_of_take_succ h), List.replicate_succ]

lemma take_map_eq_replicate_iff :
    (l.map g).take n = List.replicate n b ↔ n ≤ l.length ∧ ∀ a ∈ l.take n, g a = b := by
  have hlength : min n l.length = n ↔ n ≤ l.length := by omega
  rw [← List.map_take, List.eq_replicate_iff, List.length_map, List.length_take, hlength,
    List.forall_mem_map]

theorem take_map_filter_iff (hmark : ∀ a, q a = false → g a = b) :
    (l.map g).take n = ((l.filter q).map g).take n ↔
      (∀ a ∈ l.take n, q a = true) ∨
        n ≤ (l.filter q).length ∧
          ∀ a ∈ ((l.filter q).take n).drop (l.takeWhile q).length, g a = b := by
  induction l generalizing n with
  | nil => simp
  | cons a l ih =>
    cases n with
    | zero => simp
    | succ n =>
      cases ha : q a with
      | true => simp [ha, ih]
      | false =>
        have hnone : ¬ ∀ a' ∈ (a :: l).take (n + 1), q a' = true := by
          intro hall
          have htrue := hall a (by simp)
          rw [ha] at htrue
          cases htrue
        have hneg : ¬ q a = true := by simp [ha]
        rw [or_iff_right hnone, List.filter_cons_of_neg hneg, List.takeWhile_cons_of_neg hneg,
          List.map_cons, List.take_succ_cons, hmark a ha, cons_take_map_eq_iff hmark,
          take_map_eq_replicate_iff]
        rfl

end OmniTun.Foundation.ErasedMarks
