import Mathlib.Data.List.Sort
import Mathlib.Tactic.Common

/-! Pages of rows that are sorted by a time, where every query may break the ties in its own way. -/

namespace OmniTun.Foundation.TiedPages

variable {α β γ : Type} [LinearOrder γ] {time : α → γ}

/-- Rows of the same time come in any order. -/
structure Sorting (time : α → γ) where
  sort : List α → List α
  perm : ∀ l, (sort l).Perm l
  sorted : ∀ l, (sort l).Pairwise fun a b => time a ≤ time b

def page (l : List α) (count k : ℕ) : List α := (l.drop (k * count)).take count

def pages (sorts : ℕ → Sorting time) (rows : List α) (count n : ℕ) : List α :=
  (List.range n).flatMap fun k => page ((sorts k).sort rows) count k

def earlier (time : α → γ) (rows : List α) (a : α) : ℕ := rows.countP fun b => time b < time a

def upTo (time : α → γ) (rows : List α) (a : α) : ℕ := rows.countP fun b => time b ≤ time a

/-- Rows of one time stand on both sides of the position. -/
def Straddled (time : α → γ) (rows : List α) (i : ℕ) : Prop :=
  ∃ a ∈ rows, earlier time rows a < i ∧ i < upTo time rows a

namespace Sorting

def merging (time : α → γ) : Sorting time where
  sort l := l.mergeSort fun a b => time a ≤ time b
  perm l := List.mergeSort_perm l _
  sorted l := by
    have h := @List.pairwise_mergeSort α (fun a b => decide (time a ≤ time b))
      (fun a b c hab hbc => by simpa using le_trans (of_decide_eq_true hab) (of_decide_eq_true hbc))
      (fun a b => by simpa using le_total (time a) (time b)) l
    simpa using h

def choosing [DecidableEq α] (time : α → γ) {rows l : List α} (hperm : l.Perm rows)
    (hsorted : l.Pairwise fun a b => time a ≤ time b) : Sorting time where
  sort l' := if l' = rows then l else (merging time).sort l'
  perm l' := by
    split_ifs with h
    · rw [h]
      exact hperm
    · exact (merging time).perm l'
  sorted l' := by
    split_ifs
    · exact hsorted
    · exact (merging time).sorted l'

end Sorting

section Pages

variable {f : α → β} {sorts : ℕ → Sorting time} {s s' : Sorting time} {rows : List α}
  {count k n : ℕ}

lemma pages_succ (sorts : ℕ → Sorting time) (rows : List α) (count n : ℕ) :
    pages sorts rows count (n + 1) =
      pages sorts rows count n ++ page ((sorts n).sort rows) count n := by
  rw [pages, List.range_succ, List.flatMap_append, List.flatMap_singleton]
  rfl

lemma take_append_page (l : List α) (count k : ℕ) :
    l.take (k * count) ++ page l count k = l.take ((k + 1) * count) := by
  rw [page, Nat.succ_mul, List.take_add]

lemma pages_eq_take (h : ∀ k < n, sorts k = s) :
    pages sorts rows count n = (s.sort rows).take (n * count) := by
  induction n with
  | zero => simp [pages]
  | succ n ih =>
    rw [pages_succ, ih fun k hk => h k (by omega), h n (by omega), take_append_page]

lemma pages_two (s s' : Sorting time) (rows : List α) (count k m : ℕ) :
    pages (fun i => if i < k then s else s') rows count (k + m) =
      (s.sort rows).take (k * count) ++ ((s'.sort rows).drop (k * count)).take (m * count) := by
  induction m with
  | zero =>
    rw [Nat.add_zero, Nat.zero_mul, List.take_zero, List.append_nil]
    apply pages_eq_take
    intro i hi
    exact if_pos hi
  | succ m ih =>
    have hlater : ¬ k + m < k := by omega
    rw [← Nat.add_assoc, pages_succ, ih, if_neg hlater, List.append_assoc]
    congr 1
    rw [Nat.succ_mul, List.take_add, List.drop_drop, page, Nat.add_mul]

def Agree (time : α → γ) (f : α → β) (rows : List α) (i : ℕ) : Prop :=
  ∀ s s' : Sorting time, (((s.sort rows).take i).map f).Perm (((s'.sort rows).take i).map f)

lemma agree_of_length_le {i : ℕ} (h : rows.length ≤ i) : Agree time f rows i := by
  intro s s'
  have hs : (s.sort rows).length ≤ i := by
    rw [(s.perm rows).length_eq]
    exact h
  have hs' : (s'.sort rows).length ≤ i := by
    rw [(s'.perm rows).length_eq]
    exact h
  rw [List.take_of_length_le hs, List.take_of_length_le hs']
  exact ((s.perm rows).trans (s'.perm rows).symm).map f

lemma pages_perm_take (h : ∀ k, Agree time f rows (k * count)) (sorts : ℕ → Sorting time)
    (s : Sorting time) (n : ℕ) :
    ((pages sorts rows count n).map f).Perm (((s.sort rows).take (n * count)).map f) := by
  induction n with
  | zero => simp [pages]
  | succ n ih =>
    have hfront := ih.trans (h n s (sorts n))
    have hpage := hfront.append_right ((page ((sorts n).sort rows) count n).map f)
    rw [← List.map_append, ← List.map_append, take_append_page] at hpage
    rw [pages_succ]
    exact hpage.trans (h (n + 1) (sorts n) s)

lemma pages_perm_iff_agree (hn : rows.length ≤ n * count) :
    (∀ sorts : ℕ → Sorting time, ((pages sorts rows count n).map f).Perm (rows.map f)) ↔
      ∀ k, Agree time f rows (k * count) := by
  constructor
  · intro h k s s'
    by_cases hk : rows.length ≤ k * count
    · exact agree_of_length_le hk s s'
    · obtain ⟨m, rfl⟩ : ∃ m, n = k + m := by
        apply Nat.exists_eq_add_of_le
        by_contra hlt
        have hle := Nat.mul_le_mul_right count (Nat.le_of_not_le hlt)
        omega
      have hall : ((s'.sort rows).drop (k * count)).length ≤ m * count := by
        rw [List.length_drop, (s'.perm rows).length_eq]
        rw [Nat.add_mul] at hn
        omega
      have hpages := h fun i => if i < k then s else s'
      rw [pages_two, List.take_of_length_le hall] at hpages
      have hwhole := ((s'.perm rows).map f).symm
      rw [← List.take_append_drop (k * count) (s'.sort rows)] at hwhole
      have hboth := hpages.trans hwhole
      rw [List.map_append, List.map_append] at hboth
      exact (List.perm_append_right_iff _).mp hboth
  · intro h sorts
    have hlen : ((sorts 0).sort rows).length ≤ n * count := by
      rw [((sorts 0).perm rows).length_eq]
      exact hn
    have htake := pages_perm_take h sorts (sorts 0) n
    rw [List.take_of_length_le hlen] at htake
    exact htake.trans (((sorts 0).perm rows).map f)

end Pages

section Ties

variable {f : α → β} {s : Sorting time} {rows l : List α} {q : α → Bool} {i : ℕ}

lemma lt_countP_iff (h : l.Pairwise fun a b => q b → q a) (hi : i < l.length) :
    i < l.countP q ↔ q l[i] = true := by
  induction l generalizing i with
  | nil => exact absurd hi (Nat.not_lt_zero i)
  | cons a l ih =>
    obtain ⟨ha, hl⟩ := List.pairwise_cons.mp h
    cases hq : q a with
    | true =>
      rw [List.countP_cons_of_pos hq]
      cases i with
      | zero => simp [hq]
      | succ i => simpa using ih hl (Nat.lt_of_succ_lt_succ hi)
    | false =>
      have hnone : ∀ b ∈ a :: l, q b = false := by
        intro b hb
        rcases List.mem_cons.mp hb with rfl | hb
        · exact hq
        · rw [Bool.eq_false_iff]
          intro hqb
          rw [ha b hb hqb] at hq
          cases hq
      have hzero : (a :: l).countP q = 0 := by
        apply List.countP_eq_zero.mpr
        intro b hb
        rw [hnone b hb]
        exact Bool.false_ne_true
      rw [hzero, hnone _ (List.getElem_mem hi)]
      simp

lemma take_countP (h : l.Pairwise fun a b => q b → q a) : l.take (l.countP q) = l.filter q := by
  induction l with
  | nil => rfl
  | cons a l ih =>
    obtain ⟨ha, hl⟩ := List.pairwise_cons.mp h
    cases hq : q a with
    | true => rw [List.countP_cons_of_pos hq, List.take_succ_cons, ih hl, List.filter_cons_of_pos hq]
    | false =>
      have hnone : ∀ b ∈ a :: l, ¬ q b = true := by
        intro b hb hqb
        rcases List.mem_cons.mp hb with rfl | hb
        · rw [hq] at hqb
          cases hqb
        · rw [ha b hb hqb] at hq
          cases hq
      rw [List.countP_eq_zero.mpr hnone, List.take_zero, List.filter_eq_nil_iff.mpr hnone]

lemma lt_earlier_iff (s : Sorting time) (a : α) (hi : i < (s.sort rows).length) :
    i < earlier time rows a ↔ time (s.sort rows)[i] < time a := by
  rw [earlier, ← (s.perm rows).countP_eq, lt_countP_iff _ hi, decide_eq_true_iff]
  apply (s.sorted rows).imp
  intro b c hbc hc
  exact decide_eq_true (lt_of_le_of_lt hbc (of_decide_eq_true hc))

lemma lt_upTo_iff (s : Sorting time) (a : α) (hi : i < (s.sort rows).length) :
    i < upTo time rows a ↔ time (s.sort rows)[i] ≤ time a := by
  rw [upTo, ← (s.perm rows).countP_eq, lt_countP_iff _ hi, decide_eq_true_iff]
  apply (s.sorted rows).imp
  intro b c hbc hc
  exact decide_eq_true (le_trans hbc (of_decide_eq_true hc))

lemma earlier_eq (h : ¬ Straddled time rows i) (s : Sorting time) (hi : i < (s.sort rows).length) :
    earlier time rows (s.sort rows)[i] = i := by
  have hmem : (s.sort rows)[i] ∈ rows := (s.perm rows).mem_iff.mp (List.getElem_mem hi)
  have hle : ¬ i < earlier time rows (s.sort rows)[i] := by
    rw [lt_earlier_iff s _ hi]
    exact lt_irrefl _
  have hlt : i < upTo time rows (s.sort rows)[i] := (lt_upTo_iff s _ hi).mpr le_rfl
  have hge : ¬ earlier time rows (s.sort rows)[i] < i := fun hlow => h ⟨_, hmem, hlow, hlt⟩
  omega

lemma take_eq_filter (h : ¬ Straddled time rows i) (s : Sorting time)
    (hi : i < (s.sort rows).length) :
    (s.sort rows).take i =
      (s.sort rows).filter fun b => time b < time (s.sort rows)[i] := by
  have hcount : (s.sort rows).countP (fun b => time b < time (s.sort rows)[i]) = i := by
    rw [(s.perm rows).countP_eq]
    exact earlier_eq h s hi
  rw [← take_countP, hcount]
  apply (s.sorted rows).imp
  intro b c hbc hc
  exact decide_eq_true (lt_of_le_of_lt hbc (of_decide_eq_true hc))

lemma agree_of_not_straddled (h : ¬ Straddled time rows i) : Agree time f rows i := by
  by_cases hi : rows.length ≤ i
  · exact agree_of_length_le hi
  · intro s s'
    have hs : i < (s.sort rows).length := by
      rw [(s.perm rows).length_eq]
      omega
    have hs' : i < (s'.sort rows).length := by
      rw [(s'.perm rows).length_eq]
      omega
    -- no row of the one time comes before the position in the other order
    have hle : ¬ time (s.sort rows)[i] < time (s'.sort rows)[i] := by
      rw [← lt_earlier_iff s _ hs, earlier_eq h s' hs']
      exact lt_irrefl i
    have hge : ¬ time (s'.sort rows)[i] < time (s.sort rows)[i] := by
      rw [← lt_earlier_iff s' _ hs', earlier_eq h s hs]
      exact lt_irrefl i
    have htime := le_antisymm (not_lt.mp hge) (not_lt.mp hle)
    rw [take_eq_filter h s hs, take_eq_filter h s' hs', htime]
    exact (((s.perm rows).trans (s'.perm rows).symm).filter _).map f

lemma pairwise_swap {l r : List α} {a b : α} (heq : time a = time b)
    (h : (l ++ a :: b :: r).Pairwise fun a b => time a ≤ time b) :
    (l ++ b :: a :: r).Pairwise fun a b => time a ≤ time b := by
  simp only [List.pairwise_append, List.pairwise_cons, List.mem_cons] at h ⊢
  grind

lemma not_agree_of_tie [DecidableEq α] (hnodup : (rows.map f).Nodup) {l r : List α} {a b : α}
    (hsort : s.sort rows = l ++ a :: b :: r) (htime : time a = time b) :
    ¬ Agree time f rows (l.length + 1) := by
  intro hagree
  have hperm : (l ++ a :: b :: r).Perm rows := by
    rw [← hsort]
    exact s.perm rows
  have hsorted := s.sorted rows
  rw [hsort] at hsorted
  have hswap : (l ++ b :: a :: r).Perm rows := ((List.Perm.swap a b r).append_left l).trans hperm
  have hchosen : (Sorting.choosing time hswap (pairwise_swap htime hsorted)).sort rows =
      l ++ b :: a :: r := if_pos rfl
  have htake := hagree s (Sorting.choosing time hswap (pairwise_swap htime hsorted))
  rw [hsort, hchosen, List.take_length_add_append, List.take_length_add_append, List.map_append,
    List.map_append, List.perm_append_left_iff] at htake
  have heq : f a = f b := by simpa using htake
  have hne : ((l ++ a :: b :: r).map f).Nodup := (hperm.map f).nodup_iff.mpr hnodup
  rw [List.map_append, List.nodup_append] at hne
  simp [heq] at hne

lemma not_agree_of_straddled [DecidableEq α] (hnodup : (rows.map f).Nodup)
    (h : Straddled time rows i) : ¬ Agree time f rows i := by
  obtain ⟨a, ha, hlow, hhigh⟩ := h
  obtain ⟨j, rfl⟩ : ∃ j, i = j + 1 := Nat.exists_eq_succ_of_ne_zero (by omega)
  intro hagree
  let s : Sorting time := Sorting.merging time
  have hlen : (s.sort rows).length = rows.length := (s.perm rows).length_eq
  have hcount : upTo time rows a ≤ rows.length := List.countP_le_length
  have hj : j < (s.sort rows).length := by omega
  have hj' : j + 1 < (s.sort rows).length := by omega
  have hfirst := (lt_earlier_iff s a hj).not.mp (by omega)
  have hsecond := (lt_upTo_iff s a hj').mp hhigh
  have hsorted := s.sorted rows
  have hle : time (s.sort rows)[j] ≤ time (s.sort rows)[j + 1] :=
    List.pairwise_iff_getElem.mp hsorted j (j + 1) hj hj' (by omega)
  have htime : time (s.sort rows)[j] = time (s.sort rows)[j + 1] :=
    le_antisymm hle (hsecond.trans (not_lt.mp hfirst))
  have hsplit : s.sort rows = (s.sort rows).take j ++
      (s.sort rows)[j] :: (s.sort rows)[j + 1] :: (s.sort rows).drop (j + 2) := by
    rw [← List.drop_eq_getElem_cons hj', ← List.drop_eq_getElem_cons hj, List.take_append_drop]
  apply not_agree_of_tie hnodup hsplit htime
  rw [List.length_take_of_le (by omega)]
  exact hagree

end Ties

/-- The pages give every row once, whatever the queries do with the ties, just when no tie lies
across a border of two pages. -/
theorem pages_perm_iff [DecidableEq α] {f : α → β} {rows : List α} {count n : ℕ}
    (hnodup : (rows.map f).Nodup) (hn : rows.length ≤ n * count) :
    (∀ sorts : ℕ → Sorting time, ((pages sorts rows count n).map f).Perm (rows.map f)) ↔
      ∀ k, ¬ Straddled time rows (k * count) := by
  rw [pages_perm_iff_agree hn]
  apply forall_congr'
  intro k
  constructor
  · intro hagree hstraddled
    exact not_agree_of_straddled hnodup hstraddled hagree
  · exact agree_of_not_straddled

end OmniTun.Foundation.TiedPages
