import Mathlib.Data.List.Basic
import Mathlib.Data.List.GetD
import Mathlib.Tactic.Common

/-! Slices of pointers that share backing arrays: appending in place or to a new array, and removing
by moving the later items down one at a time. -/

namespace OmniTun.Foundation.Slices

variable {α : Type*}

/-- The backing arrays, each with its slots; a slot that was never written holds nothing. -/
abbrev Heap (α : Type*) := List (List (Option α))

structure Slice where
  array : ℕ
  len : ℕ
  deriving DecidableEq

def slots (h : Heap α) (a : ℕ) : List (Option α) := h.getD a []

def items (h : Heap α) (s : Slice) : List (Option α) := (slots h s.array).take s.len

def write (h : Heap α) (a i : ℕ) (x : Option α) : Heap α := h.modify a (·.set i x)

def itemsOf (h : Heap α) (s : Option Slice) : List (Option α) := (s.map (items h)).getD []

/-- `spare` is the room that a new array has beyond its items. -/
def append (spare : ℕ) (h : Heap α) (s : Option Slice) (x : α) : Slice × Heap α :=
  match s with
  | none => (⟨h.length, 1⟩, h ++ [some x :: List.replicate spare none])
  | some s =>
    if s.len < (slots h s.array).length then
      (⟨s.array, s.len + 1⟩, write h s.array s.len (some x))
    else (⟨h.length, s.len + 1⟩, h ++ [items h s ++ some x :: List.replicate spare none])

variable {h : Heap α} {a b i j : ℕ} {s : Slice} {x : Option α}

lemma slots_write (h : Heap α) (a b i : ℕ) (x : Option α) :
    slots (write h a i x) b = if b = a then (slots h a).set i x else slots h b := by
  unfold slots write
  rw [List.getD_eq_getElem?_getD, List.getElem?_modify, List.getD_eq_getElem?_getD,
    List.getD_eq_getElem?_getD]
  split_ifs with hab hba hba
  · subst hab
    cases h[a]? <;> simp
  · exact absurd hab.symm hba
  · exact absurd hba.symm hab
  · cases h[b]? <;> simp

lemma write_length (h : Heap α) (a i : ℕ) (x : Option α) : (write h a i x).length = h.length :=
  List.length_modify ..

lemma slots_concat (h : Heap α) (l : List (Option α)) (hb : b < h.length) :
    slots (h ++ [l]) b = slots h b := by
  unfold slots
  rw [List.getD_append _ _ _ _ hb]

lemma slots_concat_self (h : Heap α) (l : List (Option α)) : slots (h ++ [l]) h.length = l := by
  unfold slots
  rw [List.getD_append_right _ _ _ _ (Nat.le_refl _)]
  simp

lemma items_length (hs : s.len ≤ (slots h s.array).length) : (items h s).length = s.len := by
  rw [items, List.length_take]
  omega

lemma items_write_of_le (hi : b = s.array → s.len ≤ i) : items (write h b i x) s = items h s := by
  unfold items
  rw [slots_write]
  split_ifs with hb
  · rw [hb, List.take_set_of_le (hi hb.symm)]
  · rfl

lemma items_write_self (h : Heap α) (s : Slice) (i : ℕ) (x : Option α) :
    items (write h s.array i x) s = (items h s).set i x := by
  unfold items
  rw [slots_write, if_pos rfl, List.take_set]

lemma items_pred (hs : s.len ≤ (slots h s.array).length) (hpos : 0 < s.len) :
    items h ⟨s.array, s.len - 1⟩ = (items h s).eraseIdx (s.len - 1) := by
  have hlen := items_length hs
  have hlast : s.len - 1 + 1 = (items h s).length := by omega
  rw [List.eraseIdx_eq_dropLast hlast, List.dropLast_eq_take, hlen]
  unfold items
  rw [List.take_take, Nat.min_eq_left (Nat.sub_le _ _)]

lemma items_concat (l : List (Option α)) (hs : s.array < h.length) :
    items (h ++ [l]) s = items h s := by
  rw [items, slots_concat h l hs, items]

lemma append_items (spare : ℕ) (s : Option Slice) (y : α)
    (hs : ∀ t, s = some t → t.len ≤ (slots h t.array).length) :
    items (append spare h s y).2 (append spare h s y).1 = itemsOf h s ++ [some y] := by
  cases s with
  | none =>
    simp only [append, items, slots_concat_self]
    simp [itemsOf]
  | some s =>
    have hle := hs s rfl
    unfold append
    dsimp only
    split_ifs with hlt
    · simp only [items, slots_write, if_true, itemsOf, Option.map_some, Option.getD_some]
      rw [List.take_add_one, List.take_set_of_le (Nat.le_refl _), List.getElem?_set_self hlt]
      simp
    · have hlen := items_length hle
      have hsplit : items h s ++ some y :: List.replicate spare none =
          (items h s ++ [some y]) ++ List.replicate spare none := by simp
      have hlen' : (items h s ++ [some y]).length = s.len + 1 := by simp [hlen]
      rw [items, slots_concat_self, hsplit, ← hlen', List.take_left]
      rfl

lemma slots_write_length (h : Heap α) (a b i : ℕ) (x : Option α) :
    (slots (write h a i x) b).length = (slots h b).length := by
  rw [slots_write]
  split_ifs with hb
  · rw [hb, List.length_set]
  · rfl

lemma mem_items_write {y : Option α} (h' : y ∈ items (write h b i x) s) :
    y ∈ items h s ∨ s.array = b ∧ y = x := by
  unfold items at h' ⊢
  rw [slots_write] at h'
  split_ifs at h' with hb
  · rw [List.take_set] at h'
    rcases List.mem_or_eq_of_mem_set h' with hy | hy
    · exact .inl (hb ▸ hy)
    · exact .inr ⟨hb, hy⟩
  · exact .inl h'

lemma append_array (spare : ℕ) (s : Option Slice) (y : α) :
    (∃ t, s = some t ∧ (append spare h s y).1.array = t.array) ∨
      (append spare h s y).1.array = h.length := by
  cases s with
  | none => exact .inr rfl
  | some t =>
    unfold append
    dsimp only
    split_ifs
    · exact .inl ⟨t, rfl, rfl⟩
    · exact .inr rfl

lemma append_valid (spare : ℕ) (s : Option Slice) (y : α)
    (hs : ∀ t, s = some t → t.array < h.length ∧ t.len ≤ (slots h t.array).length) :
    (append spare h s y).1.array < (append spare h s y).2.length ∧
      (append spare h s y).1.len ≤
        (slots (append spare h s y).2 (append spare h s y).1.array).length := by
  cases s with
  | none =>
    simp only [append, slots_concat_self]
    simp
  | some t =>
    obtain ⟨hlt, hle⟩ := hs t rfl
    unfold append
    dsimp only
    split_ifs with hroom
    · simpa [write_length, slots_write_length] using ⟨hlt, hroom⟩
    · have hlen := items_length hle
      simp only [slots_concat_self]
      simp [hlen]

lemma eraseIdx_set_next {l : List (Option α)} {k : ℕ} (hk : l[k + 1]? = some x) :
    (l.set k x).eraseIdx (k + 1) = l.eraseIdx k := by
  induction l generalizing k with
  | nil => simp at hk
  | cons y l ih =>
    cases k with
    | zero =>
      cases l with
      | nil => simp at hk
      | cons z l => simp_all
    | succ k => simpa using ih (k := k) (by simpa using hk)

end OmniTun.Foundation.Slices
