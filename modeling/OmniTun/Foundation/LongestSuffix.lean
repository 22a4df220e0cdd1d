import Mathlib.Data.List.Infix

/-! The longest suffix of a list that has a property. -/

namespace OmniTun.Foundation

variable {α : Type*} {P : List α → Prop} {l s s' : List α} {a : α}

structure LongestSuffix (P : List α → Prop) (l s : List α) : Prop where
  suffix : s <:+ l
  holds : P s
  longest : ∀ t, t <:+ l → P t → t.length ≤ s.length

namespace LongestSuffix

lemma unique (h : LongestSuffix P l s) (h' : LongestSuffix P l s') : s = s' := by
  have hle := h'.longest s h.suffix h.holds
  have hge := h.longest s' h'.suffix h'.holds
  exact (List.suffix_of_suffix_length_le h.suffix h'.suffix hle).eq_of_length (by omega)

lemma self (h : P l) : LongestSuffix P l l :=
  ⟨List.suffix_rfl, h, fun _ ht _ => ht.length_le⟩

lemma self_iff (h : P l) : LongestSuffix P l s ↔ s = l := by
  constructor
  · intro hs
    exact hs.unique (self h)
  · rintro rfl
    exact self h

lemma cons_iff (h : ¬ P (a :: l)) : LongestSuffix P (a :: l) s ↔ LongestSuffix P l s := by
  have hsuffix : ∀ t, P t → (t <:+ a :: l ↔ t <:+ l) := by
    intro t ht
    rw [List.suffix_cons_iff]
    apply or_iff_right
    rintro rfl
    exact h ht
  constructor
  · intro hs
    refine ⟨(hsuffix s hs.holds).mp hs.suffix, hs.holds, fun t ht hp => ?_⟩
    exact hs.longest t ((hsuffix t hp).mpr ht) hp
  · intro hs
    refine ⟨(hsuffix s hs.holds).mpr hs.suffix, hs.holds, fun t ht hp => ?_⟩
    exact hs.longest t ((hsuffix t hp).mp ht) hp

lemma not_nil (h : ¬ P []) : ¬ LongestSuffix P [] s := by
  intro hs
  have hnil := List.suffix_nil.mp hs.suffix
  exact h (hnil ▸ hs.holds)

lemma of_suffix (h : P s) (hs : s <:+ l) : ∃ t, LongestSuffix P l t := by
  induction l with
  | nil =>
    obtain rfl := List.suffix_nil.mp hs
    exact ⟨[], self h⟩
  | cons a l ih =>
    by_cases hp : P (a :: l)
    · exact ⟨a :: l, self hp⟩
    · rcases List.suffix_cons_iff.mp hs with rfl | hs
      · exact absurd h hp
      · obtain ⟨t, ht⟩ := ih hs
        exact ⟨t, (cons_iff hp).mpr ht⟩

end LongestSuffix

end OmniTun.Foundation
