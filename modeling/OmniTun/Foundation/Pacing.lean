import Mathlib.Algebra.Order.Group.Int
import Mathlib.Data.List.Chain
import Mathlib.Tactic.Ring

/-! Instants that keep a distance from one another. -/

namespace OmniTun.Foundation.Pacing

def Spaced (d : ℤ) (ts : List ℤ) : Prop := ts.IsChain fun a b => a + d ≤ b

variable {d a w t : ℤ} {ts us : List ℤ}

lemma spaced_nil : Spaced d [] := List.IsChain.nil

lemma Spaced.concat (h : Spaced d ts) (ht : ∀ s ∈ ts.getLast?, s + d ≤ t) :
    Spaced d (ts ++ [t]) := by
  apply List.IsChain.append h (List.isChain_singleton t)
  intro s hs u hu
  obtain rfl := Option.some.inj hu
  exact ht s hs

lemma Spaced.first_last (h : Spaced d (t :: ts)) :
    ∀ s ∈ (t :: ts).getLast?, t + ts.length * d ≤ s := by
  induction ts generalizing t with
  | nil =>
    intro s hs
    obtain rfl := Option.some.inj hs
    simp
  | cons u ts ih =>
    intro s hs
    obtain ⟨hfirst, hrest⟩ := List.isChain_cons_cons.mp h
    rw [List.getLast?_cons_cons] at hs
    have hlast := ih hrest s hs
    have hlength : ((u :: ts).length : ℤ) * d = ts.length * d + d := by
      rw [List.length_cons]
      push_cast
      ring
    omega

lemma Spaced.sublist (h : Spaced d ts) (hd : 0 ≤ d) (hs : us.Sublist ts) : Spaced d us := by
  have htrans : IsTrans ℤ fun a b => a + d ≤ b := ⟨fun a b c hab hbc => by omega⟩
  exact (h.pairwise.sublist hs).isChain

lemma Spaced.window (h : Spaced d ts) (hd : 0 < d) (hw : 0 ≤ w) (a : ℤ) :
    ((ts.filter fun t => a ≤ t ∧ t ≤ a + w).length : ℤ) ≤ w / d + 1 := by
  have hspaced := h.sublist hd.le (List.filter_sublist (p := fun t => a ≤ t ∧ t ≤ a + w))
  have hmem : ∀ t ∈ ts.filter fun t => a ≤ t ∧ t ≤ a + w, a ≤ t ∧ t ≤ a + w := by
    intro t ht
    simpa using (List.mem_filter.mp ht).2
  generalize ts.filter (fun t => a ≤ t ∧ t ≤ a + w) = us at hspaced hmem
  cases us with
  | nil =>
    have hnonneg := Int.ediv_nonneg hw hd.le
    simp only [List.length_nil]
    omega
  | cons t us =>
    obtain ⟨s, hs⟩ : ∃ s, s ∈ (t :: us).getLast? := ⟨_, List.getLast?_cons⟩
    have hfirst := hmem t List.mem_cons_self
    have hlast := hmem s (List.mem_of_mem_getLast? hs)
    have hdist := hspaced.first_last s hs
    have hlength : (us.length : ℤ) ≤ w / d := by
      rw [Int.le_ediv_iff_mul_le hd]
      omega
    rw [List.length_cons]
    push_cast
    omega

end OmniTun.Foundation.Pacing
