import OmniTun.Foundation.Transition

/-! Work that some of a system's steps use up and others add to, and what the labels of one run let
it keep. -/

namespace OmniTun.Foundation.Transition

variable {σ α : Type*} {step : σ → α → Option σ} {P : σ → Prop} {work : σ → ℕ} {p q : α → Bool}
  {n : ℕ} {s t : σ} {as : List α}

lemma countP_add_le (hs : P s) (hr : run step s as = some t)
    (hstep : ∀ s a t, P s → step s a = some t →
      P t ∧ work t + (if p a then 1 else 0) ≤ work s + (if q a then n else 0)) :
    as.countP p + work t ≤ work s + n * as.countP q := by
  induction as generalizing s with
  | nil =>
    obtain rfl := Option.some.inj hr
    simp
  | cons a as ih =>
    obtain ⟨u, hu, hr'⟩ := Option.bind_eq_some_iff.mp hr
    obtain ⟨hP, hfirst⟩ := hstep s a u hs hu
    have hrest := ih hP hr'
    rw [List.countP_cons, List.countP_cons, Nat.mul_add]
    have hgain : n * (if q a then 1 else 0) = if q a then n else 0 := by
      split_ifs <;> simp
    rw [hgain]
    omega

lemma run_invariant_of_mem (hs : P s) (hr : run step s as = some t)
    (hstep : ∀ s a t, a ∈ as → P s → step s a = some t → P t) : P t := by
  induction as generalizing s with
  | nil => exact Option.some.inj hr ▸ hs
  | cons a as ih =>
    obtain ⟨u, hu, hr'⟩ := Option.bind_eq_some_iff.mp hr
    have hP := hstep s a u List.mem_cons_self hs hu
    exact ih hP hr' fun s b t hb => hstep s b t (List.mem_cons_of_mem a hb)

end OmniTun.Foundation.Transition
