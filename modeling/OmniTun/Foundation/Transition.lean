import Mathlib.Data.List.Basic
import Mathlib.Tactic.Common

/-! Runs of a partial labelled transition function, and invariants along them. -/

namespace OmniTun.Foundation.Transition

variable {σ α : Type*} (step : σ → α → Option σ)

def run : σ → List α → Option σ
  | s, [] => some s
  | s, a :: as => (step s a).bind fun t => run t as

def Always (P : σ → Prop) : σ → List α → Prop
  | s, [] => P s
  | s, a :: as => P s ∧ ∀ t, step s a = some t → Always P t as

def Guarded (G : σ → α → Prop) : σ → List α → Prop
  | _, [] => True
  | s, a :: as => ∀ t, step s a = some t → G s a ∧ Guarded G t as

instance Guarded.decidable {G : σ → α → Prop} [∀ s a, Decidable (G s a)] :
    ∀ s as, Decidable (Guarded step G s as)
  | _, [] => isTrue trivial
  | s, a :: as =>
    match h : step s a with
    | none => isTrue (by simp [Guarded, h])
    | some t =>
      have : Decidable (Guarded step G t as) := Guarded.decidable t as
      decidable_of_iff (G s a ∧ Guarded step G t as) (by simp [Guarded, h])

variable {step} {P Q : σ → Prop} {G : σ → α → Prop} {s t u : σ} {as bs : List α}

@[simp] lemma run_nil : run step s [] = some s := rfl

@[simp] lemma run_cons {a : α} : run step s (a :: as) = (step s a).bind fun t => run step t as := rfl

lemma run_concat {a : α} : run step s (as ++ [a]) = (run step s as).bind fun t => step t a := by
  induction as generalizing s with
  | nil => simp
  | cons b as ih =>
    cases h : step s b with
    | none => simp [h]
    | some t => simpa [h] using ih

lemma run_append : run step s (as ++ bs) = (run step s as).bind fun t => run step t bs := by
  induction as generalizing s with
  | nil => rfl
  | cons a as ih =>
    cases h : step s a with
    | none => simp [h]
    | some t => simpa [h] using ih

lemma Always.head (h : Always step P s as) : P s := by
  cases as with
  | nil => exact h
  | cons a as => exact h.1

lemma Always.mono (h : Always step P s as) (hPQ : ∀ s, P s → Q s) : Always step Q s as := by
  induction as generalizing s with
  | nil => exact hPQ _ h
  | cons a as ih => exact ⟨hPQ _ h.1, fun t ht => ih (h.2 t ht)⟩

lemma Always.append (h : Always step P s (as ++ bs)) (hr : run step s as = some t) :
    Always step P t bs := by
  induction as generalizing s with
  | nil => exact Option.some.inj hr ▸ h
  | cons a as ih =>
    obtain ⟨u, hu, hr'⟩ := Option.bind_eq_some_iff.mp hr
    exact ih (h.2 u hu) hr'

lemma Always.last (h : Always step P s as) (hr : run step s as = some t) : P t := by
  rw [← List.append_nil as] at h
  exact h.append hr

lemma Guarded.cons {a : α} (h : step s a = some t) (ha : G s a) (hg : Guarded step G t as) :
    Guarded step G s (a :: as) := by
  intro u hu
  obtain rfl := Option.some.inj (h.symm.trans hu)
  exact ⟨ha, hg⟩

lemma Guarded.last {a : α} (h : Guarded step G s (as ++ [a])) (hr : run step s as = some t)
    (hu : step t a = some u) : G t a := by
  induction as generalizing s with
  | nil =>
    obtain rfl := Option.some.inj hr
    exact (h u hu).1
  | cons b as ih =>
    obtain ⟨v, hv, hr'⟩ := Option.bind_eq_some_iff.mp hr
    exact ih (h v hv).2 hr'

lemma always_invariant (hs : P s) (hstep : ∀ s a t, P s → step s a = some t → P t) :
    Always step P s as := by
  induction as generalizing s with
  | nil => exact hs
  | cons a as ih => exact ⟨hs, fun t ht => ih (hstep s a t hs ht)⟩

lemma run_invariant (hs : P s) (hr : run step s as = some t)
    (hstep : ∀ s a t, P s → step s a = some t → P t) : P t := by
  induction as generalizing s with
  | nil => exact Option.some.inj hr ▸ hs
  | cons a as ih =>
    obtain ⟨u, hu, hr'⟩ := Option.bind_eq_some_iff.mp hr
    exact ih (hstep s a u hs hu) hr'

lemma guarded_invariant (hs : P s) (hg : Guarded step G s as) (hr : run step s as = some t)
    (hstep : ∀ s a t, P s → G s a → step s a = some t → P t) : P t := by
  induction as generalizing s with
  | nil => exact Option.some.inj hr ▸ hs
  | cons a as ih =>
    obtain ⟨u, hu, hr'⟩ := Option.bind_eq_some_iff.mp hr
    obtain ⟨ha, hg'⟩ := hg u hu
    exact ih (hstep s a u hs ha hu) hg' hr'

lemma always_of_guarded (hs : P s) (hg : Guarded step G s as)
    (hstep : ∀ s a t, P s → G s a → step s a = some t → P t) : Always step P s as := by
  induction as generalizing s with
  | nil => exact hs
  | cons a as ih =>
    refine ⟨hs, fun t ht => ?_⟩
    obtain ⟨ha, hg'⟩ := hg t ht
    exact ih (hstep s a t hs ha ht) hg'

lemma guarded_of_forall (h : ∀ s a, G s a) : Guarded step G s as := by
  induction as generalizing s with
  | nil => trivial
  | cons a as ih => exact fun t _ => ⟨h s a, ih⟩

lemma always_and_guarded_iff_of_invariant {H : σ → α → Prop} (hs : P s) (hq : Q s)
    (hstep : ∀ s a t, P s → Q s → step s a = some t → Q t ∧ (P t ∧ H s a ↔ G s a)) :
    Always step P s as ∧ Guarded step H s as ↔ Guarded step G s as := by
  induction as generalizing s with
  | nil => exact ⟨fun _ => trivial, fun _ => ⟨hs, trivial⟩⟩
  | cons a as ih =>
    constructor
    · rintro ⟨⟨-, halways⟩, hguarded⟩ t ht
      have hp := (halways t ht).head
      obtain ⟨ha, hrest⟩ := hguarded t ht
      obtain ⟨hq', hiff⟩ := hstep s a t hs hq ht
      exact ⟨hiff.mp ⟨hp, ha⟩, (ih hp hq').mp ⟨halways t ht, hrest⟩⟩
    · intro hguarded
      have hnext : ∀ t, step s a = some t → P t ∧ H s a ∧ Always step P t as ∧
          Guarded step H t as := by
        intro t ht
        obtain ⟨ha, hrest⟩ := hguarded t ht
        obtain ⟨hq', hiff⟩ := hstep s a t hs hq ht
        obtain ⟨hp, hh⟩ := hiff.mpr ha
        exact ⟨hp, hh, (ih hp hq').mpr hrest⟩
      exact ⟨⟨hs, fun t ht => (hnext t ht).2.2.1⟩,
        fun t ht => ⟨(hnext t ht).2.1, (hnext t ht).2.2.2⟩⟩

lemma always_and_guarded_iff {H : σ → α → Prop} (hs : P s)
    (hstep : ∀ s a t, P s → step s a = some t → (P t ∧ H s a ↔ G s a)) :
    Always step P s as ∧ Guarded step H s as ↔ Guarded step G s as := by
  have hq : (fun _ : σ => True) s := trivial
  exact always_and_guarded_iff_of_invariant hs hq fun s a t h _ ht => ⟨trivial, hstep s a t h ht⟩

lemma guarded_congr_of_invariant {H : σ → α → Prop} (hs : P s)
    (hstep : ∀ s a t, P s → step s a = some t → P t ∧ (G s a ↔ H s a)) :
    Guarded step G s as ↔ Guarded step H s as := by
  induction as generalizing s with
  | nil => exact Iff.rfl
  | cons a as ih =>
    refine forall₂_congr fun t ht => ?_
    obtain ⟨hp, hiff⟩ := hstep s a t hs ht
    exact and_congr hiff (ih hp)

lemma guarded_congr {H : σ → α → Prop} (h : ∀ s a, G s a ↔ H s a) :
    Guarded step G s as ↔ Guarded step H s as := by
  have hs : (fun _ : σ => True) s := trivial
  exact guarded_congr_of_invariant hs fun s a _ _ _ => ⟨trivial, h s a⟩

lemma always_iff_guarded_of_guarded {U : σ → α → Prop} (hs : P s) (hq : Q s)
    (hu : Guarded step U s as)
    (hstep : ∀ s a t, P s → Q s → U s a → step s a = some t → (P t ↔ G s a) ∧ (P t → Q t)) :
    Always step P s as ↔ Guarded step G s as := by
  induction as generalizing s with
  | nil => exact ⟨fun _ => trivial, fun _ => hs⟩
  | cons a as ih =>
    constructor
    · rintro ⟨_, h⟩ t ht
      obtain ⟨ha, hu'⟩ := hu t ht
      obtain ⟨hi, hk⟩ := hstep s a t hs hq ha ht
      have hp := (h t ht).head
      exact ⟨hi.mp hp, (ih hp (hk hp) hu').mp (h t ht)⟩
    · intro h
      refine ⟨hs, fun t ht => ?_⟩
      obtain ⟨ha, hu'⟩ := hu t ht
      obtain ⟨hi, hk⟩ := hstep s a t hs hq ha ht
      obtain ⟨hg, hg'⟩ := h t ht
      exact (ih (hi.mpr hg) (hk (hi.mpr hg)) hu').mpr hg'

lemma always_iff_guarded (hs : P s) (hq : Q s)
    (hstep : ∀ s a t, P s → Q s → step s a = some t → (P t ↔ G s a) ∧ (P t → Q t)) :
    Always step P s as ↔ Guarded step G s as := by
  have hu : Guarded step (fun _ _ => True) s as := guarded_of_forall fun _ _ => trivial
  exact always_iff_guarded_of_guarded hs hq hu fun s a t h hq _ => hstep s a t h hq

lemma always_iff_guarded_of_step (hs : P s)
    (hstep : ∀ s a t, P s → step s a = some t → (P t ↔ G s a)) :
    Always step P s as ↔ Guarded step G s as := by
  have hq : (fun _ : σ => True) s := trivial
  exact always_iff_guarded hs hq fun s a t h _ ht => ⟨hstep s a t h ht, fun _ => trivial⟩

end OmniTun.Foundation.Transition
