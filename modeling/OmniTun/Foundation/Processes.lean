import Mathlib.Logic.Function.Basic
import OmniTun.Foundation.Transition

/-! Processes that take turns on one store: each has a local state of its own, and a step changes
the local state of one of them and the store. -/

namespace OmniTun.Foundation.Processes

open Transition

variable {ι α L σ : Type*} [DecidableEq ι]

structure World (ι L σ : Type*) where
  locals : ι → L
  store : σ

/-- The label of a step names the process and settles what its environment does. -/
def step (next : ι → α → L → σ → Option (L × σ)) (w : World ι L σ) (a : ι × α) :
    Option (World ι L σ) :=
  (next a.1 a.2 (w.locals a.1) w.store).map fun r => ⟨Function.update w.locals a.1 r.1, r.2⟩

variable {next : ι → α → L → σ → Option (L × σ)} {w w' : World ι L σ} {a : ι × α}

lemma step_eq_some (h : step next w a = some w') : ∃ l s,
    next a.1 a.2 (w.locals a.1) w.store = some (l, s) ∧
      w' = ⟨Function.update w.locals a.1 l, s⟩ := by
  obtain ⟨⟨l, s⟩, hn, rfl⟩ := Option.map_eq_some_iff.mp h
  exact ⟨l, s, hn, rfl⟩

lemma update_cases {ls : ι → L} {i j : ι} {l : L} (p : L → Prop) (h : p (Function.update ls i l j)) :
    (j = i ∧ p l) ∨ (j ≠ i ∧ p (ls j)) := by
  by_cases hj : j = i
  · subst hj
    exact .inl ⟨rfl, by simpa using h⟩
  · exact .inr ⟨hj, by simpa [hj] using h⟩

/-- A fact of the store and one of each process that a process keeps for itself and, when it takes a
step, for every other one. -/
structure NonInterfering (next : ι → α → L → σ → Option (L × σ)) (Shared : σ → Prop)
    (Own : ι → L → σ → Prop) : Prop where
  own : ∀ {i a l s l' s'}, Shared s → Own i l s → next i a l s = some (l', s') →
    Shared s' ∧ Own i l' s'
  other : ∀ {i j a l m s l' s'}, i ≠ j → Shared s → Own i l s → Own j m s →
    next i a l s = some (l', s') → Own j m s'

def Holds (Shared : σ → Prop) (Own : ι → L → σ → Prop) (w : World ι L σ) : Prop :=
  Shared w.store ∧ ∀ i, Own i (w.locals i) w.store

variable {Shared : σ → Prop} {Own : ι → L → σ → Prop}

lemma NonInterfering.step (hn : NonInterfering next Shared Own) (hw : Holds Shared Own w)
    (h : step next w a = some w') : Holds Shared Own w' := by
  obtain ⟨l, s, hnext, rfl⟩ := step_eq_some h
  obtain ⟨hshared, hown⟩ := hw
  obtain ⟨hshared', hown'⟩ := hn.own hshared (hown a.1) hnext
  refine ⟨hshared', fun j => ?_⟩
  by_cases hj : j = a.1
  · subst hj
    simpa using hown'
  · simp only [Function.update_of_ne hj]
    exact hn.other (Ne.symm hj) hshared (hown a.1) (hown j) hnext

lemma NonInterfering.always_iff_guarded {P : σ → Prop} {G : World ι L σ → ι × α → Prop}
    {as : List (ι × α)} (hn : NonInterfering next Shared Own) (hp : P w.store)
    (hw : Holds Shared Own w)
    (hstep : ∀ (w : World ι L σ) i a l s, Holds Shared Own w → P w.store →
      next i a (w.locals i) w.store = some (l, s) → (P s ↔ G w (i, a))) :
    Always (Processes.step next) (fun w => P w.store) w as ↔
      Guarded (Processes.step next) G w as := by
  apply Transition.always_iff_guarded (P := fun w => P w.store) hp hw
  intro w a w' hp hw h
  obtain ⟨l, s, hnext, rfl⟩ := step_eq_some h
  exact ⟨hstep w a.1 a.2 l s hw hp hnext, fun _ => hn.step hw h⟩

end OmniTun.Foundation.Processes
