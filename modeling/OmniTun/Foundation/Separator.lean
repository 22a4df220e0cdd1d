import Mathlib.Data.List.Infix
import Mathlib.Tactic.Common

/-! Words that are joined by a separator, and how they are taken apart again: at a separator that
cannot overlap itself, or at the last of several letters. -/

namespace OmniTun.Foundation.Separator

variable {α : Type*} {sep a b c d f s t : List α} {x : α}

def Unbordered (sep : List α) : Prop := ∀ f, f ≠ [] → f <+: sep → f <:+ sep → f = sep

lemma unbordered_cons (h : x ∉ s) : Unbordered (x :: s) := by
  intro f hne hpre hsuf
  obtain ⟨f', rfl, -⟩ := (List.prefix_cons_iff.mp hpre).resolve_left hne
  rcases List.suffix_cons_iff.mp hsuf with heq | hsuf
  · exact heq
  · exact absurd (hsuf.subset List.mem_cons_self) h

lemma Unbordered.next_separator (hu : Unbordered sep) (h : sep ++ t = f ++ (sep ++ s)) :
    f = [] ∨ sep <:+: f ∧ sep <:+: t := by
  rcases List.append_eq_append_iff.mp h with ⟨e, rfl, ht⟩ | ⟨e, hsep, ht⟩
  · right
    exact ⟨⟨[], e, rfl⟩, ⟨e, s, by rw [ht, List.append_assoc]⟩⟩
  · by_cases he : e = []
    · subst he
      rw [List.append_nil] at hsep
      right
      exact ⟨hsep ▸ List.infix_rfl, ⟨[], s, by simpa using ht⟩⟩
    · -- the second separator starts within the first one
      left
      have hpre : e <+: sep := by
        apply List.prefix_of_prefix_length_le (List.prefix_append e t)
        · exact ht ▸ List.prefix_append sep s
        · rw [hsep, List.length_append]
          omega
      have heq := hu e he hpre ⟨f, hsep.symm⟩
      have hlen := congrArg List.length hsep
      rw [heq, List.length_append] at hlen
      apply List.eq_nil_of_length_eq_zero
      omega

lemma Unbordered.split_unique (hu : Unbordered sep) (ha : ¬ sep <:+: a) (hb : ¬ sep <:+: b)
    (h : a ++ sep ++ b = c ++ sep ++ d) : a = c ∧ b = d := by
  simp only [List.append_assoc] at h
  rcases List.append_eq_append_iff.mp h with ⟨f, rfl, hrest⟩ | ⟨f, rfl, hrest⟩
  · rcases hu.next_separator hrest with rfl | ⟨-, hinfix⟩
    · exact ⟨by simp, by simpa using hrest⟩
    · exact absurd hinfix hb
  · rcases hu.next_separator hrest with rfl | ⟨⟨u, v, hinfix⟩, -⟩
    · exact ⟨by simp, by simpa using hrest.symm⟩
    · exact absurd ⟨c ++ u, v, by rw [← hinfix]; simp⟩ ha

section LastIndex

variable [DecidableEq α]

def lastIndex (x : α) : List α → Option ℕ
  | [] => none
  | y :: s =>
    match lastIndex x s with
    | some i => some (i + 1)
    | none => if y = x then some 0 else none

lemma lastIndex_eq_none_iff : lastIndex x s = none ↔ x ∉ s := by
  induction s with
  | nil => simp [lastIndex]
  | cons y s ih =>
    cases hs : lastIndex x s with
    | none => simp [lastIndex, hs, ih.mp hs, eq_comm]
    | some i =>
      have hx : x ∈ s := by
        by_contra hx
        rw [ih.mpr hx] at hs
        cases hs
      simp [lastIndex, hs, hx]

lemma lastIndex_append (h : x ∉ t) : lastIndex x (s ++ x :: t) = some s.length := by
  induction s with
  | nil => simp [lastIndex, lastIndex_eq_none_iff.mpr h]
  | cons y s ih => simp only [List.cons_append, lastIndex, ih, List.length_cons]

end LastIndex

end OmniTun.Foundation.Separator
