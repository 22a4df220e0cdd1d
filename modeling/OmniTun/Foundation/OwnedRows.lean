import Mathlib.Data.List.Dedup
import Mathlib.Data.List.Nodup
import Mathlib.Tactic.Common

/-! Tables whose rows each have a key and an owner, and steps on a store that several owners share.
A step is isolated for an owner if its answer depends on that owner's rows alone and the rows of
every other one stay as they are. -/

namespace OmniTun.Foundation.OwnedRows

section Rows

variable {R K O : Type*} {key : R → K} {owner : R → O} {k : K} {o : O} {f : R → R} {r : R}
  {rows rows' : List R}

lemma find_of_mem {p : R → Bool} (hkeys : (rows.map key).Nodup) (hr : r ∈ rows)
    (hp : ∀ r', p r' = true → key r' = key r) :
    rows.find? p = if p r = true then some r else none := by
  have hunique : ∀ r' ∈ rows, p r' = true → r' = r := fun r' hr' h =>
    List.inj_on_of_nodup_map hkeys hr' hr (hp r' h)
  split_ifs with h
  · obtain ⟨r', hfind⟩ := Option.isSome_iff_exists.mp (List.find?_isSome.mpr ⟨r, hr, h⟩)
    rw [hfind, hunique r' (List.mem_of_find?_eq_some hfind) (List.find?_some hfind)]
  · apply List.find?_eq_none.mpr
    intro r' hr' h'
    exact h (hunique r' hr' h' ▸ h')

lemma nodup_concat_iff (h : (rows.map key).Nodup) :
    ((rows ++ [r]).map key).Nodup ↔ ∀ r' ∈ rows, key r' ≠ key r := by
  rw [List.map_append, List.map_singleton, List.nodup_append_comm, List.singleton_append,
    List.nodup_cons]
  simp [h]

lemma length_listed_iff {ks : List K} {p : R → Prop} {select : R → Bool}
    (hkeys : (rows.map key).Nodup) (hks : ks ⊆ rows.map key)
    (hselect : ∀ r, select r = true ↔ key r ∈ ks ∧ p r) :
    (rows.filter select).length = ks.length ↔ ks.Nodup ∧ ∀ r ∈ rows, key r ∈ ks → p r := by
  classical
  let listed := rows.filter fun r => key r ∈ ks
  have hlisted : listed.length = ks.dedup.length := by
    have hnodup : (listed.map key).Nodup := hkeys.sublist (List.filter_sublist.map key)
    have hmem : ∀ k, k ∈ listed.map key ↔ k ∈ ks.dedup := by
      intro k
      rw [List.mem_dedup]
      constructor
      · intro h
        obtain ⟨r, hr, rfl⟩ := List.mem_map.mp h
        simpa using (List.mem_filter.mp hr).2
      · intro hk
        obtain ⟨r, hr, rfl⟩ := List.mem_map.mp (hks hk)
        exact List.mem_map_of_mem (List.mem_filter.mpr ⟨hr, by simpa using hk⟩)
    have hperm := (List.perm_ext_iff_of_nodup hnodup (List.nodup_dedup ks)).mpr hmem
    simpa using hperm.length_eq
  have hboth : rows.filter select = listed.filter select := by
    simp only [listed, List.filter_filter]
    apply List.filter_congr
    intro r _
    by_cases hr : key r ∈ ks
    · simp [hr]
    · simp [hr, (hselect r).not.mpr fun h => hr h.1]
  have hle : (listed.filter select).length ≤ listed.length := List.length_filter_le _ _
  have hdedup : ks.dedup.length ≤ ks.length := (List.dedup_sublist ks).length_le
  have hall : (listed.filter select).length = listed.length ↔ ∀ r ∈ rows, key r ∈ ks → p r := by
    rw [List.length_filter_eq_length_iff]
    constructor
    · intro h r hr hk
      exact ((hselect r).mp (h r (List.mem_filter.mpr ⟨hr, by simpa using hk⟩))).2
    · intro h r hr
      obtain ⟨hr', hk⟩ := List.mem_filter.mp hr
      have hk' : key r ∈ ks := by simpa using hk
      exact (hselect r).mpr ⟨hk', h r hr' hk'⟩
  have hnodup : ks.dedup.length = ks.length ↔ ks.Nodup :=
    ⟨fun h => List.dedup_eq_self.mp ((List.dedup_sublist ks).eq_of_length h),
      fun h => congrArg List.length (List.dedup_eq_self.mpr h)⟩
  rw [hboth, ← hall, ← hnodup]
  omega

variable [DecidableEq K] [DecidableEq O]

def update (key : R → K) (k : K) (f : R → R) (rows : List R) : List R :=
  rows.map fun r => if key r = k then f r else r

def remove (key : R → K) (k : K) (rows : List R) : List R := rows.filter fun r => key r ≠ k

def owned (owner : R → O) (o : O) (rows : List R) : List R := rows.filter fun r => owner r = o

lemma mem_owned : r ∈ owned owner o rows ↔ r ∈ rows ∧ owner r = o := by
  simp [owned]

lemma mem_of_owned_eq (h : owned owner o rows' = owned owner o rows) (hr : r ∈ rows)
    (ho : owner r = o) : r ∈ rows' :=
  (mem_owned.mp (h ▸ mem_owned.mpr ⟨hr, ho⟩)).1

lemma map_update (hf : ∀ r, key (f r) = key r) :
    (update key k f rows).map key = rows.map key := by
  rw [update, List.map_map]
  apply List.map_congr_left
  intro r _
  simp only [Function.comp_apply]
  split_ifs
  · exact hf r
  · rfl

lemma owned_update_iff (hf : ∀ r, owner (f r) = owner r) :
    owned owner o (update key k f rows) = owned owner o rows ↔
      ∀ r ∈ rows, key r = k → owner r = o → f r = r := by
  induction rows with
  | nil => simp [owned, update]
  | cons r rows ih =>
    have hcons : ∀ r rows, owned owner o (r :: rows) =
        if owner r = o then r :: owned owner o rows else owned owner o rows := by
      intro r rows
      simp only [owned, List.filter_cons, decide_eq_true_eq]
    have hupdate : update key k f (r :: rows) =
        (if key r = k then f r else r) :: update key k f rows := rfl
    have howner : owner (if key r = k then f r else r) = owner r := by
      split_ifs
      · exact hf r
      · rfl
    rw [hupdate, hcons, hcons, howner, List.forall_mem_cons]
    by_cases ho : owner r = o
    · rw [if_pos ho, if_pos ho, List.cons.injEq, ih]
      by_cases hk : key r = k
      · simp [hk, ho]
      · simp [hk]
    · rw [if_neg ho, if_neg ho, ih]
      simp [ho]

lemma others_update_iff (hf : ∀ r, owner (f r) = owner r) :
    (∀ o', o' ≠ o → owned owner o' (update key k f rows) = owned owner o' rows) ↔
      ∀ r ∈ rows, key r = k → owner r = o ∨ f r = r := by
  constructor
  · intro h r hr hk
    by_cases ho : owner r = o
    · exact Or.inl ho
    · exact Or.inr ((owned_update_iff hf).mp (h _ ho) r hr hk rfl)
  · intro h o' ho'
    apply (owned_update_iff hf).mpr
    rintro r hr hk rfl
    exact (h r hr hk).resolve_left ho'

lemma not_mem_keys_remove : k ∉ (remove key k rows).map key := by
  simp [remove]

lemma nodup_remove (h : (rows.map key).Nodup) : ((remove key k rows).map key).Nodup :=
  h.sublist (List.filter_sublist.map key)

lemma owned_remove (h : ∀ r ∈ rows, key r = k → owner r ≠ o) :
    owned owner o (remove key k rows) = owned owner o rows := by
  rw [owned, remove, List.filter_filter]
  apply List.filter_congr
  intro r hr
  by_cases hk : key r = k
  · simp [hk, h r hr hk]
  · simp [hk]

lemma owned_cons_of_ne (h : owner r ≠ o) : owned owner o (r :: rows) = owned owner o rows := by
  rw [owned, List.filter_cons_of_neg (by simpa using h)]
  rfl

end Rows

section Steps

variable {σ A V O : Type*} {view : O → σ → V} {step : σ → A × σ} {o : O} {s : σ}

def Isolated (view : O → σ → V) (step : σ → A × σ) (o : O) (s : σ) : Prop :=
  (∀ s', view o s' = view o s → (step s').1 = (step s).1) ∧
    ∀ o', o' ≠ o → view o' (step s).2 = view o' s

lemma isolated_iff_of_answer {a : A} (h : ∀ s, (step s).1 = a) :
    Isolated view step o s ↔ ∀ o', o' ≠ o → view o' (step s).2 = view o' s :=
  ⟨And.right, fun hw => ⟨fun s' _ => by rw [h, h], hw⟩⟩

lemma isolated_iff_of_unchanged (h : (step s).2 = s) :
    Isolated view step o s ↔ ∀ s', view o s' = view o s → (step s').1 = (step s).1 :=
  ⟨And.left, fun hr => ⟨hr, fun o' _ => by rw [h]⟩⟩

lemma not_isolated {s₁ s₂ : σ} (h₁ : view o s₁ = view o s) (h₂ : view o s₂ = view o s)
    (hne : (step s₁).1 ≠ (step s₂).1) : ¬Isolated view step o s :=
  fun h => hne ((h.1 s₁ h₁).trans (h.1 s₂ h₂).symm)

end Steps

end OmniTun.Foundation.OwnedRows
