import Mathlib.Data.Finmap
import Mathlib.Data.Finset.Sort
import Mathlib.Logic.Encodable.Basic
import Mathlib.Tactic.Common

/-! Finite maps: lookups after writes, and the orders in which a map can be ranged over. -/

namespace OmniTun.Foundation

abbrev Table (K V : Type*) := Finmap fun _ : K => V

namespace Table

variable {K V : Type*} [DecidableEq K]

lemma lookup_insert (t : Table K V) (k k' : K) (v : V) :
    (t.insert k v).lookup k' = if k' = k then some v else t.lookup k' := by
  split_ifs with h
  · rw [h, Finmap.lookup_insert]
  · exact Finmap.lookup_insert_of_ne t h

lemma lookup_erase (t : Table K V) (k k' : K) :
    (t.erase k).lookup k' = if k' = k then none else t.lookup k' := by
  split_ifs with h
  · rw [h, Finmap.lookup_erase]
  · exact Finmap.lookup_erase_ne h

lemma lookup_insert_eq_none {t : Table K V} {k k' : K} {v : V} (h : t.lookup k' = none)
    (hne : k' ≠ k) : (t.insert k v).lookup k' = none := by
  rw [lookup_insert, if_neg hne, h]

lemma lookup_erase_eq_none {t : Table K V} {k k' : K} (h : t.lookup k' = none) :
    (t.erase k).lookup k' = none := by
  rw [lookup_erase, h, ite_self]

def write (t : Table K V) : Option (K × V) → Table K V
  | none => t
  | some (k, v) => t.insert k v

def written (k : K) : Option (K × V) → Option V
  | none => none
  | some (k', v) => if k' = k then some v else none

def lastWritten (k : K) (ws : List (Option (K × V))) : Option V := ws.reverse.findSome? (written k)

lemma lookup_write (t : Table K V) (w : Option (K × V)) (k : K) :
    (t.write w).lookup k = (written k w).or (t.lookup k) := by
  cases w with
  | none => rfl
  | some p =>
    simp only [write, written, lookup_insert, eq_comm (a := k)]
    split_ifs <;> rfl

lemma lookup_foldl_write (t : Table K V) (ws : List (Option (K × V))) (k : K) :
    (ws.foldl write t).lookup k = (lastWritten k ws).or (t.lookup k) := by
  induction ws using List.reverseRecOn with
  | nil => rfl
  | append_singleton ws w ih =>
    have hlast : lastWritten k (ws ++ [w]) = (written k w).or (lastWritten k ws) := by
      simp only [lastWritten, List.reverse_append, List.reverse_singleton, List.singleton_append,
        List.findSome?_cons]
      cases written k w <;> rfl
    rw [List.foldl_append, List.foldl_cons, List.foldl_nil, lookup_write, ih, hlast, Option.or_assoc]

lemma lastWritten_mem {k : K} {v : V} {ws : List (Option (K × V))} (h : lastWritten k ws = some v) :
    some (k, v) ∈ ws := by
  obtain ⟨w, hw, hv⟩ := List.exists_of_findSome?_eq_some h
  cases w with
  | none => cases hv
  | some p =>
    simp only [written] at hv
    split_ifs at hv with hk
    obtain rfl := Option.some.inj hv
    subst hk
    exact List.mem_reverse.mp hw

lemma lastWritten_isSome {k : K} {v : V} {ws : List (Option (K × V))} (h : some (k, v) ∈ ws) :
    ∃ v', lastWritten k ws = some v' := by
  apply Option.isSome_iff_exists.mp
  apply List.findSome?_isSome_iff.mpr
  exact ⟨some (k, v), List.mem_reverse.mpr h, by simp [written]⟩

def keyed (key : V → K) (vs : List V) : Table K V :=
  vs.foldl (fun t v => t.insert (key v) v) ∅

lemma lookup_keyed {key : V → K} {vs : List V} (h : (vs.map key).Nodup) (k : K) (v : V) :
    (keyed key vs).lookup k = some v ↔ v ∈ vs ∧ key v = k := by
  induction vs using List.reverseRecOn with
  | nil => simp [keyed]
  | append_singleton vs w ih =>
    rw [List.map_append, List.map_singleton] at h
    obtain ⟨hnodup, -, hnew⟩ := List.nodup_append'.mp h
    have hnot : key w ∉ vs.map key := by simpa using hnew
    have hinsert : keyed key (vs ++ [w]) = (keyed key vs).insert (key w) w := by simp [keyed]
    rw [hinsert, lookup_insert]
    by_cases hk : k = key w
    · subst hk
      rw [if_pos rfl, Option.some.injEq]
      constructor
      · rintro rfl
        exact ⟨by simp, rfl⟩
      · rintro ⟨hv, hkey⟩
        rcases List.mem_append.mp hv with hv | hv
        · exact absurd (List.mem_map.mpr ⟨v, hv, hkey⟩) hnot
        · exact (List.mem_singleton.mp hv).symm
    · rw [if_neg hk, ih hnodup]
      constructor
      · rintro ⟨hv, hkey⟩
        exact ⟨List.mem_append_left _ hv, hkey⟩
      · rintro ⟨hv, rfl⟩
        rcases List.mem_append.mp hv with hv | hv
        · exact ⟨hv, rfl⟩
        · exact absurd (congrArg key (List.mem_singleton.mp hv)) hk

/-- An order in which to range over the maps with a key type: every entry once. -/
structure RangeOrder (K : Type*) [DecidableEq K] where
  entries : ∀ {V : Type}, Table K V → List (K × V)
  mem_entries : ∀ {V : Type} (t : Table K V) (k : K) (v : V), (k, v) ∈ entries t ↔ t.lookup k = some v
  nodup_keys : ∀ {V : Type} (t : Table K V), ((entries t).map Prod.fst).Nodup

namespace RangeOrder

variable (order : RangeOrder K) {W : Type}

lemma entries_empty : order.entries (∅ : Table K W) = [] := by
  apply List.eq_nil_iff_forall_not_mem.mpr
  rintro ⟨k, v⟩ h
  simp [order.mem_entries] at h

lemma entries_singleton (k : K) (v : W) :
    order.entries ((∅ : Table K W).insert k v) = [(k, v)] := by
  have hmem : ∀ p, p ∈ order.entries ((∅ : Table K W).insert k v) ↔ p = (k, v) := by
    rintro ⟨k', v'⟩
    rw [order.mem_entries, lookup_insert]
    split_ifs with h
    · simp [h, eq_comm]
    · simp [h]
  have hnodup := (order.nodup_keys ((∅ : Table K W).insert k v)).of_map
  have hperm : (order.entries ((∅ : Table K W).insert k v)).Perm [(k, v)] :=
    (List.perm_ext_iff_of_nodup hnodup (List.nodup_singleton _)).mpr (by simpa using hmem)
  exact List.perm_singleton.mp hperm

def byCode [Encodable K] : RangeOrder K where
  entries t := (t.keys.sort (Order.Preimage (Encodable.encode' K) (· ≤ ·))).filterMap fun k =>
    (t.lookup k).map (k, ·)
  mem_entries t k v := by
    simp only [List.mem_filterMap, Finset.mem_sort, Option.map_eq_some_iff, Prod.mk.injEq]
    constructor
    · rintro ⟨k, _, v, h, rfl, rfl⟩
      exact h
    · intro h
      exact ⟨k, Finmap.mem_keys.mpr (Finmap.lookup_isSome.mp (by simp [h])), v, h, rfl, rfl⟩
  nodup_keys t := by
    rw [List.map_filterMap]
    apply List.Nodup.filterMap _ (Finset.sort_nodup _ _)
    intro k k' l h h'
    simp only [Option.mem_def, Option.map_eq_some_iff, exists_exists_and_eq_and] at h h'
    obtain ⟨_, _, rfl⟩ := h
    obtain ⟨_, _, rfl⟩ := h'
    rfl

section

variable (k : K)

def startingWith : RangeOrder K where
  entries t :=
    (order.entries t).filter (fun e => e.1 = k) ++ (order.entries t).filter (fun e => e.1 ≠ k)
  mem_entries t k' v := by
    rw [List.mem_append, ← order.mem_entries, List.mem_filter, List.mem_filter]
    by_cases hk : k' = k
    · simp [hk]
    · simp [hk]
  nodup_keys t := by
    have hnodup := order.nodup_keys t
    rw [List.map_append]
    apply List.Nodup.append (hnodup.sublist (List.filter_sublist.map _))
      (hnodup.sublist (List.filter_sublist.map _))
    intro k' hfirst hrest
    obtain ⟨e, he, rfl⟩ := List.mem_map.mp hfirst
    obtain ⟨f, hf, hfe⟩ := List.mem_map.mp hrest
    have hek : e.1 = k := by simpa using (List.mem_filter.mp he).2
    have hfk : f.1 ≠ k := by simpa using (List.mem_filter.mp hf).2
    exact hfk (hfe.trans hek)

lemma entries_startingWith {t : Table K W} {v : W} (h : t.lookup k = some v) :
    ∃ rest, (order.startingWith k).entries t = (k, v) :: rest := by
  have hmem : (k, v) ∈ (order.entries t).filter (fun e => e.1 = k) := by
    simp [order.mem_entries, h]
  have hfirst : ∀ e ∈ (order.entries t).filter (fun e => e.1 = k), e = (k, v) := by
    rintro ⟨k', v'⟩ he
    obtain ⟨hmem', hk⟩ := List.mem_filter.mp he
    have hv := (order.mem_entries t k' v').mp hmem'
    obtain rfl : k' = k := by simpa using hk
    rw [h] at hv
    rw [Option.some.inj hv]
  cases hes : (order.entries t).filter (fun e => e.1 = k) with
  | nil =>
    rw [hes] at hmem
    cases hmem
  | cons e es =>
    have he := hfirst e (by simp [hes])
    exact ⟨es ++ (order.entries t).filter (fun e => e.1 ≠ k), by simp [startingWith, hes, he]⟩

end

end RangeOrder

end Table

end OmniTun.Foundation
