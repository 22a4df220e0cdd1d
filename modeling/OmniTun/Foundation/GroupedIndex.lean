import OmniTun.Foundation.Table

/-! A table of rows, and the same rows grouped by an attribute: one table of rows for each value. -/

namespace OmniTun.Foundation

namespace GroupedIndex

variable {K V A : Type*} [DecidableEq K] [DecidableEq A]

def member (groups : Table A (Table K V)) (a : A) (k : K) : Option V :=
  (groups.lookup a).bind fun g => g.lookup k

def enter (groups : Table A (Table K V)) (a : A) (k : K) (v : V) : Table A (Table K V) :=
  groups.insert a (((groups.lookup a).getD ∅).insert k v)

def leave (groups : Table A (Table K V)) (a : A) (k : K) : Table A (Table K V) :=
  match groups.lookup a with
  | some g => groups.insert a (g.erase k)
  | none => groups

def leaveAndDrop (groups : Table A (Table K V)) (a : A) (k : K) : Table A (Table K V) :=
  match groups.lookup a with
  | some g => if (g.erase k).keys.card = 0 then groups.erase a else groups.insert a (g.erase k)
  | none => groups

def Indexed (attr : V → Option A) (rows : Table K V) (groups : Table A (Table K V)) : Prop :=
  ∀ a k v, member groups a k = some v ↔ rows.lookup k = some v ∧ attr v = some a

variable {attr : V → Option A} {rows : Table K V} {groups groups' : Table A (Table K V)}
  {a b : A} {k l : K} {v : V}

lemma member_enter : member (enter groups a k v) b l =
    if b = a ∧ l = k then some v else member groups b l := by
  simp only [member, enter, Table.lookup_insert]
  by_cases hb : b = a
  · subst hb
    rw [if_pos rfl, Option.bind_some, Table.lookup_insert]
    by_cases hl : l = k
    · simp [hl]
    · cases groups.lookup b with
      | none => simp [hl]
      | some g => simp [hl]
  · simp [hb]

lemma member_leave : member (leave groups a k) b l =
    if b = a ∧ l = k then none else member groups b l := by
  cases h : groups.lookup a with
  | none =>
    simp only [leave, h, member]
    split_ifs with hbl
    · rw [hbl.1, h, Option.bind_none]
    · rfl
  | some g =>
    simp only [leave, h, member, Table.lookup_insert]
    by_cases hb : b = a
    · subst hb
      rw [if_pos rfl, Option.bind_some, Table.lookup_erase, h, Option.bind_some]
      simp
    · simp [hb]

lemma member_leaveAndDrop : member (leaveAndDrop groups a k) b l = member (leave groups a k) b l := by
  cases h : groups.lookup a with
  | none => simp only [leaveAndDrop, leave, h]
  | some g =>
    simp only [leaveAndDrop, leave, h, member]
    split_ifs with hcard
    · rw [Table.lookup_erase, Table.lookup_insert]
      by_cases hb : b = a
      · -- the group that is dropped has no rows
        have hnone : (g.erase k).lookup l = none := by
          rw [Finmap.lookup_eq_none, ← Finmap.mem_keys, Finset.card_eq_zero.mp hcard]
          exact Finset.notMem_empty l
        rw [if_pos hb, if_pos hb, Option.bind_some, hnone, Option.bind_none]
      · rw [if_neg hb, if_neg hb]
    · rfl

lemma indexed_empty : Indexed attr (∅ : Table K V) ∅ := by
  intro a k v
  simp [member]

lemma Indexed.member_eq_none (h : Indexed attr rows groups) (hrow : rows.lookup k = none) :
    member groups a k = none := by
  cases hm : member groups a k with
  | none => rfl
  | some v =>
    rw [((h a k v).mp hm).1] at hrow
    cases hrow

lemma indexed_insert (h : Indexed attr rows groups) (hrow : rows.lookup k = none)
    (hg : ∀ b l, member groups' b l =
      if attr v = some b ∧ l = k then some v else member groups b l) :
    Indexed attr (rows.insert k v) groups' := by
  intro b l w
  rw [hg, Table.lookup_insert]
  by_cases hl : l = k
  · subst hl
    rw [if_pos rfl]
    by_cases hb : attr v = some b
    · simp only [hb, and_self, if_true, Option.some.injEq]
      constructor
      · rintro rfl
        exact ⟨rfl, hb⟩
      · exact fun hw => hw.1
    · simp only [hb, false_and, if_false, h.member_eq_none hrow, Option.some.injEq]
      constructor
      · intro hw
        cases hw
      · rintro ⟨rfl, hw⟩
        exact absurd hw hb
  · simp only [hl, and_false, if_false]
    exact h b l w

lemma indexed_erase (h : Indexed attr rows groups) (hrow : rows.lookup k = some v)
    (hg : ∀ b l, member groups' b l =
      if attr v = some b ∧ l = k then none else member groups b l) :
    Indexed attr (rows.erase k) groups' := by
  intro b l w
  rw [hg, Table.lookup_erase]
  by_cases hl : l = k
  · subst hl
    simp only [and_true, if_true]
    constructor
    · intro hw
      split_ifs at hw with hb
      -- the row of the key stands in no other group
      obtain ⟨hv, ha⟩ := (h b l w).mp hw
      obtain rfl : v = w := Option.some.inj (hrow.symm.trans hv)
      exact absurd ha hb
    · rintro ⟨hw, _⟩
      cases hw
  · simp only [hl, and_false, if_false]
    exact h b l w

def Stale (groups : Table A (Table K V)) (a : A) : Prop := groups.lookup a = some ∅

lemma table_eq_empty_iff {t : Table K V} : t = ∅ ↔ ∀ k, t.lookup k = none := by
  constructor
  · rintro rfl k
    exact Finmap.lookup_empty k
  · intro h
    apply Finmap.ext_lookup
    intro k
    rw [h k, Finmap.lookup_empty]

omit [DecidableEq K] in
lemma not_stale_empty : ¬ Stale (∅ : Table A (Table K V)) a := by
  simp [Stale]

lemma mem_iff_member (hs : ¬ Stale groups a) : a ∈ groups ↔ ∃ k v, member groups a k = some v := by
  rw [← Finmap.lookup_isSome]
  cases h : groups.lookup a with
  | none => simp [member, h]
  | some g =>
    have hne : ¬ ∀ k, g.lookup k = none := fun hk => hs (by rw [Stale, h, table_eq_empty_iff.mpr hk])
    obtain ⟨k, hk⟩ := not_forall.mp hne
    obtain ⟨v, hv⟩ := Option.ne_none_iff_exists'.mp hk
    simp only [Option.isSome_some, member, h, Option.bind_some, true_iff]
    exact ⟨k, v, hv⟩

omit [DecidableEq K] in
lemma Stale.mem (hs : Stale groups a) : a ∈ groups := by
  rw [← Finmap.lookup_isSome, hs]
  rfl

lemma Stale.member_eq_none (hs : Stale groups a) (k : K) : member groups a k = none := by
  rw [member, hs, Option.bind_some, Finmap.lookup_empty]

lemma stale_enter : Stale (enter groups a k v) b ↔ b ≠ a ∧ Stale groups b := by
  rw [Stale, Stale, enter, Table.lookup_insert]
  by_cases hb : b = a
  · simp only [hb, if_true, Option.some.injEq, ne_eq, not_true_eq_false, false_and, iff_false]
    intro h
    have hk := table_eq_empty_iff.mp h k
    rw [Finmap.lookup_insert] at hk
    cases hk
  · simp [hb]

lemma stale_leaveAndDrop : Stale (leaveAndDrop groups a k) b ↔ b ≠ a ∧ Stale groups b := by
  cases h : groups.lookup a with
  | none =>
    simp only [leaveAndDrop, h, Stale]
    constructor
    · intro hb
      refine ⟨?_, hb⟩
      rintro rfl
      rw [h] at hb
      cases hb
    · exact And.right
  | some g =>
    simp only [leaveAndDrop, h, Stale]
    split_ifs with hcard
    · rw [Table.lookup_erase]
      by_cases hb : b = a
      · simp [hb]
      · simp [hb]
    · rw [Table.lookup_insert]
      by_cases hb : b = a
      · simp only [hb, if_true, Option.some.injEq, ne_eq, not_true_eq_false, false_and, iff_false]
        intro hg
        rw [hg] at hcard
        exact hcard rfl
      · simp [hb]

lemma stale_leave : Stale (leave groups a k) b ↔
    if b = a then b ∈ groups ∧ ∀ l v, member groups b l = some v → l = k else Stale groups b := by
  by_cases hb : b = a
  · subst hb
    rw [if_pos rfl, ← Finmap.lookup_isSome]
    cases h : groups.lookup b with
    | none => simp [leave, h, Stale]
    | some g =>
      simp only [leave, h, Stale, Table.lookup_insert, if_true, Option.some.injEq,
        Option.isSome_some, true_and, member, Option.bind_some, table_eq_empty_iff,
        Table.lookup_erase]
      constructor
      · intro hk l v hl
        by_contra hne
        have hnone := hk l
        rw [if_neg hne, hl] at hnone
        cases hnone
      · intro hk l
        split_ifs with hl
        · rfl
        · cases hv : g.lookup l with
          | none => rfl
          | some v => exact absurd (hk l v hv) hl
  · rw [if_neg hb]
    cases h : groups.lookup a with
    | none => simp only [leave, h]
    | some g => simp only [leave, h, Stale, Table.lookup_insert, if_neg hb]

omit [DecidableEq K] in
lemma mem_insert_of_mem {g : Table K V} (ha : a ∈ groups) : b ∈ groups.insert a g ↔ b ∈ groups := by
  rw [Finmap.mem_insert]
  constructor
  · rintro (rfl | hb)
    · exact ha
    · exact hb
  · exact Or.inr

lemma mem_enter : b ∈ enter groups a k v ↔ b = a ∨ b ∈ groups := Finmap.mem_insert

lemma mem_leave : b ∈ leave groups a k ↔ b ∈ groups := by
  cases h : groups.lookup a with
  | none => simp only [leave, h]
  | some g =>
    simp only [leave, h]
    apply mem_insert_of_mem
    rw [← Finmap.lookup_isSome, h]
    rfl

lemma mem_of_mem_leaveAndDrop (hb : b ∈ leaveAndDrop groups a k) : b ∈ groups := by
  cases h : groups.lookup a with
  | none => simpa only [leaveAndDrop, h] using hb
  | some g =>
    simp only [leaveAndDrop, h] at hb
    split_ifs at hb
    · exact (Finmap.mem_erase.mp hb).2
    · have ha : a ∈ groups := by
        rw [← Finmap.lookup_isSome, h]
        rfl
      exact (mem_insert_of_mem ha).mp hb

end GroupedIndex

end OmniTun.Foundation
