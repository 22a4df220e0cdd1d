import OmniTun.Foundation.Table

/-! A table of rows by identifier, with an index of the identifiers by an attribute of the rows. -/

namespace OmniTun.Foundation

namespace SecondaryIndex

variable {K V A : Type*} [DecidableEq K] [DecidableEq A]

variable (attr : V → Option A)

def enter (index : Table A K) (k : K) (v : V) : Table A K :=
  match attr v with
  | some a => index.insert a k
  | none => index

def remove (index : Table A K) (v : V) : Table A K :=
  match attr v with
  | some a => index.erase a
  | none => index

def Consistent (rows : Table K V) (index : Table A K) : Prop :=
  ∀ a k, index.lookup a = some k → ∃ v, rows.lookup k = some v ∧ attr v = some a

def resolve (rows : Table K V) (index : Table A K) (a : A) : Option V :=
  (index.lookup a).bind rows.lookup

variable {attr} {rows : Table K V} {index : Table A K} {k : K} {v : V}

omit [DecidableEq K] in
lemma lookup_enter (a : A) :
    (enter attr index k v).lookup a = if attr v = some a then some k else index.lookup a := by
  cases h : attr v with
  | none => simp [enter, h]
  | some b => simp only [enter, h, Table.lookup_insert, Option.some.injEq, eq_comm]

omit [DecidableEq K] in
lemma lookup_remove (a : A) :
    (remove attr index v).lookup a = if attr v = some a then none else index.lookup a := by
  cases h : attr v with
  | none => simp [remove, h]
  | some b => simp only [remove, h, Table.lookup_erase, Option.some.injEq, eq_comm]

lemma consistent_empty : Consistent attr (∅ : Table K V) ∅ := by
  intro a k h
  simp at h

lemma consistent_iff_field {field : V → A}
    (h : ∀ v a k, index.lookup a = some k → (attr v = some a ↔ field v = a)) :
    Consistent attr rows index ↔
      ∀ a k, index.lookup a = some k → ∃ v, rows.lookup k = some v ∧ field v = a := by
  constructor
  · intro hc a k ha
    obtain ⟨v, hv, hva⟩ := hc a k ha
    exact ⟨v, hv, (h v a k ha).mp hva⟩
  · intro hc a k ha
    obtain ⟨v, hv, hva⟩ := hc a k ha
    exact ⟨v, hv, (h v a k ha).mpr hva⟩

lemma consistent_insert_iff (h : Consistent attr rows index) :
    Consistent attr (rows.insert k v) (enter attr index k v) ↔
      ∀ a, index.lookup a = some k → attr v = some a := by
  constructor
  · intro hc a ha
    by_contra hne
    obtain ⟨w, hw, hwa⟩ := hc a k (by rw [lookup_enter, if_neg hne, ha])
    rw [Table.lookup_insert, if_pos rfl] at hw
    exact hne (Option.some.inj hw ▸ hwa)
  · intro hk a l hl
    rw [lookup_enter] at hl
    split_ifs at hl with hv
    · obtain rfl := Option.some.inj hl
      exact ⟨v, by rw [Table.lookup_insert, if_pos rfl], hv⟩
    · obtain ⟨w, hw, hwa⟩ := h a l hl
      have hne : l ≠ k := by
        rintro rfl
        exact hv (hk a hl)
      exact ⟨w, by rw [Table.lookup_insert, if_neg hne, hw], hwa⟩

lemma consistent_erase (h : Consistent attr rows index) (hv : rows.lookup k = some v) :
    Consistent attr (rows.erase k) (remove attr index v) := by
  intro a l hl
  rw [lookup_remove] at hl
  split_ifs at hl with ha
  obtain ⟨w, hw, hwa⟩ := h a l hl
  have hne : l ≠ k := by
    rintro rfl
    rw [hv] at hw
    exact ha (Option.some.inj hw ▸ hwa)
  exact ⟨w, by rw [Table.lookup_erase, if_neg hne, hw], hwa⟩

lemma resolve_erase {l : K} {a : A} (hne : l ≠ k) (ha : index.lookup a = some l)
    (hv : attr v ≠ some a) :
    resolve (rows.erase k) (remove attr index v) a = resolve rows index a := by
  simp only [resolve, lookup_remove, if_neg hv, ha, Option.bind_some, Table.lookup_erase, if_neg hne]

end SecondaryIndex

end OmniTun.Foundation
