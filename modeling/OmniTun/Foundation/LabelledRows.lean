import OmniTun.Foundation.OwnedRows

/-! Tables whose rows each have a key, and a label as long as they are live. -/

namespace OmniTun.Foundation.LabelledRows

open OwnedRows

variable {R K L : Type*} {key : R → K} {label : R → Option L} {k : K} {f : R → R} {r r' : R}
  {rows rows' : List R}

def Unambiguous (key : R → K) (label : R → Option L) (rows : List R) : Prop :=
  ∀ r ∈ rows, ∀ r' ∈ rows, ∀ l, label r = some l → label r' = some l → key r = key r'

lemma unambiguous_nil : Unambiguous key label [] := by
  intro r hr
  cases hr

lemma unambiguous_concat_iff (h : Unambiguous key label rows)
    (hfresh : ∀ r' ∈ rows, key r' ≠ key r) :
    Unambiguous key label (rows ++ [r]) ↔ ∀ l, label r = some l → ∀ r' ∈ rows, label r' ≠ some l := by
  have hmem : ∀ r', r' ∈ rows ++ [r] ↔ r' ∈ rows ∨ r' = r := by simp
  constructor
  · intro hrows l hl r' hr' hl'
    exact hfresh r' hr' (hrows r' ((hmem r').mpr (.inl hr')) r ((hmem r).mpr (.inr rfl)) l hl' hl)
  · intro hnew r₁ h₁ r₂ h₂ l hl₁ hl₂
    rcases (hmem r₁).mp h₁ with hr₁ | rfl <;> rcases (hmem r₂).mp h₂ with hr₂ | rfl
    · exact h r₁ hr₁ r₂ hr₂ l hl₁ hl₂
    · exact absurd hl₁ (hnew l hl₂ r₁ hr₁)
    · exact absurd hl₂ (hnew l hl₁ r₂ hr₂)
    · rfl

variable [DecidableEq K]

lemma mem_update (hkeys : (rows.map key).Nodup) (hr : r ∈ rows) (hk : key r = k) :
    r' ∈ update key k f rows ↔ r' ∈ rows ∧ key r' ≠ k ∨ r' = f r := by
  simp only [update, List.mem_map]
  constructor
  · rintro ⟨r₀, hr₀, rfl⟩
    split_ifs with hk₀
    · obtain rfl := List.inj_on_of_nodup_map hkeys hr₀ hr (hk₀.trans hk.symm)
      exact .inr rfl
    · exact .inl ⟨hr₀, hk₀⟩
  · rintro (⟨hr', hne⟩ | rfl)
    · exact ⟨r', hr', if_neg hne⟩
    · exact ⟨r, hr, if_pos hk⟩

lemma unambiguous_update_iff (h : Unambiguous key label rows) (hkeys : (rows.map key).Nodup)
    (hr : r ∈ rows) (hk : key r = k) (hf : key (f r) = k) :
    Unambiguous key label (update key k f rows) ↔
      ∀ l, label (f r) = some l → ∀ r' ∈ rows, key r' ≠ k → label r' ≠ some l := by
  have hmem : ∀ r', r' ∈ update key k f rows ↔ r' ∈ rows ∧ key r' ≠ k ∨ r' = f r :=
    fun _ => mem_update hkeys hr hk
  constructor
  · intro hrows l hl r' hr' hne hl'
    have hsame := hrows r' ((hmem r').mpr (.inl ⟨hr', hne⟩)) (f r) ((hmem _).mpr (.inr rfl)) l hl' hl
    exact hne (hsame.trans hf)
  · intro hnew r₁ h₁ r₂ h₂ l hl₁ hl₂
    rcases (hmem r₁).mp h₁ with ⟨hr₁, hne₁⟩ | rfl <;> rcases (hmem r₂).mp h₂ with ⟨hr₂, hne₂⟩ | rfl
    · exact h r₁ hr₁ r₂ hr₂ l hl₁ hl₂
    · exact absurd hl₁ (hnew l hl₂ r₁ hr₁ hne₁)
    · exact absurd hl₂ (hnew l hl₁ r₂ hr₂ hne₂)
    · rfl

end OmniTun.Foundation.LabelledRows
