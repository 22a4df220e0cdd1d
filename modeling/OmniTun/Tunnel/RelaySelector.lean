import Mathlib.Data.Prod.Lex
import Mathlib.Data.Rat.Cast.Order
import OmniTun.Foundation.SliceSort
import OmniTun.Tunnel.Quota

/-! Which relay is selected for a tunnel, and which one in place of a relay that failed. -/

namespace OmniTun.Tunnel.RelaySelector

open OmniTun.Foundation

structure RelayRecord extends RelayNode where
  status : Bytes
  deriving DecidableEq

/-- The load as a fraction of the capacity; `none` is a division by zero. -/
def loadRatio (r : RelayRecord) : Option ℚ :=
  if r.capacity = 0 then none else some ((r.activeTunnels : ℚ) / (r.capacity : ℚ))

def ratioLess (ri rj : RelayRecord) : Option Bool := do
  let riRatio ← loadRatio ri
  let rjRatio ← loadRatio rj
  return riRatio < rjRatio

def regionLess (preferredRegion : Bytes) (ri rj : RelayRecord) : Option Bool :=
  let riMatch : Bool := ri.region = preferredRegion
  let rjMatch : Bool := rj.region = preferredRegion
  if riMatch ≠ rjMatch then some riMatch else ratioLess ri rj

def available (relays : List RelayRecord) : List RelayRecord :=
  relays.filter fun r => r.activeTunnels < r.capacity

def online : Bytes := ascii "online"

def alternatives (region failedRelayID : Bytes) (relays : List RelayRecord) : List RelayRecord :=
  relays.filter fun r =>
    if r.id = failedRelayID then false
    else if r.status ≠ online then false
    else if r.capacity = 0 then false
    else if region ≠ [] ∧ r.region ≠ region then false
    else if r.activeTunnels ≥ r.capacity then false
    else true

def activeRelaysError (err : Bytes) : Bytes := ascii "relay selector: get active relays: " ++ err

def noRelaysError : Bytes := ascii "relay selector: no available relay nodes"

def noAlternativeError (region failedRelayID : Bytes) : Bytes :=
  ascii "relay selector: no alternative relay nodes available in region " ++ region ++
    ascii " (excluded " ++ failedRelayID ++ ascii ")"

variable (sorter : SliceSort)

def first (less : RelayRecord → RelayRecord → Option Bool) (err : Bytes) :
    List RelayRecord → Except Bytes RelayRecord
  | [] => .error err
  | r :: rs => .ok ((sorter.sort (fun ri rj => (less ri rj).getD false) (r :: rs)).headD r)

/-- `relays` is what `GetActiveRelays` returns. -/
def select (relays : Except Bytes (List RelayRecord)) (preferredRegion : Bytes) :
    Except Bytes RelayRecord :=
  match relays with
  | .error err => .error (activeRelaysError err)
  | .ok relays => first sorter (regionLess preferredRegion) noRelaysError (available relays)

def selectAlternative (relays : Except Bytes (List RelayRecord)) (region failedRelayID : Bytes) :
    Except Bytes RelayRecord :=
  match relays with
  | .error err => .error (activeRelaysError err)
  | .ok relays =>
    first sorter ratioLess (noAlternativeError region failedRelayID)
      (alternatives region failedRelayID relays)

/-! The keys that the comparisons compare. -/

def ratio (r : RelayRecord) : ℚ := (r.activeTunnels : ℚ) / (r.capacity : ℚ)

def regionKey (preferredRegion : Bytes) (r : RelayRecord) : Bool ×ₗ ℚ :=
  toLex (decide (r.region ≠ preferredRegion), ratio r)

variable {sorter} {ri rj r : RelayRecord} {relays : List RelayRecord} {region failedRelayID : Bytes}

def ComparesBy {K : Type*} [LT K] (key : RelayRecord → K)
    (less : RelayRecord → RelayRecord → Option Bool) (ri rj : RelayRecord) : Prop :=
  ∃ b, less ri rj = some b ∧ (b = true ↔ key ri < key rj)

lemma ratioLess_comparesBy (hi : ri.capacity ≠ 0) (hj : rj.capacity ≠ 0) :
    ComparesBy ratio ratioLess ri rj := by
  have hless : ratioLess ri rj = some (decide (ratio ri < ratio rj)) := by
    rw [ratioLess, loadRatio, loadRatio, if_neg hi, if_neg hj]
    rfl
  exact ⟨_, hless, decide_eq_true_iff⟩

lemma regionLess_comparesBy (hi : ri.capacity ≠ 0) (hj : rj.capacity ≠ 0) :
    ComparesBy (regionKey region) (regionLess region) ri rj := by
  obtain ⟨b, hless, hb⟩ := ratioLess_comparesBy hi hj
  by_cases hri : ri.region = region
  · by_cases hrj : rj.region = region
    · refine ⟨b, by simp [regionLess, hri, hrj, hless], hb.trans ?_⟩
      simp [regionKey, hri, hrj, Prod.Lex.toLex_lt_toLex]
    · exact ⟨true, by simp [regionLess, hri, hrj],
        by simp [regionKey, hri, hrj, Prod.Lex.toLex_lt_toLex]⟩
  · by_cases hrj : rj.region = region
    · exact ⟨false, by simp [regionLess, hri, hrj],
        by simp [regionKey, hri, hrj, Prod.Lex.toLex_lt_toLex]⟩
    · refine ⟨b, by simp [regionLess, hri, hrj, hless], hb.trans ?_⟩
      simp [regionKey, hri, hrj, Prod.Lex.toLex_lt_toLex]

lemma ComparesBy.ne_none {K : Type*} [LT K] {key : RelayRecord → K}
    {less : RelayRecord → RelayRecord → Option Bool} (h : ComparesBy key less ri rj) :
    less ri rj ≠ none := by
  obtain ⟨b, hb, -⟩ := h
  rw [hb]
  exact Option.some_ne_none b

lemma mem_available : r ∈ available relays ↔ r ∈ relays ∧ r.activeTunnels < r.capacity := by
  simp [available]

lemma mem_alternatives (hr : r ∈ relays → 0 ≤ r.activeTunnels) :
    r ∈ alternatives region failedRelayID relays ↔
      r ∈ relays ∧ r.status = online ∧ r.id ≠ failedRelayID ∧ (region ≠ [] → r.region = region) ∧
        r.activeTunnels < r.capacity := by
  rw [alternatives, List.mem_filter]
  apply and_congr_right
  intro hmem
  have hpos := hr hmem
  split_ifs with hid hstatus hcap hregion hfull
  · simp [hid]
  · simp [hstatus]
  · simp only [false_iff]
    rintro ⟨-, -, -, hlt⟩
    omega
  · simp only [false_iff]
    rintro ⟨-, -, hin, -⟩
    exact hregion.2 (hin hregion.1)
  · simp only [false_iff]
    rintro ⟨-, -, -, hlt⟩
    omega
  · simp only [true_iff]
    refine ⟨not_not.mp hstatus, hid, fun hne => ?_, by omega⟩
    by_contra hother
    exact hregion ⟨hne, hother⟩

lemma first_error {less : RelayRecord → RelayRecord → Option Bool} {err : Bytes}
    {candidates : List RelayRecord} :
    (∃ e, first sorter less err candidates = .error e) ↔ candidates = [] := by
  cases candidates with
  | nil => exact ⟨fun _ => rfl, fun _ => ⟨err, rfl⟩⟩
  | cons c cs =>
    constructor
    · rintro ⟨e, he⟩
      cases he
    · intro h
      cases h

lemma first_minimal {K : Type*} [LinearOrder K] {key : RelayRecord → K}
    {less : RelayRecord → RelayRecord → Option Bool} {err : Bytes} {candidates : List RelayRecord}
    (hless : ∀ ri ∈ candidates, ∀ rj ∈ candidates, ComparesBy key less ri rj)
    (h : first sorter less err candidates = .ok r) :
    r ∈ candidates ∧ ∀ r' ∈ candidates, key r ≤ key r' := by
  cases candidates with
  | nil => cases h
  | cons c cs =>
    obtain rfl := Except.ok.inj h
    have hkey : ∀ a ∈ c :: cs, ∀ b ∈ c :: cs,
        ((less a b).getD false = true ↔ key a < key b) := by
      intro a ha b hb
      obtain ⟨c, hc, hkey⟩ := hless a ha b hb
      rw [hc, Option.getD_some, hkey]
    refine ⟨sorter.head_mem (List.cons_ne_nil c cs) c, fun r' hr' => ?_⟩
    exact sorter.key_head_le hkey hr' c

/-- What is selected has a free place, and no relay with a free place comes before it. -/
theorem selection_optimal (sorter : SliceSort) (relays : List RelayRecord)
    (hactive : ∀ r ∈ relays, 0 ≤ r.activeTunnels) (region failedRelayID : Bytes) :
    ((∃ err, select sorter (.ok relays) region = .error err) ↔
      ∀ r ∈ relays, ¬ r.activeTunnels < r.capacity) ∧
    (∀ r, select sorter (.ok relays) region = .ok r →
      r ∈ relays ∧ r.activeTunnels < r.capacity ∧
        ∀ r' ∈ relays, r'.activeTunnels < r'.capacity → regionKey region r ≤ regionKey region r') ∧
    (∀ ri ∈ available relays, ∀ rj ∈ available relays, regionLess region ri rj ≠ none) ∧
    ((∃ err, selectAlternative sorter (.ok relays) region failedRelayID = .error err) ↔
      ∀ r ∈ relays, ¬ (r.status = online ∧ r.id ≠ failedRelayID ∧
        (region ≠ [] → r.region = region) ∧ r.activeTunnels < r.capacity)) ∧
    (∀ r, selectAlternative sorter (.ok relays) region failedRelayID = .ok r →
      (r ∈ relays ∧ r.status = online ∧ r.id ≠ failedRelayID ∧
        (region ≠ [] → r.region = region) ∧ r.activeTunnels < r.capacity) ∧
      ∀ r' ∈ relays, r'.status = online → r'.id ≠ failedRelayID →
        (region ≠ [] → r'.region = region) → r'.activeTunnels < r'.capacity → ratio r ≤ ratio r') ∧
    ∀ ri ∈ alternatives region failedRelayID relays,
      ∀ rj ∈ alternatives region failedRelayID relays, ratioLess ri rj ≠ none := by
  have halt : ∀ r, r ∈ alternatives region failedRelayID relays ↔ _ :=
    fun r => mem_alternatives (hactive r)
  have hcompare : ∀ ri ∈ available relays, ∀ rj ∈ available relays,
      ComparesBy (regionKey region) (regionLess region) ri rj := by
    have hcap : ∀ r ∈ available relays, r.capacity ≠ 0 := by
      intro r hr
      obtain ⟨hmem, hlt⟩ := mem_available.mp hr
      have hpos := hactive r hmem
      omega
    exact fun ri hi rj hj => regionLess_comparesBy (hcap ri hi) (hcap rj hj)
  have hcompare' : ∀ ri ∈ alternatives region failedRelayID relays,
      ∀ rj ∈ alternatives region failedRelayID relays, ComparesBy ratio ratioLess ri rj := by
    have hcap : ∀ r ∈ alternatives region failedRelayID relays, r.capacity ≠ 0 := by
      intro r hr
      obtain ⟨hmem, -, -, -, hlt⟩ := (halt r).mp hr
      have hpos := hactive r hmem
      omega
    exact fun ri hi rj hj => ratioLess_comparesBy (hcap ri hi) (hcap rj hj)
  refine ⟨?_, fun r hr => ?_, fun ri hi rj hj => ?_, ?_, fun r hr => ?_, fun ri hi rj hj => ?_⟩
  · rw [select, first_error, List.eq_nil_iff_forall_not_mem]
    simp only [mem_available, not_and]
  · obtain ⟨hmem, hmin⟩ := first_minimal hcompare hr
    obtain ⟨hrelays, hlt⟩ := mem_available.mp hmem
    refine ⟨hrelays, hlt, fun r' hr' hlt' => ?_⟩
    exact hmin r' (mem_available.mpr ⟨hr', hlt'⟩)
  · exact (hcompare ri hi rj hj).ne_none
  · rw [selectAlternative, first_error, List.eq_nil_iff_forall_not_mem]
    simp only [halt, not_and]
  · obtain ⟨hmem, hmin⟩ := first_minimal hcompare' hr
    refine ⟨(halt r).mp hmem, fun r' hr' hstatus hid hregion hlt => ?_⟩
    exact hmin r' ((halt r').mpr ⟨hr', hstatus, hid, hregion, hlt⟩)
  · exact (hcompare' ri hi rj hj).ne_none

def exampleRelays : List RelayRecord :=
  [⟨⟨ascii "r1", ascii "eu", ascii "relay1.dev", 443, 3, 10⟩, online⟩,
    ⟨⟨ascii "r2", ascii "us", ascii "relay2.dev", 443, 0, 0⟩, online⟩,
    ⟨⟨ascii "r3", ascii "us", ascii "relay3.dev", 443, 1, 10⟩, ascii "draining"⟩]

theorem selection_optimal_exampleRelays :
    (¬ ∃ err, select .merging (.ok exampleRelays) (ascii "eu") = .error err) ∧
    ∃ err, selectAlternative .merging (.ok exampleRelays) (ascii "us") (ascii "r1") =
      .error err := by
  obtain ⟨hselect, -, -, halternative, -, -⟩ := selection_optimal .merging exampleRelays
    (by decide) (ascii "us") (ascii "r1")
  refine ⟨fun h => ?_, halternative.mpr (by decide)⟩
  obtain ⟨err, herr⟩ := h
  have hnone :=
    (selection_optimal .merging exampleRelays (by decide) (ascii "eu") []).1.mp ⟨err, herr⟩
  revert hnone
  decide

/-- The selection without floating point ratios picks some relay with a free place. -/
theorem selectRelay_of_select {sorter : SliceSort} {relays : List RelayRecord} {region : Bytes}
    {r : RelayRecord} (h : select sorter (.ok relays) region = .ok r) :
    ∃ pick, Quota.selectRelay (relays.map RelayRecord.toRelayNode) pick = .ok r.toRelayNode := by
  have hmem : r ∈ available relays := by
    simp only [select] at h
    cases hc : available relays with
    | nil =>
      rw [hc] at h
      cases h
    | cons c cs =>
      rw [hc] at h
      obtain rfl := Except.ok.inj h
      exact sorter.head_mem (List.cons_ne_nil c cs) c
  obtain ⟨pick, hpick, hr⟩ := List.mem_iff_getElem.mp hmem
  have hfilter : (relays.map RelayRecord.toRelayNode).filter
      (fun r => r.activeTunnels < r.capacity) = (available relays).map RelayRecord.toRelayNode := by
    rw [List.filter_map]
    rfl
  refine ⟨pick, ?_⟩
  simp only [Quota.selectRelay, hfilter, List.length_map, Nat.mod_eq_of_lt hpick, List.getElem?_map,
    List.getElem?_eq_getElem hpick, hr, Option.map_some]

end OmniTun.Tunnel.RelaySelector
