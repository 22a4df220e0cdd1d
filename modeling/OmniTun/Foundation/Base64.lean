import Mathlib.Tactic.IntervalCases
import OmniTun.Foundation.Transport

/-! The URL-safe base64 alphabet without padding, and the standard one with padding. -/

namespace OmniTun.Foundation.Base64

def value (c : UInt8) : Option ℕ :=
  if 65 ≤ c ∧ c ≤ 90 then some (c.toNat - 65)
  else if 97 ≤ c ∧ c ≤ 122 then some (c.toNat - 71)
  else if 48 ≤ c ∧ c ≤ 57 then some (c.toNat + 4)
  else if c = 45 then some 62
  else if c = 95 then some 63
  else none

def symbol (v : ℕ) : UInt8 :=
  if v < 26 then UInt8.ofNat (65 + v)
  else if v < 52 then UInt8.ofNat (71 + v)
  else if v < 62 then UInt8.ofNat (v - 4)
  else if v = 62 then 45
  else 95

def split : List ℕ → List ℕ
  | [] => []
  | [a] => [a / 4, a % 4 * 16]
  | [a, b] => [a / 4, a % 4 * 16 + b / 16, b % 16 * 4]
  | a :: b :: c :: rest =>
    a / 4 :: (a % 4 * 16 + b / 16) :: (b % 16 * 4 + c / 64) :: c % 64 :: split rest

def join : List ℕ → Option Bytes
  | [] => some []
  | [_] => none
  | [a, b] => some [UInt8.ofNat (a * 4 + b / 16)]
  | [a, b, c] => some [UInt8.ofNat (a * 4 + b / 16), UInt8.ofNat (b % 16 * 16 + c / 4)]
  | a :: b :: c :: d :: rest =>
    (join rest).map fun bs =>
      UInt8.ofNat (a * 4 + b / 16) :: UInt8.ofNat (b % 16 * 16 + c / 4) ::
        UInt8.ofNat (c % 4 * 64 + d) :: bs

def encodeToString (bs : Bytes) : Bytes := (split (bs.map UInt8.toNat)).map symbol

def decodeString (s : Bytes) : Option Bytes :=
  ((s.filter fun c => c != 10 && c != 13).mapM value).bind join

def standardValue (c : UInt8) : Option ℕ :=
  if c = 43 then some 62
  else if c = 47 then some 63
  else if c = 45 ∨ c = 95 then none
  else value c

def joinPadded : Bytes → Option Bytes
  | [] => some []
  | [a, b, 61, 61] => ([a, b].mapM standardValue).bind join
  | [a, b, c, 61] => ([a, b, c].mapM standardValue).bind join
  | a :: b :: c :: d :: rest => do
    let front ← ([a, b, c, d].mapM standardValue).bind join
    let bs ← joinPadded rest
    return front ++ bs
  | _ => none

def decodeStandard (s : Bytes) : Option Bytes := joinPadded (s.filter fun c => c != 10 && c != 13)

lemma value_symbol {v : ℕ} (h : v < 64) : value (symbol v) = some v := by
  interval_cases v <;> rfl

lemma value_symbol_ne_none (v : ℕ) : value (symbol v) ≠ none := by
  by_cases h : v < 64
  · simp [value_symbol h]
  · have h₁ : ¬ v < 26 := by omega
    have h₂ : ¬ v < 52 := by omega
    have h₃ : ¬ v < 62 := by omega
    have h₄ : v ≠ 62 := by omega
    rw [symbol, if_neg h₁, if_neg h₂, if_neg h₃, if_neg h₄]
    decide

lemma value_ne_none_of_mem {bs : Bytes} {c : UInt8} (h : c ∈ encodeToString bs) :
    value c ≠ none := by
  obtain ⟨v, -, rfl⟩ := List.mem_map.mp h
  exact value_symbol_ne_none v

lemma split_lt : ∀ (bs : Bytes), ∀ v ∈ split (bs.map UInt8.toNat), v < 64
  | [] => by simp [split]
  | [a] => by
    have ha := a.toNat_lt
    simp only [List.map_cons, List.map_nil, split, List.forall_mem_cons]
    refine ⟨by omega, by omega, by simp⟩
  | [a, b] => by
    have ha := a.toNat_lt
    have hb := b.toNat_lt
    simp only [List.map_cons, List.map_nil, split, List.forall_mem_cons]
    refine ⟨by omega, by omega, by omega, by simp⟩
  | a :: b :: c :: rest => by
    have ha := a.toNat_lt
    have hb := b.toNat_lt
    have hc := c.toNat_lt
    simp only [List.map_cons, split, List.forall_mem_cons]
    refine ⟨by omega, by omega, by omega, by omega, split_lt rest⟩

lemma join_split : ∀ bs : Bytes, join (split (bs.map UInt8.toNat)) = some bs
  | [] => rfl
  | [a] => by
    have ha : a.toNat / 4 * 4 + a.toNat % 4 * 16 / 16 = a.toNat := by omega
    simp only [List.map_cons, List.map_nil, split, join, ha, UInt8.ofNat_toNat]
  | [a, b] => by
    have hlt := b.toNat_lt
    have ha : a.toNat / 4 * 4 + (a.toNat % 4 * 16 + b.toNat / 16) / 16 = a.toNat := by omega
    have hb : (a.toNat % 4 * 16 + b.toNat / 16) % 16 * 16 + b.toNat % 16 * 4 / 4 = b.toNat := by omega
    simp only [List.map_cons, List.map_nil, split, join, ha, hb, UInt8.ofNat_toNat]
  | a :: b :: c :: rest => by
    have hltb := b.toNat_lt
    have hltc := c.toNat_lt
    have ha : a.toNat / 4 * 4 + (a.toNat % 4 * 16 + b.toNat / 16) / 16 = a.toNat := by omega
    have hb : (a.toNat % 4 * 16 + b.toNat / 16) % 16 * 16 +
        (b.toNat % 16 * 4 + c.toNat / 64) / 4 = b.toNat := by omega
    have hc : (b.toNat % 16 * 4 + c.toNat / 64) % 4 * 64 + c.toNat % 64 = c.toNat := by omega
    simp only [List.map_cons, split, join, join_split rest, Option.map_some, ha, hb, hc,
      UInt8.ofNat_toNat]

lemma mapM_value_symbol {vs : List ℕ} (h : ∀ v ∈ vs, v < 64) :
    (vs.map symbol).mapM value = some vs := by
  induction vs with
  | nil => rfl
  | cons v vs ih =>
    have hv := value_symbol (h v List.mem_cons_self)
    have hvs := ih fun w hw => h w (List.mem_cons_of_mem _ hw)
    simp [hv, hvs]

lemma decodeString_encodeToString (bs : Bytes) : decodeString (encodeToString bs) = some bs := by
  have hfilter : (encodeToString bs).filter (fun c => c != 10 && c != 13) = encodeToString bs := by
    apply List.filter_eq_self.mpr
    intro c hc
    have hvalue := value_ne_none_of_mem hc
    have h10 : c ≠ 10 := by
      rintro rfl
      exact hvalue rfl
    have h13 : c ≠ 13 := by
      rintro rfl
      exact hvalue rfl
    simp [h10, h13]
  rw [decodeString, hfilter, encodeToString, mapM_value_symbol (split_lt bs), Option.bind_some,
    join_split]

lemma dot_not_mem_encodeToString (bs : Bytes) : (46 : UInt8) ∉ encodeToString bs :=
  fun h => value_ne_none_of_mem h rfl

lemma value_ne_none_of_mapM {s : Bytes} {vs : List ℕ} (h : s.mapM value = some vs) :
    ∀ c ∈ s, value c ≠ none := by
  induction s generalizing vs with
  | nil => simp
  | cons c s ih =>
    rw [List.mapM_cons] at h
    obtain ⟨v, hv, hrest⟩ := Option.bind_eq_some_iff.mp h
    obtain ⟨ws, hws, _⟩ := Option.bind_eq_some_iff.mp hrest
    rw [List.forall_mem_cons, hv]
    exact ⟨Option.some_ne_none v, ih hws⟩

lemma dot_not_mem_of_decodeString {s bs : Bytes} (h : decodeString s = some bs) :
    (46 : UInt8) ∉ s := by
  intro hdot
  obtain ⟨vs, hvs, _⟩ := Option.bind_eq_some_iff.mp h
  have hmem : (46 : UInt8) ∈ s.filter fun c => c != 10 && c != 13 :=
    List.mem_filter.mpr ⟨hdot, rfl⟩
  exact value_ne_none_of_mapM hvs 46 hmem rfl

/-! The standard alphabet. -/

def standardSymbol (v : ℕ) : UInt8 := if v = 62 then 43 else if v = 63 then 47 else symbol v

def encodeStandard : Bytes → Bytes
  | [] => []
  | [a] => (split [a.toNat]).map standardSymbol ++ [61, 61]
  | [a, b] => (split [a.toNat, b.toNat]).map standardSymbol ++ [61]
  | a :: b :: c :: rest =>
    (split [a.toNat, b.toNat, c.toNat]).map standardSymbol ++ encodeStandard rest

lemma standardValue_symbol {v : ℕ} (h : v < 64) : standardValue (standardSymbol v) = some v := by
  interval_cases v <;> rfl

lemma standardSymbol_ne {v : ℕ} (h : v < 64) :
    standardSymbol v ≠ 61 ∧ standardSymbol v ≠ 10 ∧ standardSymbol v ≠ 13 := by
  interval_cases v <;> decide

lemma mapM_standardValue {vs : List ℕ} (h : ∀ v ∈ vs, v < 64) :
    (vs.map standardSymbol).mapM standardValue = some vs := by
  induction vs with
  | nil => rfl
  | cons v vs ih =>
    have hv := standardValue_symbol (h v List.mem_cons_self)
    have hvs := ih fun w hw => h w (List.mem_cons_of_mem _ hw)
    simp [hv, hvs]

lemma encodeStandard_ne {c : UInt8} (bs : Bytes) (h : c ∈ encodeStandard bs) :
    c ≠ 10 ∧ c ≠ 13 := by
  have hsymbol : ∀ {s : Bytes}, c ∈ (split (s.map UInt8.toNat)).map standardSymbol →
      c ≠ 10 ∧ c ≠ 13 := by
    intro s hc
    obtain ⟨v, hv, rfl⟩ := List.mem_map.mp hc
    exact (standardSymbol_ne (split_lt s v hv)).2
  induction bs using encodeStandard.induct with
  | case1 => simp [encodeStandard] at h
  | case2 a =>
    rcases List.mem_append.mp h with h | h
    · exact hsymbol (s := [a]) h
    · revert h
      simp only [List.mem_cons, List.not_mem_nil, or_false, or_self]
      rintro rfl
      decide
  | case3 a b =>
    rcases List.mem_append.mp h with h | h
    · exact hsymbol (s := [a, b]) h
    · obtain rfl := List.mem_singleton.mp h
      decide
  | case4 a b c rest ih =>
    rcases List.mem_append.mp h with h | h
    · exact hsymbol (s := [a, b, c]) h
    · exact ih h

lemma joinPadded_three (x y : UInt8) {z : UInt8} (hz : z ≠ 61) :
    joinPadded [x, y, z, 61] = ([x, y, z].mapM standardValue).bind join := by
  unfold joinPadded
  split <;> simp_all

lemma joinPadded_four (x y z : UInt8) {w : UInt8} (hw : w ≠ 61) (rest : Bytes) :
    joinPadded (x :: y :: z :: w :: rest) =
      (([x, y, z, w].mapM standardValue).bind join).bind fun front =>
        (joinPadded rest).map (front ++ ·) := by
  rw [joinPadded.eq_def]
  split
  case h_5 hother => exact (hother x y z w rest rfl).elim
  all_goals simp_all [Option.map_eq_bind]

lemma joinPadded_encodeStandard : ∀ bs : Bytes, joinPadded (encodeStandard bs) = some bs
  | [] => rfl
  | [a] => by
    have hvalues := mapM_standardValue (split_lt [a])
    have hjoin := join_split [a]
    simp only [List.map_cons, List.map_nil, split] at hvalues hjoin
    simp only [encodeStandard, split, List.map_cons, List.map_nil, List.cons_append,
      List.nil_append, joinPadded, hvalues, Option.bind_some, hjoin]
  | [a, b] => by
    have hlt := split_lt [a, b]
    have hvalues := mapM_standardValue hlt
    have hjoin := join_split [a, b]
    simp only [List.map_cons, List.map_nil, split, List.forall_mem_cons] at hvalues hjoin hlt
    have hlast := (standardSymbol_ne hlt.2.2.1).1
    simp only [encodeStandard, split, List.map_cons, List.map_nil, List.cons_append,
      List.nil_append, joinPadded_three _ _ hlast, hvalues, Option.bind_some, hjoin]
  | a :: b :: c :: rest => by
    have hlt := split_lt [a, b, c]
    have hvalues := mapM_standardValue hlt
    have hjoin := join_split [a, b, c]
    simp only [List.map_cons, List.map_nil, split, List.forall_mem_cons] at hvalues hjoin hlt
    have hlast := (standardSymbol_ne hlt.2.2.2.1).1
    simp only [encodeStandard, split, List.map_cons, List.map_nil, List.cons_append,
      List.nil_append, joinPadded_four _ _ _ hlast, hvalues, Option.bind_some, hjoin,
      joinPadded_encodeStandard rest, Option.map_some]

lemma decodeStandard_encodeStandard (bs : Bytes) :
    decodeStandard (encodeStandard bs) = some bs := by
  have hfilter : (encodeStandard bs).filter (fun c => c != 10 && c != 13) = encodeStandard bs := by
    apply List.filter_eq_self.mpr
    intro c hc
    obtain ⟨h10, h13⟩ := encodeStandard_ne bs hc
    simp [h10, h13]
  rw [decodeStandard, hfilter, joinPadded_encodeStandard]

end OmniTun.Foundation.Base64
