import Mathlib.Data.List.TakeWhile
import Mathlib.Data.Nat.Digits.Lemmas
import Mathlib.Tactic.IntervalCases
import OmniTun.Foundation.Transport

/-! Decimal and hexadecimal numerals as bytes, and the scanning of a decimal integer. -/

namespace OmniTun.Foundation.Numerals

def isDigit (b : UInt8) : Bool := 48 ≤ b.toNat && b.toNat ≤ 57

def digit (d : ℕ) : UInt8 := UInt8.ofNat (48 + d)

def natNumeral (n : ℕ) : Bytes :=
  if n = 0 then [digit 0] else (Nat.digits 10 n).reverse.map digit

def intNumeral (n : ℤ) : Bytes :=
  if n < 0 then 45 :: natNumeral n.natAbs else natNumeral n.natAbs

def value (ds : Bytes) : ℕ := ds.foldl (fun n d => n * 10 + (d.toNat - 48)) 0

def hexDigit (d : ℕ) : UInt8 := if d < 10 then UInt8.ofNat (48 + d) else UInt8.ofNat (87 + d)

def hexEncode (bs : Bytes) : Bytes :=
  bs.flatMap fun b => [hexDigit (b.toNat / 16), hexDigit (b.toNat % 16)]

def skipSpace : Bytes → Option Bytes
  -- a line feed is no space here
  | 0x0A :: _ => none
  | 0x09 :: s | 0x0B :: s | 0x0C :: s | 0x0D :: s | 0x20 :: s => skipSpace s
  | 0xC2 :: 0x85 :: s | 0xC2 :: 0xA0 :: s => skipSpace s
  | 0xE1 :: 0x9A :: 0x80 :: s | 0xE2 :: 0x81 :: 0x9F :: s | 0xE3 :: 0x80 :: 0x80 :: s => skipSpace s
  | 0xE2 :: 0x80 :: b :: s =>
    if (0x80 ≤ b ∧ b ≤ 0x8A) ∨ b = 0xA8 ∨ b = 0xA9 ∨ b = 0xAF then skipSpace s
    else some (0xE2 :: 0x80 :: b :: s)
  | s => some s

def splitSign : Bytes → Bool × Bytes
  | 45 :: s => (true, s)
  | 43 :: s => (false, s)
  | s => (false, s)

def scanInt64 (s : Bytes) : Option ℤ :=
  (skipSpace s).bind fun s =>
    let ds := (splitSign s).2.takeWhile isDigit
    let n : ℤ := if (splitSign s).1 then -value ds else value ds
    if ds ≠ [] ∧ -2 ^ 63 ≤ n ∧ n < 2 ^ 63 then some n else none

def atoi (s : Bytes) : Option ℤ :=
  let ds := (splitSign s).2
  let n : ℤ := if (splitSign s).1 then -value ds else value ds
  if ds ≠ [] ∧ ds.all isDigit ∧ -2 ^ 63 ≤ n ∧ n < 2 ^ 63 then some n else none

inductive Denotes : Bytes → ℤ → Prop
  | unsigned {ds : Bytes} : ds ≠ [] → ds.all isDigit → Denotes ds (value ds)
  | plus {ds : Bytes} : ds ≠ [] → ds.all isDigit → Denotes (43 :: ds) (value ds)
  | minus {ds : Bytes} : ds ≠ [] → ds.all isDigit → Denotes (45 :: ds) (-value ds)

lemma isDigit_digit {d : ℕ} (h : d < 10) : isDigit (digit d) = true := by
  interval_cases d <;> rfl

lemma digit_toNat {d : ℕ} (h : d < 10) : (digit d).toNat = 48 + d := by
  interval_cases d <;> rfl

lemma natNumeral_digits (n : ℕ) : ∀ b ∈ natNumeral n, ∃ d < 10, b = digit d := by
  intro b hb
  rw [natNumeral] at hb
  split_ifs at hb with hn
  · exact ⟨0, by omega, by simpa using hb⟩
  · obtain ⟨d, hd, rfl⟩ := List.mem_map.mp hb
    exact ⟨d, Nat.digits_lt_base (by omega) (List.mem_reverse.mp hd), rfl⟩

lemma natNumeral_ne_nil (n : ℕ) : natNumeral n ≠ [] := by
  rw [natNumeral]
  split_ifs with hn
  · simp
  · simpa [Nat.digits_ne_nil_iff_ne_zero] using hn

lemma value_concat (ds : Bytes) (b : UInt8) : value (ds ++ [b]) = value ds * 10 + (b.toNat - 48) := by
  simp [value]

lemma value_digits {ds : List ℕ} (h : ∀ d ∈ ds, d < 10) :
    value (ds.reverse.map digit) = Nat.ofDigits 10 ds := by
  induction ds with
  | nil => rfl
  | cons d ds ih =>
    have hd := digit_toNat (h d List.mem_cons_self)
    have hds := ih fun e he => h e (List.mem_cons_of_mem _ he)
    rw [List.reverse_cons, List.map_append, List.map_singleton, value_concat, hds, hd,
      Nat.ofDigits_cons]
    omega

lemma value_natNumeral (n : ℕ) : value (natNumeral n) = n := by
  rw [natNumeral]
  split_ifs with hn
  · subst hn
    rfl
  · rw [value_digits fun d hd => Nat.digits_lt_base (by omega) hd, Nat.ofDigits_digits]

lemma takeWhile_natNumeral (n : ℕ) : (natNumeral n).takeWhile isDigit = natNumeral n := by
  rw [List.takeWhile_eq_self_iff]
  intro b hb
  obtain ⟨d, hd, rfl⟩ := natNumeral_digits n b hb
  exact isDigit_digit hd

lemma natNumeral_cons (n : ℕ) : ∃ d < 10, ∃ ds, natNumeral n = digit d :: ds := by
  obtain ⟨b, ds, hb⟩ := List.exists_cons_of_ne_nil (natNumeral_ne_nil n)
  obtain ⟨d, hd, rfl⟩ := natNumeral_digits n b (by simp [hb])
  exact ⟨d, hd, ds, hb⟩

lemma skipSpace_natNumeral (n : ℕ) : skipSpace (natNumeral n) = some (natNumeral n) := by
  obtain ⟨d, hd, ds, h⟩ := natNumeral_cons n
  rw [h]
  interval_cases d <;> rfl

lemma splitSign_natNumeral (n : ℕ) : splitSign (natNumeral n) = (false, natNumeral n) := by
  obtain ⟨d, hd, ds, h⟩ := natNumeral_cons n
  rw [h]
  interval_cases d <;> rfl

lemma natNumeral_length {n k : ℕ} (hl : 10 ^ k ≤ n) (hu : n < 10 ^ (k + 1)) :
    (natNumeral n).length = k + 1 := by
  have hn : n ≠ 0 := by
    have := Nat.pow_pos (n := k) (show 0 < 10 by omega)
    omega
  rw [natNumeral, if_neg hn, List.length_map, List.length_reverse,
    Nat.length_digits 10 n (by omega) hn, Nat.log_eq_of_pow_le_of_lt_pow hl hu]

lemma atoi_natNumeral {n : ℕ} (h : n < 2 ^ 63) : atoi (natNumeral n) = some (n : ℤ) := by
  have hall : (natNumeral n).all isDigit = true := by
    rw [List.all_eq_true]
    intro b hb
    obtain ⟨d, hd, rfl⟩ := natNumeral_digits n b hb
    exact isDigit_digit hd
  simp only [atoi, splitSign_natNumeral, value_natNumeral, Bool.false_eq_true, if_false]
  exact if_pos ⟨natNumeral_ne_nil n, hall, by omega, by exact_mod_cast h⟩

lemma splitSign_digits {ds : Bytes} (h : ds.all isDigit) : splitSign ds = (false, ds) := by
  fun_cases splitSign ds
  · simp [isDigit] at h
  · simp [isDigit] at h
  · rfl

lemma denotes_iff {s : Bytes} {n : ℤ} : Denotes s n ↔ (splitSign s).2 ≠ [] ∧
    (splitSign s).2.all isDigit ∧
      n = if (splitSign s).1 then -(value (splitSign s).2 : ℤ) else value (splitSign s).2 := by
  constructor
  · intro h
    cases h with
    | unsigned hne hall =>
      rw [splitSign_digits hall]
      exact ⟨hne, hall, rfl⟩
    | plus hne hall => exact ⟨hne, hall, rfl⟩
    | minus hne hall => exact ⟨hne, hall, rfl⟩
  · rintro ⟨hne, hall, rfl⟩
    revert hne hall
    fun_cases splitSign s
    · exact .minus
    · exact .plus
    · exact .unsigned

lemma atoi_eq_some_iff {s : Bytes} {n : ℤ} :
    atoi s = some n ↔ Denotes s n ∧ -2 ^ 63 ≤ n ∧ n < 2 ^ 63 := by
  simp only [denotes_iff, atoi, Option.ite_none_right_eq_some, Option.some.injEq]
  constructor
  · rintro ⟨⟨hne, hall, hl, hu⟩, rfl⟩
    exact ⟨⟨hne, hall, rfl⟩, hl, hu⟩
  · rintro ⟨⟨hne, hall, rfl⟩, hl, hu⟩
    exact ⟨⟨hne, hall, hl, hu⟩, rfl⟩

lemma scanInt64_intNumeral {n : ℤ} (hl : -2 ^ 63 ≤ n) (hu : n < 2 ^ 63) :
    scanInt64 (intNumeral n) = some n := by
  by_cases hn : n < 0
  · have hs : skipSpace (intNumeral n) = some (45 :: natNumeral n.natAbs) := by
      rw [intNumeral, if_pos hn]
      rfl
    have hv : -(n.natAbs : ℤ) = n := by omega
    simp only [scanInt64, hs, Option.bind_some, splitSign, takeWhile_natNumeral, value_natNumeral,
      if_true, hv]
    exact if_pos ⟨natNumeral_ne_nil _, hl, hu⟩
  · have hs : skipSpace (intNumeral n) = some (natNumeral n.natAbs) := by
      rw [intNumeral, if_neg hn, skipSpace_natNumeral]
    have hv : (n.natAbs : ℤ) = n := by omega
    simp only [scanInt64, hs, Option.bind_some, splitSign_natNumeral, takeWhile_natNumeral,
      value_natNumeral, Bool.false_eq_true, if_false, hv]
    exact if_pos ⟨natNumeral_ne_nil _, hl, hu⟩

lemma scanInt64_range {s : Bytes} {n : ℤ} (h : scanInt64 s = some n) : -2 ^ 63 ≤ n ∧ n < 2 ^ 63 := by
  obtain ⟨r, -, hr⟩ := Option.bind_eq_some_iff.mp h
  obtain ⟨hc, he⟩ := Option.ite_none_right_eq_some.mp hr
  exact Option.some.inj he ▸ hc.2

lemma hexEncode_mem {bs : Bytes} {b : UInt8} (h : b ∈ hexEncode bs) : ∃ d < 16, b = hexDigit d := by
  obtain ⟨c, -, hc⟩ := List.mem_flatMap.mp h
  have hlt := c.toNat_lt
  rcases List.mem_cons.mp hc with rfl | hc
  · exact ⟨_, by omega, rfl⟩
  · exact ⟨_, by omega, List.mem_singleton.mp hc⟩

lemma hexDigit_inj {d e : ℕ} (hd : d < 16) (he : e < 16) (h : hexDigit d = hexDigit e) : d = e := by
  have hfin : ∀ d e : Fin 16, hexDigit d = hexDigit e → d = e := by decide
  exact congrArg Fin.val (hfin ⟨d, hd⟩ ⟨e, he⟩ h)

lemma hexEncode_injective : Function.Injective hexEncode := by
  intro bs cs h
  induction bs generalizing cs with
  | nil =>
    cases cs with
    | nil => rfl
    | cons c cs => simp [hexEncode] at h
  | cons b bs ih =>
    cases cs with
    | nil => simp [hexEncode] at h
    | cons c cs =>
      simp only [hexEncode, List.flatMap_cons, List.cons_append, List.nil_append,
        List.cons.injEq] at h
      obtain ⟨hhigh, hlow, htail⟩ := h
      have hb := b.toNat_lt
      have hc := c.toNat_lt
      have hdiv := hexDigit_inj (by omega) (by omega) hhigh
      have hmod := hexDigit_inj (by omega) (by omega) hlow
      have hbc : b = c := UInt8.toNat_inj.mp (by omega)
      rw [hbc, ih htail]

end OmniTun.Foundation.Numerals
