import OmniTun.Foundation.Numerals

/-! IPv4 addresses in dotted notation, and the blocks of addresses that CIDR texts name. -/

namespace OmniTun.Foundation.IPv4

open Numerals

def parseOctet (s : Bytes) : Option ℕ :=
  if s ≠ [] ∧ s.all isDigit ∧ (s.head? = some 48 → s.length = 1) ∧ value s ≤ 255 then some (value s)
  else none

def parseAddr (s : Bytes) : Option ℕ :=
  match s.splitOn 46 with
  | [a, b, c, d] => do
    let a ← parseOctet a
    let b ← parseOctet b
    let c ← parseOctet c
    let d ← parseOctet d
    return ((a * 256 + b) * 256 + c) * 256 + d
  | _ => none

structure Block where
  network : ℕ
  bits : ℕ
  bits_le : bits ≤ 32
  deriving DecidableEq

def parseCIDR (s : Bytes) : Option Block :=
  match s.splitOn 47 with
  | [addr, bits] =>
    (parseAddr addr).bind fun a =>
      if h : bits ≠ [] ∧ bits.all isDigit ∧ value bits ≤ 32 then some ⟨a, value bits, h.2.2⟩ else none
  | _ => none

def Block.Contains (b : Block) (a : ℕ) : Prop :=
  a / 2 ^ (32 - b.bits) = b.network / 2 ^ (32 - b.bits)

def Inside (cidr addr : Bytes) : Prop :=
  ∃ b a, parseCIDR cidr = some b ∧ parseAddr addr = some a ∧ b.Contains a

instance (b : Block) (a : ℕ) : Decidable (b.Contains a) := by unfold Block.Contains; infer_instance

instance (cidr addr : Bytes) : Decidable (Inside cidr addr) :=
  match hb : parseCIDR cidr, ha : parseAddr addr with
  | some b, some a => decidable_of_iff (b.Contains a) (by simp [Inside, hb, ha])
  | none, _ => isFalse (by simp [Inside, hb])
  | _, none => isFalse (by simp [Inside, ha])

lemma head_natNumeral {n : ℕ} (h : (natNumeral n).head? = some 48) : (natNumeral n).length = 1 := by
  rw [natNumeral] at h ⊢
  split_ifs at h ⊢ with hn
  · rfl
  · exfalso
    have hne : Nat.digits 10 n ≠ [] := Nat.digits_ne_nil_iff_ne_zero.mpr hn
    have hlast := Nat.getLast_digit_ne_zero 10 hn
    have hlt := Nat.digits_lt_base (by omega) (List.getLast_mem hne)
    have hhead : digit ((Nat.digits 10 n).getLast hne) = 48 := by
      rw [List.head?_map, List.head?_reverse, List.getLast?_eq_some_getLast hne] at h
      simpa using h
    have hvalue := digit_toNat hlt
    rw [hhead] at hvalue
    apply hlast
    have h48 : (48 : UInt8).toNat = 48 := rfl
    omega

lemma all_natNumeral (n : ℕ) : (natNumeral n).all isDigit = true := by
  rw [List.all_eq_true]
  intro b hb
  obtain ⟨d, hd, rfl⟩ := natNumeral_digits n b hb
  exact isDigit_digit hd

lemma parseOctet_natNumeral (n : ℕ) :
    parseOctet (natNumeral n) = if n ≤ 255 then some n else none := by
  have hhead : (natNumeral n).head? = some 48 → (natNumeral n).length = 1 := head_natNumeral
  simp only [parseOctet, value_natNumeral, all_natNumeral]
  by_cases hn : n ≤ 255
  · rw [if_pos ⟨natNumeral_ne_nil n, trivial, hhead, hn⟩, if_pos hn]
  · rw [if_neg fun h => hn h.2.2.2, if_neg hn]

lemma dot_not_mem_natNumeral (n : ℕ) : (46 : UInt8) ∉ natNumeral n := by
  intro h
  obtain ⟨d, hd, hdot⟩ := natNumeral_digits n _ h
  have hvalue := digit_toNat hd
  rw [← hdot] at hvalue
  have h46 : (46 : UInt8).toNat = 46 := rfl
  omega

lemma parseAddr_dots {a b c d : Bytes} (ha : 46 ∉ a) (hb : 46 ∉ b) (hc : 46 ∉ c) (hd : 46 ∉ d) :
    parseAddr (a ++ 46 :: (b ++ 46 :: (c ++ 46 :: d))) = (do
      let a ← parseOctet a
      let b ← parseOctet b
      let c ← parseOctet c
      let d ← parseOctet d
      return ((a * 256 + b) * 256 + c) * 256 + d) := by
  rw [parseAddr, List.splitOn_append_cons_self_of_not_mem ha,
    List.splitOn_append_cons_self_of_not_mem hb, List.splitOn_append_cons_self_of_not_mem hc,
    List.splitOn_eq_singleton hd]

end OmniTun.Foundation.IPv4
