import Mathlib.Tactic.IntervalCases
import OmniTun.Foundation.BigEndian
import OmniTun.Foundation.Transport

/-! The standard base32 alphabet without padding. -/

namespace OmniTun.Foundation.Base32

def symbol (v : ℕ) : UInt8 := if v < 26 then UInt8.ofNat (65 + v) else UInt8.ofNat (24 + v)

def value (c : UInt8) : Option ℕ :=
  if 65 ≤ c ∧ c ≤ 90 then some (c.toNat - 65)
  else if 50 ≤ c ∧ c ≤ 55 then some (c.toNat - 24)
  else none

def split : List ℕ → List ℕ
  | [] => []
  | [a] => [a / 8, a % 8 * 4]
  | [a, b] => [a / 8, a % 8 * 4 + b / 64, b % 64 / 2, b % 2 * 16]
  | [a, b, c] => [a / 8, a % 8 * 4 + b / 64, b % 64 / 2, b % 2 * 16 + c / 16, c % 16 * 2]
  | [a, b, c, d] =>
    [a / 8, a % 8 * 4 + b / 64, b % 64 / 2, b % 2 * 16 + c / 16, c % 16 * 2 + d / 128, d % 128 / 4,
      d % 4 * 8]
  | a :: b :: c :: d :: e :: rest =>
    a / 8 :: (a % 8 * 4 + b / 64) :: b % 64 / 2 :: (b % 2 * 16 + c / 16) ::
      (c % 16 * 2 + d / 128) :: d % 128 / 4 :: (d % 4 * 8 + e / 32) :: e % 32 :: split rest

def join : List ℕ → List ℕ
  | a :: b :: c :: d :: e :: f :: g :: h :: rest =>
    (a * 8 + b / 4) :: (b % 4 * 64 + c * 2 + d / 16) :: (d % 16 * 16 + e / 2) ::
      (e % 2 * 128 + f * 4 + g / 8) :: (g % 8 * 32 + h) :: join rest
  | [a, b, c, d, e, f, g] =>
    [a * 8 + b / 4, b % 4 * 64 + c * 2 + d / 16, d % 16 * 16 + e / 2, e % 2 * 128 + f * 4 + g / 8]
  | [a, b, c, d, e] => [a * 8 + b / 4, b % 4 * 64 + c * 2 + d / 16, d % 16 * 16 + e / 2]
  | [a, b, c, d] => [a * 8 + b / 4, b % 4 * 64 + c * 2 + d / 16]
  | [a, b] => [a * 8 + b / 4]
  | _ => []

def encodeToString (bs : Bytes) : Bytes := (split (bs.map UInt8.toNat)).map symbol

def decodeString (s : Bytes) : Option Bytes :=
  ((s.filter fun c => c != 10 && c != 13).mapM value).map fun vs => (join vs).map UInt8.ofNat

lemma split_ne_nil {vs : List ℕ} (h : vs ≠ []) : split vs ≠ [] := by
  fun_cases split vs with
  | case1 => exact absurd rfl h
  | _ => simp

lemma encodeToString_ne_nil {bs : Bytes} (h : bs ≠ []) : encodeToString bs ≠ [] := by
  apply mt List.map_eq_nil_iff.mp
  apply split_ne_nil
  exact mt List.map_eq_nil_iff.mp h

lemma value_symbol {v : ℕ} (h : v < 32) : value (symbol v) = some v := by
  interval_cases v <;> rfl

lemma split_lt : ∀ bs : Bytes, ∀ v ∈ split (bs.map UInt8.toNat), v < 32
  | [] => by simp [split]
  | [a] => by
    have ha := a.toNat_lt
    simp only [List.map_cons, List.map_nil, split, List.forall_mem_cons]
    refine ⟨by omega, by omega, by simp⟩
  | [a, b] => by
    have ha := a.toNat_lt
    have hb := b.toNat_lt
    simp only [List.map_cons, List.map_nil, split, List.forall_mem_cons]
    refine ⟨by omega, by omega, by omega, by omega, by simp⟩
  | [a, b, c] => by
    have ha := a.toNat_lt
    have hb := b.toNat_lt
    have hc := c.toNat_lt
    simp only [List.map_cons, List.map_nil, split, List.forall_mem_cons]
    refine ⟨by omega, by omega, by omega, by omega, by omega, by simp⟩
  | [a, b, c, d] => by
    have ha := a.toNat_lt
    have hb := b.toNat_lt
    have hc := c.toNat_lt
    have hd := d.toNat_lt
    simp only [List.map_cons, List.map_nil, split, List.forall_mem_cons]
    refine ⟨by omega, by omega, by omega, by omega, by omega, by omega, by omega, by simp⟩
  | a :: b :: c :: d :: e :: rest => by
    have ha := a.toNat_lt
    have hb := b.toNat_lt
    have hc := c.toNat_lt
    have hd := d.toNat_lt
    have he := e.toNat_lt
    simp only [List.map_cons, split, List.forall_mem_cons]
    refine ⟨by omega, by omega, by omega, by omega, by omega, by omega, by omega, by omega,
      split_lt rest⟩

def number (vs : List ℕ) : ℕ := vs.foldl (fun n v => n * 32 + v) 0

lemma number_append (us vs : List ℕ) :
    number (us ++ vs) = number us * 32 ^ vs.length + number vs := by
  induction vs using List.reverseRecOn with
  | nil => simp [number]
  | append_singleton vs v ih =>
    have hconcat : ∀ ws : List ℕ, number (ws ++ [v]) = number ws * 32 + v := by simp [number]
    rw [← List.append_assoc, hconcat, hconcat, ih, List.length_append, List.length_singleton]
    ring

lemma pow_groups (n : ℕ) : 32 ^ n = 2 ^ (5 * n % 8) * 256 ^ (5 * n / 8) := by
  have hbits : 32 ^ n = 2 ^ (5 * n) := by
    rw [pow_mul]
    rfl
  have hbytes : 256 ^ (5 * n / 8) = 2 ^ (8 * (5 * n / 8)) := by
    rw [pow_mul]
    rfl
  rw [hbits, hbytes, ← pow_add, Nat.mod_add_div]

lemma join_spec : ∀ vs : List ℕ, (∀ v ∈ vs, v < 32) → 5 * vs.length % 8 < 5 →
    (join vs).length = 5 * vs.length / 8 ∧
      BigEndian.get ((join vs).map UInt8.ofNat) = number vs / 2 ^ (5 * vs.length % 8)
  | [], _, _ => by simp [join, number]
  | [a], _, hlen => by simp at hlen
  | [a, b], hlt, _ => by
    simp only [List.forall_mem_cons] at hlt
    have hrest : 2 ^ (5 * [a, b].length % 8) = 4 := by norm_num
    refine ⟨by simp [join], ?_⟩
    rw [hrest]
    simp only [join, List.map_cons, List.map_nil, BigEndian.get, List.foldl_cons, List.foldl_nil,
      UInt8.toNat_ofNat', number]
    omega
  | [a, b, c], _, hlen => by simp at hlen
  | [a, b, c, d], hlt, _ => by
    simp only [List.forall_mem_cons] at hlt
    have hrest : 2 ^ (5 * [a, b, c, d].length % 8) = 16 := by norm_num
    refine ⟨by simp [join], ?_⟩
    rw [hrest]
    simp only [join, List.map_cons, List.map_nil, BigEndian.get, List.foldl_cons, List.foldl_nil,
      UInt8.toNat_ofNat', number]
    omega
  | [a, b, c, d, e], hlt, _ => by
    simp only [List.forall_mem_cons] at hlt
    have hrest : 2 ^ (5 * [a, b, c, d, e].length % 8) = 2 := by norm_num
    refine ⟨by simp [join], ?_⟩
    rw [hrest]
    simp only [join, List.map_cons, List.map_nil, BigEndian.get, List.foldl_cons, List.foldl_nil,
      UInt8.toNat_ofNat', number]
    omega
  | [a, b, c, d, e, f], _, hlen => by simp at hlen
  | [a, b, c, d, e, f, g], hlt, _ => by
    simp only [List.forall_mem_cons] at hlt
    have hrest : 2 ^ (5 * [a, b, c, d, e, f, g].length % 8) = 8 := by norm_num
    refine ⟨by simp [join], ?_⟩
    rw [hrest]
    simp only [join, List.map_cons, List.map_nil, BigEndian.get, List.foldl_cons, List.foldl_nil,
      UInt8.toNat_ofNat', number]
    omega
  | a :: b :: c :: d :: e :: f :: g :: h :: rest, hlt, hlen => by
    obtain ⟨ha, hb, hc, hd, he, hf, hg, hh, hrest⟩ : a < 32 ∧ b < 32 ∧ c < 32 ∧ d < 32 ∧ e < 32 ∧
        f < 32 ∧ g < 32 ∧ h < 32 ∧ ∀ v ∈ rest, v < 32 := by
      simpa only [List.forall_mem_cons] using hlt
    have hmod : 5 * (rest.length + 8) % 8 = 5 * rest.length % 8 := by omega
    have hdiv : 5 * (rest.length + 8) / 8 = 5 + 5 * rest.length / 8 := by omega
    have hwhole : (a :: b :: c :: d :: e :: f :: g :: h :: rest).length = rest.length + 8 := rfl
    rw [hwhole, hmod] at hlen
    obtain ⟨ihlen, ih⟩ := join_spec rest hrest hlen
    have hbytes : join (a :: b :: c :: d :: e :: f :: g :: h :: rest) =
        [a * 8 + b / 4, b % 4 * 64 + c * 2 + d / 16, d % 16 * 16 + e / 2,
          e % 2 * 128 + f * 4 + g / 8, g % 8 * 32 + h] ++ join rest := by simp [join]
    have hgroups : number (a :: b :: c :: d :: e :: f :: g :: h :: rest) =
        number [a, b, c, d, e, f, g, h] * 32 ^ rest.length + number rest :=
      number_append [a, b, c, d, e, f, g, h] rest
    have hblock : BigEndian.get ([a * 8 + b / 4, b % 4 * 64 + c * 2 + d / 16, d % 16 * 16 + e / 2,
        e % 2 * 128 + f * 4 + g / 8, g % 8 * 32 + h].map UInt8.ofNat) =
        number [a, b, c, d, e, f, g, h] := by
      simp only [List.map_cons, List.map_nil, BigEndian.get, List.foldl_cons, List.foldl_nil,
        UInt8.toNat_ofNat', number]
      omega
    rw [hwhole, hmod, hdiv, hbytes, hgroups]
    constructor
    · rw [List.length_append, ihlen]
      rfl
    · rw [List.map_append, BigEndian.get_append, hblock, List.length_map, ihlen, ih, pow_groups,
        mul_left_comm, Nat.mul_add_div (Nat.two_pow_pos _)]

lemma first_byte {b : ℕ} (a : ℕ) (hb : b < 256) : a / 8 * 8 + (a % 8 * 4 + b / 64) / 4 = a := by
  omega

lemma second_byte {b c : ℕ} (a : ℕ) (hb : b < 256) (hc : c < 256) :
    (a % 8 * 4 + b / 64) % 4 * 64 + b % 64 / 2 * 2 + (b % 2 * 16 + c / 16) / 16 = b := by
  omega

lemma third_byte {c d : ℕ} (b : ℕ) (hc : c < 256) (hd : d < 256) :
    (b % 2 * 16 + c / 16) % 16 * 16 + (c % 16 * 2 + d / 128) / 2 = c := by
  omega

lemma join_split : ∀ bs : Bytes, (join (split (bs.map UInt8.toNat))).map UInt8.ofNat = bs
  | [] => by simp [split, join]
  | [a] => by
    have ha : a.toNat / 8 * 8 + a.toNat % 8 * 4 / 4 = a.toNat := by omega
    simp only [List.map_cons, List.map_nil, split, join, ha, UInt8.ofNat_toNat]
  | [a, b] => by
    have hltb := b.toNat_lt
    have ha := first_byte a.toNat hltb
    have hb : (a.toNat % 8 * 4 + b.toNat / 64) % 4 * 64 + b.toNat % 64 / 2 * 2 +
        b.toNat % 2 * 16 / 16 = b.toNat := by omega
    simp only [List.map_cons, List.map_nil, split, join, ha, hb, UInt8.ofNat_toNat]
  | [a, b, c] => by
    have hltb := b.toNat_lt
    have hltc := c.toNat_lt
    have ha := first_byte a.toNat hltb
    have hb := second_byte a.toNat hltb hltc
    have hc : (b.toNat % 2 * 16 + c.toNat / 16) % 16 * 16 + c.toNat % 16 * 2 / 2 = c.toNat := by
      omega
    simp only [List.map_cons, List.map_nil, split, join, ha, hb, hc, UInt8.ofNat_toNat]
  | [a, b, c, d] => by
    have hltb := b.toNat_lt
    have hltc := c.toNat_lt
    have hltd := d.toNat_lt
    have ha := first_byte a.toNat hltb
    have hb := second_byte a.toNat hltb hltc
    have hc := third_byte b.toNat hltc hltd
    have hd : (c.toNat % 16 * 2 + d.toNat / 128) % 2 * 128 + d.toNat % 128 / 4 * 4 +
        d.toNat % 4 * 8 / 8 = d.toNat := by omega
    simp only [List.map_cons, List.map_nil, split, join, ha, hb, hc, hd, UInt8.ofNat_toNat]
  | a :: b :: c :: d :: e :: rest => by
    have hltb := b.toNat_lt
    have hltc := c.toNat_lt
    have hltd := d.toNat_lt
    have hlte := e.toNat_lt
    have ha := first_byte a.toNat hltb
    have hb := second_byte a.toNat hltb hltc
    have hc := third_byte b.toNat hltc hltd
    have hd : (c.toNat % 16 * 2 + d.toNat / 128) % 2 * 128 + d.toNat % 128 / 4 * 4 +
        (d.toNat % 4 * 8 + e.toNat / 32) / 8 = d.toNat := by omega
    have he : (d.toNat % 4 * 8 + e.toNat / 32) % 8 * 32 + e.toNat % 32 = e.toNat := by omega
    simp only [List.map_cons, split, join, join_split rest, ha, hb, hc, hd, he, UInt8.ofNat_toNat]

end OmniTun.Foundation.Base32
