import OmniTun.Foundation.BigEndian
import OmniTun.Foundation.IPv4
import OmniTun.Foundation.NetAddress

/-! IP addresses of both families, the networks that CIDR texts name, and membership in them. -/

namespace OmniTun.Foundation.Networks

open Numerals NetAddress

/-- An address in its sixteen bytes, in which an IPv4 address is mapped. -/
structure Addr where
  bytes : Bytes
  is4 : Bool
  zone : Bytes
  length : bytes.length = 16
  mapped : is4 = true → bytes.take 12 = v4InV6Prefix

def Addr.bitLen (a : Addr) : ℕ := if a.is4 then 32 else 128

def addr4 (n : ℕ) : Addr where
  bytes := v4InV6Prefix ++ BigEndian.put 4 n
  is4 := true
  zone := []
  length := by simp [v4InV6Prefix]
  mapped _ := by simp [v4InV6Prefix]

def addr6 (bytes zone : Bytes) : Option Addr :=
  if h : bytes.length = 16 then some ⟨bytes, false, zone, h, by simp⟩ else none

def hexDigitValue (c : UInt8) : Option ℕ :=
  if 48 ≤ c ∧ c ≤ 57 then some (c.toNat - 48)
  else if 97 ≤ c ∧ c ≤ 102 then some (c.toNat - 87)
  else if 65 ≤ c ∧ c ≤ 70 then some (c.toNat - 55)
  else none

def scanGroup (s : Bytes) : Option (ℕ × Bytes) :=
  let ds := s.takeWhile fun c => (hexDigitValue c).isSome
  if ds = [] ∨ 4 < ds.length then none
  else some (ds.foldl (fun n c => n * 16 + (hexDigitValue c).getD 0) 0, s.drop ds.length)

def scanGroups : ℕ → Bytes → Option ℕ → Bytes → Option (Bytes × Option ℕ × Bytes)
  | 0, ip, ellipsis, s => some (ip, ellipsis, s)
  | fuel + 1, ip, ellipsis, s => do
    let (n, rest) ← scanGroup s
    match rest with
    | 46 :: _ =>
      if ellipsis = none ∧ ip.length ≠ 12 ∨ 16 < ip.length + 4 then none
      else
        let fields ← IPv4.parseAddr s
        return (ip ++ BigEndian.put 4 fields, ellipsis, [])
    | [] => return (ip ++ BigEndian.put 2 n, ellipsis, [])
    | [58] => none
    | [58, 58] =>
      if ellipsis = none then return (ip ++ BigEndian.put 2 n, some (ip.length + 2), []) else none
    | 58 :: 58 :: s =>
      if ellipsis = none then scanGroups fuel (ip ++ BigEndian.put 2 n) (some (ip.length + 2)) s
      else none
    | 58 :: s => scanGroups fuel (ip ++ BigEndian.put 2 n) ellipsis s
    | _ => none

def expand (ip : Bytes) (ellipsis : Option ℕ) : Option Bytes :=
  match ellipsis with
  | none => if ip.length < 16 then none else some ip
  | some e =>
    if ip.length < 16 then some (ip.take e ++ List.replicate (16 - ip.length) 0 ++ ip.drop e)
    else none

def parseIPv6Groups (s : Bytes) : Option Bytes :=
  match s with
  | [58, 58] => some (List.replicate 16 0)
  | _ => do
    let (ip, ellipsis, rest) ←
      if s.take 2 = [58, 58] then scanGroups 8 [] (some 0) (s.drop 2) else scanGroups 8 [] none s
    if rest = [] then expand ip ellipsis else none

def parseIPv6 (s : Bytes) : Option Addr :=
  if 37 ∈ s then
    let zone := (s.dropWhile (· ≠ 37)).tail
    if zone = [] then none
    else (parseIPv6Groups (s.takeWhile (· ≠ 37))).bind (addr6 · zone)
  else (parseIPv6Groups s).bind (addr6 · [])

def parseAddr (s : Bytes) : Option Addr :=
  match s.find? fun c => c = 46 ∨ c = 58 ∨ c = 37 with
  | some 46 => (IPv4.parseAddr s).map addr4
  | some 58 => parseIPv6 s
  | _ => none

def parseIP (s : Bytes) : Option Bytes :=
  (parseAddr s).bind fun a => if a.zone = [] then some a.bytes else none

structure IPNet where
  ip : Bytes
  mask : Bytes

def cidrMask : ℕ → ℕ → Bytes
  | 0, _ => []
  | l + 1, n =>
    if 8 ≤ n then 0xff :: cidrMask l (n - 8) else ~~~(0xff >>> n.toUInt8) :: cidrMask l 0

def bitAnd (bs mask : Bytes) : Bytes := List.zipWith (· &&& ·) bs mask

def maskIP (ip mask : Bytes) : Bytes :=
  let mask :=
    if mask.length = 16 ∧ ip.length = 4 ∧ (mask.take 12).all (· = 0xff) then mask.drop 12 else mask
  let ip := if mask.length = 4 ∧ ip.length = 16 ∧ ip.take 12 = v4InV6Prefix then ip.drop 12 else ip
  if ip.length = mask.length then bitAnd ip mask else []

def network (a : Addr) (n : ℕ) : IPNet :=
  let mask := cidrMask (a.bitLen / 8) n
  ⟨maskIP a.bytes mask, mask⟩

def parsePrefix (s : Bytes) : Option (Addr × ℕ) :=
  match s.dropWhile (· ≠ 47) with
  | [] => none
  | _ :: bits =>
    (parseAddr (s.takeWhile (· ≠ 47))).bind fun a =>
      if a.zone = [] ∧ bits ≠ [] ∧ bits.all isDigit ∧ value bits ≤ a.bitLen then
        some (a, value bits)
      else none

def parseCIDR (s : Bytes) : Option IPNet := (parsePrefix s).map fun p => network p.1 p.2

def networkNumberAndMask (n : IPNet) : Bytes × Bytes :=
  match to4 n.ip with
  | some ip =>
    if n.mask.length = 4 then (ip, n.mask)
    else if n.mask.length = 16 then (ip, n.mask.drop 12)
    else ([], [])
  | none => if n.ip.length = 16 ∧ n.mask.length = 16 then (n.ip, n.mask) else ([], [])

def IPNet.contains (n : IPNet) (ip : Bytes) : Bool :=
  let (nn, m) := networkNumberAndMask n
  let ip := (to4 ip).getD ip
  if ip.length ≠ nn.length then false else bitAnd nn m = bitAnd ip m

/-- Membership in a network, the addresses of both families as numbers of 128 bits. -/
def Addr.bits128 (a : Addr) (n : ℕ) : ℕ := if a.is4 then 96 + n else n

def Covers (a : Addr) (n : ℕ) (ip : Bytes) : Prop :=
  BigEndian.get ip / 2 ^ (128 - a.bits128 n) = BigEndian.get a.bytes / 2 ^ (128 - a.bits128 n)

/-! Masks. -/

lemma cidrMask_length (l n : ℕ) : (cidrMask l n).length = l := by
  induction l generalizing n with
  | zero => rfl
  | succ l ih =>
    rw [cidrMask]
    split_ifs
    · rw [List.length_cons, ih]
    · rw [List.length_cons, ih]

lemma bitAnd_length {bs mask : Bytes} (h : bs.length = mask.length) :
    (bitAnd bs mask).length = bs.length := by
  rw [bitAnd, List.length_zipWith, h, min_self]

lemma bitAnd_append {as bs ms ns : Bytes} (h : as.length = ms.length) :
    bitAnd (as ++ bs) (ms ++ ns) = bitAnd as ms ++ bitAnd bs ns :=
  List.zipWith_append h

lemma bitAnd_idem (bs mask : Bytes) : bitAnd (bitAnd bs mask) mask = bitAnd bs mask := by
  induction bs generalizing mask with
  | nil => rfl
  | cons b bs ih =>
    cases mask with
    | nil => rfl
    | cons m mask =>
      have hhead : b &&& m &&& m = b &&& m := by rw [UInt8.and_assoc, UInt8.and_self]
      exact congrArg₂ List.cons hhead (ih mask)

lemma and_ff (b : UInt8) : b &&& 0xff = b := UInt8.and_neg_one

lemma bitAnd_ff (bs : Bytes) : bitAnd bs (List.replicate bs.length 0xff) = bs := by
  induction bs with
  | nil => rfl
  | cons b bs ih => exact congrArg₂ List.cons (and_ff b) ih

lemma cidrMask_take {l n k : ℕ} (hk : k ≤ l) (h : 8 * k ≤ n) :
    (cidrMask l n).take k = List.replicate k 0xff := by
  induction k generalizing l n with
  | zero => rfl
  | succ k ih =>
    obtain ⟨l, rfl⟩ : ∃ m, l = m + 1 := ⟨l - 1, by omega⟩
    rw [cidrMask, if_pos (by omega), List.take_succ_cons, ih (by omega) (by omega)]
    rfl

lemma cidrMask_take_ones {n : ℕ} (h : 96 ≤ n) :
    (cidrMask 16 n).take 12 = List.replicate 12 0xff :=
  cidrMask_take (by omega) (by omega)

lemma bitAnd_cidrMask_split {bs : Bytes} {n : ℕ} (hbs : bs.length = 16) (h : 96 ≤ n) :
    bitAnd bs (cidrMask 16 n) = bs.take 12 ++ bitAnd (bs.drop 12) ((cidrMask 16 n).drop 12) := by
  have htake : (bs.take 12).length = 12 := by rw [List.length_take, hbs]; rfl
  have hones := bitAnd_ff (bs.take 12)
  rw [htake] at hones
  have hlength : (bs.take 12).length = ((cidrMask 16 n).take 12).length := by
    rw [htake, cidrMask_take_ones h, List.length_replicate]
  have hsplit : bitAnd (bs.take 12 ++ bs.drop 12)
      ((cidrMask 16 n).take 12 ++ (cidrMask 16 n).drop 12) =
        bitAnd (bs.take 12) ((cidrMask 16 n).take 12) ++
          bitAnd (bs.drop 12) ((cidrMask 16 n).drop 12) := bitAnd_append hlength
  rwa [List.take_append_drop, List.take_append_drop, cidrMask_take_ones h, hones] at hsplit

lemma le_of_cidrMask_getElem {l n k : ℕ} (h : (cidrMask l n)[k]? = some 0xff) :
    8 * (k + 1) ≤ n := by
  induction l generalizing n k with
  | zero => cases h
  | succ l ih =>
    rw [cidrMask] at h
    split_ifs at h with hn
    · cases k with
      | zero => omega
      | succ k =>
        have hrest := ih h
        omega
    · cases k with
      | zero =>
        have hlt : n < 8 := not_le.mp hn
        have hbyte : ~~~(0xff >>> n.toUInt8) = (0xff : UInt8) := by simpa using h
        interval_cases n <;> exact absurd hbyte (by decide)
      | succ k =>
        have hrest := ih h
        omega

lemma le_of_take_bitAnd {bs : Bytes} {n : ℕ}
    (h : (bitAnd bs (cidrMask 16 n)).take 12 = v4InV6Prefix) : 96 ≤ n := by
  have hbyte : (bitAnd bs (cidrMask 16 n))[11]? = some 0xff := by
    rw [← List.getElem?_take_of_lt (show 11 < 12 by omega), h]
    rfl
  obtain ⟨x, m, -, hm, hxm⟩ := List.getElem?_zipWith_eq_some.mp hbyte
  have hones : m &&& 0xff = 0xff := by
    rw [← hxm, UInt8.and_comm, UInt8.and_assoc, UInt8.and_self]
  rw [← and_ff m, hones] at hm
  have hle := le_of_cidrMask_getElem hm
  omega

lemma and_mask_toNat {n : ℕ} (h : n < 8) (b : UInt8) :
    (b &&& ~~~(0xff >>> n.toUInt8)).toNat = b.toNat / 2 ^ (8 - n) * 2 ^ (8 - n) := by
  have hall : ∀ k < 8, ∀ m < 256,
      (UInt8.ofNat m &&& ~~~((0xff : UInt8) >>> k.toUInt8)).toNat =
        m / 2 ^ (8 - k) * 2 ^ (8 - k) := by
    decide +kernel
  have hb := hall n h b.toNat b.toNat_lt
  rwa [UInt8.ofNat_toNat] at hb

lemma and_mask_iff {n : ℕ} (h : n < 8) (a b : UInt8) :
    a &&& ~~~(0xff >>> n.toUInt8) = b &&& ~~~(0xff >>> n.toUInt8) ↔
      a.toNat / 2 ^ (8 - n) = b.toNat / 2 ^ (8 - n) := by
  rw [← UInt8.toNat_inj, and_mask_toNat h, and_mask_toNat h]
  exact Nat.mul_left_inj (by positivity)

lemma get_cons (b : UInt8) (bs : Bytes) :
    BigEndian.get (b :: bs) = b.toNat * 2 ^ (8 * bs.length) + BigEndian.get bs := by
  have h := BigEndian.get_append [b] bs
  have hhead : BigEndian.get [b] = b.toNat := by simp [BigEndian.get]
  rw [List.singleton_append, hhead] at h
  rw [h, pow_mul]
  rfl

lemma get_lt_two_pow (bs : Bytes) : BigEndian.get bs < 2 ^ (8 * bs.length) := by
  have h := BigEndian.get_lt bs
  rwa [pow_mul]

lemma head_div {q r d : ℕ} (h : r < d) : (q * d + r) / d = q := by
  rw [mul_comm, Nat.mul_add_div (Nat.zero_lt_of_lt h), Nat.div_eq_of_lt h, add_zero]

lemma digits_div_eq_iff {a b x y k N : ℕ} (hx : x < 2 ^ N) (hy : y < 2 ^ N) (hk : k ≤ N) :
    (a * 2 ^ N + x) / 2 ^ k = (b * 2 ^ N + y) / 2 ^ k ↔ a = b ∧ x / 2 ^ k = y / 2 ^ k := by
  obtain ⟨m, rfl⟩ := Nat.exists_eq_add_of_le hk
  have hpos : 0 < 2 ^ k := by positivity
  have hsplit : ∀ c z, (c * 2 ^ (k + m) + z) / 2 ^ k = c * 2 ^ m + z / 2 ^ k := by
    intro c z
    have hmul : c * 2 ^ (k + m) = 2 ^ k * (c * 2 ^ m) := by ring
    rw [hmul, Nat.mul_add_div hpos]
  have hlt : ∀ z, z < 2 ^ (k + m) → z / 2 ^ k < 2 ^ m := by
    intro z hz
    rw [Nat.div_lt_iff_lt_mul hpos, ← pow_add, add_comm]
    exact hz
  rw [hsplit, hsplit]
  constructor
  · intro h
    have hab := congrArg (· / 2 ^ m) h
    rw [head_div (hlt x hx), head_div (hlt y hy)] at hab
    rw [hab] at h
    exact ⟨hab, Nat.add_left_cancel h⟩
  · rintro ⟨rfl, h⟩
    rw [h]

lemma digit_div {a x j N : ℕ} (hx : x < 2 ^ N) : (a * 2 ^ N + x) / 2 ^ (N + j) = a / 2 ^ j := by
  rw [pow_add, ← Nat.div_div_eq_div_mul, head_div hx]

lemma bitAnd_cidrMask_iff {as bs : Bytes} {n : ℕ} (h : as.length = bs.length)
    (hn : n ≤ 8 * as.length) :
    bitAnd as (cidrMask as.length n) = bitAnd bs (cidrMask as.length n) ↔
      BigEndian.get as / 2 ^ (8 * as.length - n) = BigEndian.get bs / 2 ^ (8 * as.length - n) := by
  induction as generalizing bs n with
  | nil =>
    obtain rfl := List.eq_nil_of_length_eq_zero h.symm
    exact iff_of_true rfl rfl
  | cons a as ih =>
    cases bs with
    | nil => cases h
    | cons b bs =>
      have hlen : as.length = bs.length := Nat.succ.inj h
      have ha := get_lt_two_pow as
      have hb := get_lt_two_pow bs
      rw [← hlen] at hb
      rw [List.length_cons] at hn ⊢
      rw [cidrMask, get_cons, get_cons, ← hlen]
      split_ifs with h8
      · have hle : n - 8 ≤ 8 * as.length := by omega
        have hexp : 8 * (as.length + 1) - n = 8 * as.length - (n - 8) := by omega
        rw [hexp, digits_div_eq_iff ha hb (by omega), ← ih hlen hle, UInt8.toNat_inj]
        have hhead : ∀ (c : UInt8) (cs : Bytes),
            bitAnd (c :: cs) (0xff :: cidrMask as.length (n - 8)) =
              c :: bitAnd cs (cidrMask as.length (n - 8)) := by
          intro c cs
          exact congrArg (· :: bitAnd cs (cidrMask as.length (n - 8))) (and_ff c)
        rw [hhead, hhead, List.cons.injEq]
      · have hlt : n < 8 := not_le.mp h8
        have hexp : 8 * (as.length + 1) - n = 8 * as.length + (8 - n) := by omega
        have hzero : bitAnd as (cidrMask as.length 0) = bitAnd bs (cidrMask as.length 0) := by
          rw [ih hlen (Nat.zero_le _), Nat.sub_zero, Nat.div_eq_of_lt ha, Nat.div_eq_of_lt hb]
        rw [hexp, digit_div ha, digit_div hb, ← and_mask_iff hlt]
        rw [bitAnd, bitAnd] at hzero ⊢
        rw [List.zipWith_cons_cons, List.zipWith_cons_cons, List.cons.injEq, hzero]
        exact and_iff_left rfl

/-! Membership. -/

lemma to4_mapped {ip : Bytes} (hlen : ip.length = 16) :
    to4 ip = if ip.take 12 = v4InV6Prefix then some (ip.drop 12) else none := by
  rw [to4, if_neg (by omega)]
  simp [hlen]

lemma to4_short {ip : Bytes} (hlen : ip.length = 4) : to4 ip = some ip := if_pos hlen

lemma get_mapped_div {ip : Bytes} {n : ℕ} (hlen : ip.length = 16) (hn : n ≤ 32)
    (hmapped : ip.take 12 = v4InV6Prefix) :
    BigEndian.get ip / 2 ^ (32 - n) =
      BigEndian.get v4InV6Prefix * 2 ^ n + BigEndian.get (ip.drop 12) / 2 ^ (32 - n) := by
  have hsplit : ip = v4InV6Prefix ++ ip.drop 12 := by
    rw [← hmapped, List.take_append_drop]
  have hdrop : (ip.drop 12).length = 4 := by rw [List.length_drop, hlen]
  have hget := BigEndian.get_append v4InV6Prefix (ip.drop 12)
  rw [← hsplit, hdrop] at hget
  have hmul : BigEndian.get v4InV6Prefix * 256 ^ 4 =
      2 ^ (32 - n) * (BigEndian.get v4InV6Prefix * 2 ^ n) := by
    have hpow : (256 : ℕ) ^ 4 = 2 ^ (32 - n) * 2 ^ n := by
      rw [← pow_add, Nat.sub_add_cancel hn]
      norm_num
    rw [hpow]
    ring
  rw [hget, hmul, Nat.mul_add_div (by positivity)]

lemma take_eq_of_div_eq {as bs : Bytes} {n : ℕ} (ha : as.length = 16) (hb : bs.length = 16)
    (hn : n ≤ 32) (h : BigEndian.get as / 2 ^ n = BigEndian.get bs / 2 ^ n) :
    as.take 12 = bs.take 12 := by
  have hhead : ∀ cs : Bytes, cs.length = 16 →
      BigEndian.get cs / 2 ^ 32 = BigEndian.get (cs.take 12) := by
    intro cs hc
    have hdrop : (cs.drop 12).length = 4 := by rw [List.length_drop, hc]
    have hlt := BigEndian.get_lt (cs.drop 12)
    have hget := BigEndian.get_append (cs.take 12) (cs.drop 12)
    rw [List.take_append_drop, hdrop] at hget
    rw [hdrop] at hlt
    have hpow : (2 : ℕ) ^ 32 = 256 ^ 4 := by norm_num
    rw [hget, hpow, head_div hlt]
  have hpow : (2 : ℕ) ^ 32 = 2 ^ n * 2 ^ (32 - n) := by
    rw [← pow_add, Nat.add_sub_cancel' hn]
  have hdiv : BigEndian.get as / 2 ^ 32 = BigEndian.get bs / 2 ^ 32 := by
    rw [hpow, ← Nat.div_div_eq_div_mul, ← Nat.div_div_eq_div_mul, h]
  rw [hhead as ha, hhead bs hb] at hdiv
  have hta : (as.take 12).length = 12 := by rw [List.length_take, ha]; rfl
  have htb : (bs.take 12).length = 12 := by rw [List.length_take, hb]; rfl
  rw [← BigEndian.put_get_of_length hta, hdiv, BigEndian.put_get_of_length htb]

lemma contains_eq {net : IPNet} {nn m : Bytes} (h : networkNumberAndMask net = (nn, m))
    (ip : Bytes) :
    net.contains ip = true ↔
      ((to4 ip).getD ip).length = nn.length ∧ bitAnd ((to4 ip).getD ip) m = bitAnd nn m := by
  rw [IPNet.contains, h]
  by_cases hlen : ((to4 ip).getD ip).length = nn.length
  · simp only [hlen, ne_eq, not_true_eq_false, if_false, true_and, decide_eq_true_eq]
    exact eq_comm
  · simp [hlen]

lemma network_v4 {a : Addr} {n : ℕ} (h4 : a.is4 = true) :
    network a n = ⟨bitAnd (a.bytes.drop 12) (cidrMask 4 n), cidrMask 4 n⟩ := by
  have hlen := a.length
  have hmask : (cidrMask 4 n).length = 4 := cidrMask_length 4 n
  have hdrop : (a.bytes.drop 12).length = 4 := by rw [List.length_drop, hlen]
  have hbits : a.bitLen / 8 = 4 := by rw [Addr.bitLen, h4]; rfl
  have hne : ¬ ((cidrMask 4 n).length = 16 ∧ a.bytes.length = 4 ∧
      ((cidrMask 4 n).take 12).all (· = 0xff) = true) := by omega
  have hpos : (cidrMask 4 n).length = 4 ∧ a.bytes.length = 16 ∧
      a.bytes.take 12 = v4InV6Prefix := ⟨hmask, hlen, a.mapped h4⟩
  rw [network, hbits, maskIP, if_neg hne, if_pos hpos, if_pos (hdrop.trans hmask.symm)]

lemma network_v6 {a : Addr} {n : ℕ} (h6 : a.is4 = false) :
    network a n = ⟨bitAnd a.bytes (cidrMask 16 n), cidrMask 16 n⟩ := by
  have hlen := a.length
  have hmask : (cidrMask 16 n).length = 16 := cidrMask_length 16 n
  have hbits : a.bitLen / 8 = 16 := by rw [Addr.bitLen, h6]; rfl
  have hne : ¬ ((cidrMask 16 n).length = 16 ∧ a.bytes.length = 4 ∧
      ((cidrMask 16 n).take 12).all (· = 0xff) = true) := by omega
  have hne' : ¬ ((cidrMask 16 n).length = 4 ∧ a.bytes.length = 16 ∧
      a.bytes.take 12 = v4InV6Prefix) := by omega
  rw [network, hbits, maskIP, if_neg hne, if_neg hne', if_pos (hlen.trans hmask.symm)]

lemma contains_v4 {a : Addr} {n : ℕ} {ip : Bytes} (h4 : a.is4 = true) (hn : n ≤ 32)
    (hip : ip.length = 16) : (network a n).contains ip = true ↔ Covers a n ip := by
  have hlen := a.length
  have hmapped := a.mapped h4
  have hmask : (cidrMask 4 n).length = 4 := cidrMask_length 4 n
  have hdrop : (a.bytes.drop 12).length = 4 := by rw [List.length_drop, hlen]
  have hand : (bitAnd (a.bytes.drop 12) (cidrMask 4 n)).length = 4 := by
    rw [bitAnd_length (hdrop.trans hmask.symm), hdrop]
  have hbits128 : 128 - a.bits128 n = 32 - n := by
    rw [Addr.bits128, h4, if_pos rfl]
    omega
  have hnn : networkNumberAndMask (network a n) =
      (bitAnd (a.bytes.drop 12) (cidrMask 4 n), cidrMask 4 n) := by
    rw [network_v4 h4, networkNumberAndMask, to4_short hand]
    exact if_pos hmask
  rw [contains_eq hnn, hand, bitAnd_idem, to4_mapped hip, Covers, hbits128]
  by_cases hmap : ip.take 12 = v4InV6Prefix
  · have hdrop' : (ip.drop 12).length = 4 := by rw [List.length_drop, hip]
    have hiff := bitAnd_cidrMask_iff (hdrop'.trans hdrop.symm) (show n ≤ 8 * _ by omega)
    rw [hdrop'] at hiff
    rw [if_pos hmap, Option.getD_some, hdrop', get_mapped_div hip hn hmap,
      get_mapped_div hlen hn hmapped, Nat.add_left_cancel_iff, ← hiff]
    exact and_iff_right rfl
  · rw [if_neg hmap, Option.getD_none, hip]
    refine iff_of_false (by simp) (fun hcovers => hmap ?_)
    rw [take_eq_of_div_eq hip hlen (Nat.sub_le 32 n) hcovers, hmapped]

lemma contains_v6 {a : Addr} {n : ℕ} {ip : Bytes} (h6 : a.is4 = false) (hn : n ≤ 128)
    (hip : ip.length = 16) :
    (network a n).contains ip = true ↔ Covers a n ip ∧ (to4 ip ≠ none → 96 ≤ n) := by
  have hlen := a.length
  have hmask : (cidrMask 16 n).length = 16 := cidrMask_length 16 n
  have hand : (bitAnd a.bytes (cidrMask 16 n)).length = 16 := by
    rw [bitAnd_length (hlen.trans hmask.symm), hlen]
  have hbits128 : a.bits128 n = n := by rw [Addr.bits128, h6]; rfl
  have hiff := bitAnd_cidrMask_iff (hip.trans hlen.symm) (show n ≤ 8 * _ by omega)
  rw [hip] at hiff
  rw [Covers, hbits128, ← hiff]
  by_cases hnet : (bitAnd a.bytes (cidrMask 16 n)).take 12 = v4InV6Prefix
  · have h96 := le_of_take_bitAnd hnet
    have hnn : networkNumberAndMask (network a n) =
        ((bitAnd a.bytes (cidrMask 16 n)).drop 12, (cidrMask 16 n).drop 12) := by
      rw [network_v6 h6, networkNumberAndMask, to4_mapped hand, if_pos hnet]
      simp [hmask]
    rw [contains_eq hnn, to4_mapped hip]
    by_cases hmap : ip.take 12 = v4InV6Prefix
    · have htake : (a.bytes.take 12).length = 12 := by rw [List.length_take, hlen]; rfl
      rw [bitAnd_cidrMask_split hlen h96, List.take_left' htake] at hnet
      rw [if_pos hmap, Option.getD_some, bitAnd_cidrMask_split hlen h96,
        bitAnd_cidrMask_split hip h96, List.drop_left' htake, bitAnd_idem, hmap, hnet,
        List.append_cancel_left_eq]
      have hdrop : (ip.drop 12).length =
          (bitAnd (a.bytes.drop 12) ((cidrMask 16 n).drop 12)).length := by
        rw [bitAnd_length (by simp [hlen, hmask])]
        simp [hlen, hip]
      simp [hdrop, h96]
    · have hlong : ip.length ≠ ((bitAnd a.bytes (cidrMask 16 n)).drop 12).length := by
        rw [List.length_drop, hand, hip]
        omega
      rw [if_neg hmap, Option.getD_none]
      refine iff_of_false (fun hall => hlong hall.1) ?_
      rintro ⟨hsame, -⟩
      have htake : (ip.take 12).length = 12 := by rw [List.length_take, hip]; rfl
      apply hmap
      rw [← hsame, bitAnd_cidrMask_split hip h96, List.take_left' htake] at hnet
      exact hnet
  · have hnn : networkNumberAndMask (network a n) =
        (bitAnd a.bytes (cidrMask 16 n), cidrMask 16 n) := by
      rw [network_v6 h6, networkNumberAndMask, to4_mapped hand, if_neg hnet]
      simp [hmask, hand]
    rw [contains_eq hnn, to4_mapped hip, hand, bitAnd_idem]
    by_cases hmap : ip.take 12 = v4InV6Prefix
    · have hshort : (ip.drop 12).length ≠ 16 := by
        rw [List.length_drop, hip]
        omega
      rw [if_pos hmap, Option.getD_some]
      refine iff_of_false (fun hall => hshort hall.1) ?_
      rintro ⟨hsame, h96⟩
      apply hnet
      rw [← hsame, bitAnd_cidrMask_split hip (h96 (by simp)), hmap]
      rfl
    · rw [if_neg hmap, Option.getD_none, hip]
      simp

/-- The numbers decide, but for IPv4 addresses and the networks of more than their family. -/
theorem network_contains_iff {a : Addr} {n : ℕ} {ip : Bytes} (hn : n ≤ a.bitLen)
    (hip : ip.length = 16) :
    (network a n).contains ip = true ↔ Covers a n ip ∧ (to4 ip ≠ none → 96 ≤ a.bits128 n) := by
  cases h4 : a.is4 with
  | true =>
    rw [Addr.bitLen, h4] at hn
    have h96 : 96 ≤ a.bits128 n := by
      rw [Addr.bits128, h4, if_pos rfl]
      omega
    rw [contains_v4 h4 hn hip]
    exact (and_iff_left fun _ => h96).symm
  | false =>
    rw [Addr.bitLen, h4] at hn
    have hbits : a.bits128 n = n := by rw [Addr.bits128, h4]; rfl
    rw [contains_v6 h4 hn hip, hbits]

lemma parseIP_length {s ip : Bytes} (h : parseIP s = some ip) : ip.length = 16 := by
  obtain ⟨a, -, ha⟩ := Option.bind_eq_some_iff.mp h
  split_ifs at ha
  rw [← Option.some.inj ha, a.length]

lemma parsePrefix_le {s : Bytes} {a : Addr} {n : ℕ} (h : parsePrefix s = some (a, n)) :
    n ≤ a.bitLen := by
  rw [parsePrefix] at h
  split at h
  · cases h
  · obtain ⟨b, -, hb⟩ := Option.bind_eq_some_iff.mp h
    split_ifs at hb with hall
    cases hb
    exact hall.2.2.2

end OmniTun.Foundation.Networks
