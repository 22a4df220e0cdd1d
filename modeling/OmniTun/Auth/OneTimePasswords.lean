import OmniTun.Auth.Totp

/-! One-time passwords as RFC 6238 has them, and those of the service. -/

namespace OmniTun.Auth.OneTimePasswords

open OmniTun.Foundation OmniTun.Foundation.Numerals

def letter (c : UInt8) : Option ℕ :=
  if 65 ≤ c ∧ c ≤ 90 then some (c.toNat - 65)
  else if 97 ≤ c ∧ c ≤ 122 then some (c.toNat - 97)
  else if 50 ≤ c ∧ c ≤ 55 then some (c.toNat - 24)
  else none

/-- A base32 text without padding, in which no letter is superfluous. -/
structure Secret where
  text : Bytes
  groups : List ℕ
  spelled : text.mapM letter = some groups
  whole : 5 * groups.length % 8 < 5

def Secret.key (s : Secret) : Bytes :=
  BigEndian.put (5 * s.groups.length / 8)
    (Base32.number s.groups / 2 ^ (5 * s.groups.length % 8))

section RFC

def counter (t : ℕ) : Bytes := (List.range 8).map fun i => UInt8.ofNat (t / 30 / 256 ^ (7 - i))

def dynamicTruncation (hs : Vector UInt8 20) : ℕ :=
  let offset : Fin 16 := Fin.ofNat 16 hs[19].toNat
  (hs[offset.val].toNat % 128) * 2 ^ 24 + hs[offset.val + 1].toNat * 2 ^ 16 +
    hs[offset.val + 2].toNat * 2 ^ 8 + hs[offset.val + 3].toNat

def decimals (n : ℕ) : Bytes := (List.range 6).map fun i => digit (n / 10 ^ (5 - i) % 10)

def rfc6238 (hmacSHA1 : Bytes → Bytes → Vector UInt8 20) (key : Bytes) (t : ℕ) : Bytes :=
  decimals (dynamicTruncation (hmacSHA1 key (counter t)))

end RFC

section Decoding

lemma letter_spec {c : UInt8} {v : ℕ} (h : letter c = some v) :
    c < 128 ∧ v < 32 ∧ Base32.value (upperByte c) = some v ∧ upperByte c ≠ 10 ∧ upperByte c ≠ 13 := by
  have hall : ∀ n < 256, (letter (UInt8.ofNat n)).all fun v =>
      UInt8.ofNat n < 128 ∧ v < 32 ∧ Base32.value (upperByte (UInt8.ofNat n)) = some v ∧
        upperByte (UInt8.ofNat n) ≠ 10 ∧ upperByte (UInt8.ofNat n) ≠ 13 := by
    decide +kernel
  have hc := hall c.toNat c.toNat_lt
  rw [UInt8.ofNat_toNat, h, Option.all_some] at hc
  exact of_decide_eq_true hc

lemma toUpper_ascii {s : Bytes} (h : ∀ c ∈ s, c < 128) : toUpper s = s.map upperByte := by
  induction s with
  | nil => rfl
  | cons c s ih =>
    rw [List.forall_mem_cons] at h
    have hc : c ≠ 0xC4 ∧ c ≠ 0xC5 := by
      constructor
      · rintro rfl
        exact absurd h.1 (by decide)
      · rintro rfl
        exact absurd h.1 (by decide)
    rw [toUpper, List.map_cons, ih h.2]
    · rintro s' rfl
      exact absurd rfl hc.1
    · rintro s' rfl
      exact absurd rfl hc.2

lemma value_upper {s : Bytes} {groups : List ℕ} (h : s.mapM letter = some groups) :
    (s.map upperByte).mapM Base32.value = some groups ∧ (∀ v ∈ groups, v < 32) ∧
      ∀ c ∈ s, c < 128 ∧ upperByte c ≠ 10 ∧ upperByte c ≠ 13 := by
  induction s generalizing groups with
  | nil =>
    obtain rfl := Option.some.inj h
    exact ⟨rfl, by simp, by simp⟩
  | cons c s ih =>
    rw [List.mapM_cons] at h
    obtain ⟨v, hv, hrest⟩ := Option.bind_eq_some_iff.mp h
    obtain ⟨vs, hvs, hgroups⟩ := Option.bind_eq_some_iff.mp hrest
    obtain rfl := Option.some.inj hgroups
    obtain ⟨hascii, hlt, hvalue, hbreak⟩ := letter_spec hv
    obtain ⟨ihvalue, ihlt, ihascii⟩ := ih hvs
    refine ⟨?_, List.forall_mem_cons.mpr ⟨hlt, ihlt⟩,
      List.forall_mem_cons.mpr ⟨⟨hascii, hbreak⟩, ihascii⟩⟩
    rw [List.map_cons, List.mapM_cons, hvalue, ihvalue]
    rfl

lemma filter_upper {s : Bytes} (h : ∀ c ∈ s, upperByte c ≠ 10 ∧ upperByte c ≠ 13) :
    (s.map upperByte).filter (fun c => c != 10 && c != 13) = s.map upperByte := by
  apply List.filter_eq_self.mpr
  intro c hc
  obtain ⟨b, hb, rfl⟩ := List.mem_map.mp hc
  obtain ⟨h10, h13⟩ := h b hb
  simp [h10, h13]

lemma decode_text (s : Secret) : Base32.decodeString (toUpper s.text) = some s.key := by
  obtain ⟨hvalue, hlt, hascii⟩ := value_upper s.spelled
  obtain ⟨hlen, hnumber⟩ := Base32.join_spec s.groups hlt s.whole
  have hkey : (Base32.join s.groups).map UInt8.ofNat = s.key := by
    rw [Secret.key, ← hnumber]
    apply (BigEndian.put_get_of_length _).symm
    rw [List.length_map, hlen]
  rw [toUpper_ascii fun c hc => (hascii c hc).1, Base32.decodeString,
    filter_upper fun c hc => (hascii c hc).2, hvalue, Option.map_some, hkey]

lemma letter_symbol {v : ℕ} (h : v < 32) : letter (Base32.symbol v) = some v := by
  interval_cases v <;> rfl

lemma decode_generated (draw : Vector UInt8 20) :
    Base32.decodeString (toUpper (generateTOTPSecret draw)) = some draw.toList := by
  have hlt := Base32.split_lt draw.toList
  have hletters : (Base32.encodeToString draw.toList).mapM letter =
      some (Base32.split (draw.toList.map UInt8.toNat)) := by
    rw [Base32.encodeToString]
    generalize Base32.split (draw.toList.map UInt8.toNat) = vs at hlt
    induction vs with
    | nil => rfl
    | cons v vs ih =>
      rw [List.forall_mem_cons] at hlt
      rw [List.map_cons, List.mapM_cons, letter_symbol hlt.1, ih hlt.2]
      rfl
  obtain ⟨hvalue, -, hascii⟩ := value_upper hletters
  rw [generateTOTPSecret, toUpper_ascii fun c hc => (hascii c hc).1, Base32.decodeString,
    filter_upper fun c hc => (hascii c hc).2, hvalue, Option.map_some, Base32.join_split]

end Decoding

section Truncation

lemma range_div_succ (b w n : ℕ) : (List.range (w + 1)).map (fun i => n / b ^ (w - i)) =
    (List.range w).map (fun i => n / b / b ^ (w - 1 - i)) ++ [n] := by
  rw [List.range_succ, List.map_append, List.map_singleton, Nat.sub_self, pow_zero, Nat.div_one]
  congr 1
  apply List.map_congr_left
  intro i hi
  have hlt := List.mem_range.mp hi
  have hexp : w - i = w - 1 - i + 1 := by omega
  rw [Nat.div_div_eq_div_mul, hexp, pow_succ']

lemma put_eq_map (w n : ℕ) :
    BigEndian.put w n = ((List.range w).map fun i => n / 256 ^ (w - 1 - i)).map UInt8.ofNat := by
  induction w generalizing n with
  | zero => rfl
  | succ w ih =>
    rw [Nat.add_sub_cancel, range_div_succ, List.map_append, ← ih]
    rfl

lemma counter_eq (t : ℕ) : counter t = BigEndian.put 8 (t / 30) := by
  rw [put_eq_map, List.map_map]
  rfl

lemma offset_toNat (b : UInt8) : (b &&& 0xf).toNat = b.toNat % 16 := by
  rw [UInt8.toNat_and]
  exact Nat.and_two_pow_sub_one_eq_mod b.toNat 4

lemma slice_word (sum : Vector UInt8 20) :
    slice sum.toList (sum.back &&& 0xf) ((sum.back &&& 0xf) + 4) =
      some ((sum.toList.drop (sum.back.toNat % 16)).take 4) := by
  have hlow := offset_toNat sum.back
  have hhigh : ((sum.back &&& 0xf) + 4).toNat = sum.back.toNat % 16 + 4 := by
    rw [UInt8.toNat_add, hlow]
    have hfour : (4 : UInt8).toNat = 4 := rfl
    omega
  have hle : sum.back &&& 0xf ≤ (sum.back &&& 0xf) + 4 := by
    rw [UInt8.le_iff_toNat_le, hlow, hhigh]
    omega
  have hbound : sum.back.toNat % 16 + 4 ≤ sum.toList.length := by
    rw [Vector.length_toList]
    omega
  have hwidth : sum.back.toNat % 16 + 4 - sum.back.toNat % 16 = 4 := by omega
  rw [slice, hlow, hhigh, if_pos ⟨hle, hbound⟩, hwidth]

lemma take_four {bs : Bytes} {i : ℕ} (h : i + 4 ≤ bs.length) :
    (bs.drop i).take 4 = [bs[i], bs[i + 1], bs[i + 2], bs[i + 3]] := by
  apply List.ext_getElem
  · simp
    omega
  · intro j hj hj'
    have hj4 : j < 4 := by simpa using hj'
    rw [List.getElem_take, List.getElem_drop]
    interval_cases j <;> rfl

lemma word_eq (sum : Vector UInt8 20) :
    BigEndian.get ((sum.toList.drop (sum.back.toNat % 16)).take 4) % 2 ^ 31 =
      dynamicTruncation sum := by
  have hlen : sum.back.toNat % 16 + 4 ≤ sum.toList.length := by
    rw [Vector.length_toList]
    omega
  have hlast : sum.back = sum[19] := rfl
  rw [take_four hlen]
  simp only [BigEndian.get, List.foldl_cons, List.foldl_nil, dynamicTruncation, Fin.val_ofNat,
    Vector.getElem_toList, hlast]
  have h₁ := (sum[sum[19].toNat % 16 + 1]).toNat_lt
  have h₂ := (sum[sum[19].toNat % 16 + 2]).toNat_lt
  have h₃ := (sum[sum[19].toNat % 16 + 3]).toNat_lt
  omega

end Truncation

section Decimals

lemma natNumeral_of_lt {n : ℕ} (h : n < 10) : natNumeral n = [digit n] := by
  interval_cases n <;> rfl

lemma natNumeral_concat {n : ℕ} (h : 10 ≤ n) :
    natNumeral n = natNumeral (n / 10) ++ [digit (n % 10)] := by
  have hne : n ≠ 0 := by omega
  have hdiv : n / 10 ≠ 0 := by omega
  rw [natNumeral, natNumeral, if_neg hne, if_neg hdiv, Nat.digits_def' (by decide) (by omega),
    List.reverse_cons, List.map_append, List.map_singleton]

lemma pad_natNumeral {w n : ℕ} (h : n < 10 ^ (w + 1)) :
    List.replicate (w + 1 - (natNumeral n).length) 48 ++ natNumeral n =
      ((List.range (w + 1)).map fun i => n / 10 ^ (w - i)).map fun d => digit (d % 10) := by
  induction w generalizing n with
  | zero =>
    have hn : n < 10 := by simpa using h
    rw [natNumeral_of_lt hn, range_div_succ]
    simp [Nat.mod_eq_of_lt hn]
  | succ w ih =>
    rw [range_div_succ, List.map_append, List.map_singleton]
    have hdiv : n / 10 < 10 ^ (w + 1) := by
      rw [pow_succ] at h
      omega
    have hrest := ih hdiv
    rw [Nat.add_sub_cancel, ← hrest]
    by_cases hn : n < 10
    · have hzero : n / 10 = 0 := Nat.div_eq_of_lt hn
      rw [hzero, natNumeral_of_lt hn, natNumeral_of_lt (by decide : 0 < 10), Nat.mod_eq_of_lt hn]
      simp only [List.length_singleton, Nat.add_sub_cancel, List.replicate_succ']
      rfl
    · have hlen : w + 1 + 1 - ((natNumeral (n / 10)).length + 1) =
          w + 1 - (natNumeral (n / 10)).length := by omega
      rw [natNumeral_concat (not_lt.mp hn), List.length_append, List.length_singleton, hlen,
        List.append_assoc]

lemma sixDigits_eq {n : ℕ} : sixDigits (n % 10 ^ 6) = decimals n := by
  have hlt : n % 10 ^ 6 < 10 ^ (5 + 1) := Nat.mod_lt _ (by decide)
  rw [sixDigits, pad_natNumeral hlt, decimals, List.map_map]
  apply List.map_congr_left
  intro i hi
  have hi6 := List.mem_range.mp hi
  simp only [Function.comp_apply]
  congr 1
  interval_cases i <;> omega

lemma decimals_spec (n : ℕ) : (decimals n).length = 6 ∧ ∀ c ∈ decimals n, isDigit c = true := by
  refine ⟨by simp [decimals], ?_⟩
  intro c hc
  obtain ⟨i, -, rfl⟩ := List.mem_map.mp hc
  exact isDigit_digit (Nat.mod_lt _ (by decide))

end Decimals

section

variable {hmacSHA1 : Bytes → Bytes → Vector UInt8 20}

lemma totpCode_text (s : Secret) (t : ℕ) :
    totpCode hmacSHA1 s.text t = rfc6238 hmacSHA1 s.key t := by
  simp only [totpCode, decode_text, rfc6238, counter_eq]
  rw [word_eq, sixDigits_eq]

lemma totpCodeSliced_eq (secret : Bytes) (t : ℕ) :
    totpCodeSliced hmacSHA1 secret t = some (totpCode hmacSHA1 secret t) := by
  have hmask : ∀ n : ℕ, n &&& 0x7fffffff = n % 2 ^ 31 := fun n =>
    Nat.and_two_pow_sub_one_eq_mod n 31
  cases h : Base32.decodeString (toUpper secret) with
  | none => simp only [totpCodeSliced, totpCode, h]
  | some key =>
    simp only [totpCodeSliced, totpCode, h, slice_word, Option.map_some, hmask]
    rfl

end

theorem totp_rfc6238 (hmacSHA1 : Bytes → Bytes → Vector UInt8 20) :
    (∀ (s : Secret) (t : ℕ), totpCode hmacSHA1 s.text t = rfc6238 hmacSHA1 s.key t ∧
      (totpCode hmacSHA1 s.text t).length = 6 ∧
      ∀ c ∈ totpCode hmacSHA1 s.text t, isDigit c = true) ∧
    (∀ (secret : Bytes) (t : ℕ),
      totpCodeSliced hmacSHA1 secret t = some (totpCode hmacSHA1 secret t)) ∧
    (∀ sum : Vector UInt8 20, ∃ word,
      slice sum.toList (sum.back &&& 0xf) ((sum.back &&& 0xf) + 4) = some word ∧ word.length = 4) ∧
    ∀ draw : Vector UInt8 20,
      Base32.decodeString (toUpper (generateTOTPSecret draw)) = some draw.toList := by
  refine ⟨?_, totpCodeSliced_eq, ?_, decode_generated⟩
  · intro s t
    rw [totpCode_text]
    exact ⟨rfl, decimals_spec _⟩
  · intro sum
    refine ⟨_, slice_word sum, ?_⟩
    rw [List.length_take, List.length_drop, Vector.length_toList]
    omega

end OmniTun.Auth.OneTimePasswords
