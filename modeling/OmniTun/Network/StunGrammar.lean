import OmniTun.Network.Stun

/-! The grammar of a binding response, and that the client reads exactly what it derives. -/

namespace OmniTun.Network.Stun

open OmniTun.Foundation OmniTun.Foundation.NetAddress

/-! The grammar, as the server writes it. -/

def attr (ty : ℕ) (value : Bytes) : Bytes :=
  BigEndian.put 2 ty ++ BigEndian.put 2 value.length ++ value

def IsAddressType (ty : ℕ) : Prop :=
  ty = stunAttrXorMappedAddress ∨ ty = stunAttrMappedAddress

instance (ty : ℕ) : Decidable (IsAddressType ty) := inferInstanceAs (Decidable (_ ∨ _))

/-- The first address attribute of a sequence of attributes, each of which but the last is filled up
to a multiple of four bytes. -/
inductive FirstAddress : Bytes → ℕ → Bytes → Prop
  | found {ty : ℕ} {value rest : Bytes} (hty : IsAddressType ty) (hlen : value.length < 2 ^ 16) :
    FirstAddress (attr ty value ++ rest) ty value
  | next {ty ty' : ℕ} {value value' pad rest : Bytes} (hlt : ty < 2 ^ 16)
    (hty : ¬ IsAddressType ty) (hlen : value.length < 2 ^ 16) (hpad : pad.length < 4)
    (halign : 4 ∣ value.length + pad.length) (h : FirstAddress rest ty' value') :
    FirstAddress (attr ty value ++ pad ++ rest) ty' value'

def mask (ty : ℕ) : Bytes :=
  if ty = stunAttrXorMappedAddress then magicBytes ++ List.replicate 12 0
  else List.replicate 16 0

def Encodes (ty : ℕ) (value ip : Bytes) (port : ℕ) : Prop :=
  ∃ (reserved family : UInt8) (rest : Bytes),
    value = reserved :: family ::
      (BigEndian.put 2 (port ^^^ BigEndian.get ((mask ty).take 2)) ++ xorBytes ip (mask ty) ++
        rest) ∧
    port < 2 ^ 16 ∧ (family = 0x01 ∧ ip.length = 4 ∨ family = 0x02 ∧ ip.length = 16)

def BindingSuccess (data attrs : Bytes) : Prop :=
  ∃ txID rest : Bytes, txID.length = 12 ∧ attrs.length < 2 ^ 16 ∧
    data = BigEndian.put 2 stunBindingSuccess ++ BigEndian.put 2 attrs.length ++ magicBytes ++
      txID ++ attrs ++ rest

def Reports (data ip : Bytes) (port : ℕ) : Prop :=
  ∃ (attrs : Bytes) (ty : ℕ) (value : Bytes),
    BindingSuccess data attrs ∧ FirstAddress attrs ty value ∧ Encodes ty value ip port

/-! Masks. -/

lemma xorBytes_self {bs key : Bytes} (h : bs.length ≤ key.length) :
    xorBytes (xorBytes bs key) key = bs := by
  induction bs generalizing key with
  | nil => rfl
  | cons b bs ih =>
    cases key with
    | nil => simp at h
    | cons k key =>
      have hrest := ih (Nat.le_of_succ_le_succ h)
      have hhead : b ^^^ k ^^^ k = b := by
        rw [UInt8.xor_assoc, UInt8.xor_self, UInt8.xor_zero]
      exact congrArg₂ List.cons hhead hrest

lemma xorBytes_length {bs key : Bytes} (h : bs.length ≤ key.length) :
    (xorBytes bs key).length = bs.length := by
  rw [xorBytes, List.length_zipWith]
  omega

lemma xorBytes_take (bs key : Bytes) {n : ℕ} (h : bs.length ≤ n) :
    xorBytes bs (key.take n) = xorBytes bs key := by
  induction bs generalizing key n with
  | nil => rfl
  | cons b bs ih =>
    obtain ⟨n, rfl⟩ : ∃ m, n = m + 1 := ⟨n - 1, by simp at h; omega⟩
    cases key with
    | nil => rfl
    | cons k key =>
      rw [List.take_succ_cons]
      exact congrArg ((b ^^^ k) :: ·) (ih key (Nat.le_of_succ_le_succ h))

lemma xorBytes_zeros {bs : Bytes} {n : ℕ} (h : bs.length ≤ n) :
    xorBytes bs (List.replicate n 0) = bs := by
  induction bs generalizing n with
  | nil => rfl
  | cons b bs ih =>
    obtain ⟨n, rfl⟩ : ∃ m, n = m + 1 := ⟨n - 1, by simp at h; omega⟩
    have hrest := ih (Nat.le_of_succ_le_succ h)
    exact congrArg₂ List.cons UInt8.xor_zero hrest

lemma mask_length (ty : ℕ) : (mask ty).length = 16 := by
  rw [mask]
  split_ifs <;> simp [magicBytes]

lemma get_mask_lt (ty : ℕ) : BigEndian.get ((mask ty).take 2) < 2 ^ 16 := by
  have h := BigEndian.get_lt ((mask ty).take 2)
  rw [List.length_take, mask_length] at h
  exact h

/-! Reading the first attribute. -/

def attrType (s : Bytes) : ℕ := BigEndian.get (s.take 2)

def attrLen (s : Bytes) : ℕ := BigEndian.get ((s.drop 2).take 2)

lemma attrType_lt {s : Bytes} (h : 4 ≤ s.length) : attrType s < 2 ^ 16 := by
  have hlt := BigEndian.get_lt (s.take 2)
  rwa [List.length_take, min_eq_left (by omega)] at hlt

lemma attrLen_lt {s : Bytes} (h : 4 ≤ s.length) : attrLen s < 2 ^ 16 := by
  have hlt := BigEndian.get_lt ((s.drop 2).take 2)
  rwa [List.length_take, List.length_drop, min_eq_left (by omega)] at hlt

lemma attr_split {s : Bytes} (h : 4 ≤ s.length) (hlen : 4 + attrLen s ≤ s.length) :
    s = attr (attrType s) ((s.drop 4).take (attrLen s)) ++ s.drop (4 + attrLen s) := by
  have htype : BigEndian.put 2 (attrType s) = s.take 2 :=
    BigEndian.put_get_of_length (by rw [List.length_take]; omega)
  have hvalue : ((s.drop 4).take (attrLen s)).length = attrLen s := by
    rw [List.length_take, List.length_drop]
    omega
  have hlength : BigEndian.put 2 (attrLen s) = (s.drop 2).take 2 :=
    BigEndian.put_get_of_length (by rw [List.length_take, List.length_drop]; omega)
  rw [attr, htype, hvalue, hlength, ← List.drop_drop, List.append_assoc, List.append_assoc,
    List.take_append_drop, show s.drop 4 = (s.drop 2).drop 2 by rw [List.drop_drop],
    List.take_append_drop, List.take_append_drop]

lemma attr_length (ty : ℕ) (value : Bytes) : (attr ty value).length = 4 + value.length := by
  simp [attr]
  omega

lemma attrType_attr {ty : ℕ} (value rest : Bytes) (h : ty < 2 ^ 16) :
    attrType (attr ty value ++ rest) = ty := by
  have htake : (attr ty value ++ rest).take 2 = BigEndian.put 2 ty := by
    simp [attr]
  rw [attrType, htake, BigEndian.get_put]
  exact Nat.mod_eq_of_lt h

lemma attrLen_attr {value : Bytes} (ty : ℕ) (rest : Bytes) (h : value.length < 2 ^ 16) :
    attrLen (attr ty value ++ rest) = value.length := by
  have htake : ((attr ty value ++ rest).drop 2).take 2 = BigEndian.put 2 value.length := by
    simp [attr]
  rw [attrLen, htake, BigEndian.get_put]
  exact Nat.mod_eq_of_lt h

lemma drop_attr (ty : ℕ) (value rest : Bytes) :
    (attr ty value ++ rest).drop 4 = value ++ rest := by
  simp [attr, List.drop_append]

lemma IsAddressType.lt {ty : ℕ} (h : IsAddressType ty) : ty < 2 ^ 16 := by
  rcases h with rfl | rfl <;> decide

lemma le_padded (n : ℕ) : n ≤ padded n := by
  rw [padded]
  split_ifs <;> omega

lemma padded_spec {n m : ℕ} (hpad : m < 4) (halign : 4 ∣ n + m) : padded n = n + m := by
  rw [padded]
  split_ifs <;> omega

lemma padded_pad (n : ℕ) : padded n - n < 4 ∧ 4 ∣ n + (padded n - n) := by
  rw [padded]
  split_ifs <;> omega

lemma firstAddress_iff {s value : Bytes} {ty : ℕ} :
    FirstAddress s ty value ↔ 4 ≤ s.length ∧ 4 + attrLen s ≤ s.length ∧
      (IsAddressType (attrType s) ∧ ty = attrType s ∧ value = (s.drop 4).take (attrLen s) ∨
        ¬ IsAddressType (attrType s) ∧
          FirstAddress (s.drop (4 + padded (attrLen s))) ty value) := by
  constructor
  · intro h
    cases h with
    | @found _ _ rest hty hlen =>
      rw [attrType_attr _ _ hty.lt, attrLen_attr _ _ hlen, drop_attr, List.take_left,
        List.length_append, attr_length]
      exact ⟨by omega, by omega, .inl ⟨hty, rfl, rfl⟩⟩
    | @next ty₀ _ value₀ _ pad rest hlt hty hlen hpad halign hrest =>
      have hdrop : (attr ty₀ value₀ ++ pad ++ rest).drop (4 + padded value₀.length) = rest := by
        apply List.drop_left'
        rw [List.length_append, attr_length, padded_spec hpad halign]
        omega
      rw [List.append_assoc] at hdrop ⊢
      rw [attrType_attr _ _ hlt, attrLen_attr _ _ hlen, hdrop, List.length_append, attr_length]
      exact ⟨by omega, by omega, .inr ⟨hty, hrest⟩⟩
  · rintro ⟨h4, hlen, h⟩
    have hsplit := attr_split h4 hlen
    have hvalue : ((s.drop 4).take (attrLen s)).length = attrLen s := by
      rw [List.length_take, List.length_drop]
      omega
    have hlt := attrLen_lt h4
    rcases h with ⟨hty, rfl, rfl⟩ | ⟨hty, h⟩
    · have hfound : FirstAddress (attr (attrType s) ((s.drop 4).take (attrLen s)) ++
          s.drop (4 + attrLen s)) (attrType s) ((s.drop 4).take (attrLen s)) :=
        .found hty (by rwa [hvalue])
      rwa [← hsplit] at hfound
    · obtain ⟨hpad, halign⟩ := padded_pad (attrLen s)
      have hne : s.drop (4 + padded (attrLen s)) ≠ [] := by
        intro hnil
        rw [hnil] at h
        cases h
      have hroom : 4 + padded (attrLen s) < s.length := by
        by_contra hge
        exact hne (List.drop_eq_nil_of_le (not_lt.mp hge))
      have hle := le_padded (attrLen s)
      have hpads : ((s.drop (4 + attrLen s)).take (padded (attrLen s) - attrLen s)).length =
          padded (attrLen s) - attrLen s := by
        rw [List.length_take, List.length_drop]
        omega
      have hrest : (s.drop (4 + attrLen s)).take (padded (attrLen s) - attrLen s) ++
          s.drop (4 + padded (attrLen s)) = s.drop (4 + attrLen s) := by
        have hsum : 4 + padded (attrLen s) = 4 + attrLen s + (padded (attrLen s) - attrLen s) := by
          omega
        rw [hsum, ← List.drop_drop (j := 4 + attrLen s), List.take_append_drop]
      have hlt' : ((s.drop 4).take (attrLen s)).length < 2 ^ 16 := by rwa [hvalue]
      have halign' : 4 ∣ ((s.drop 4).take (attrLen s)).length +
          ((s.drop (4 + attrLen s)).take (padded (attrLen s) - attrLen s)).length := by
        rwa [hvalue, hpads]
      have hnext := FirstAddress.next (attrType_lt h4) hty hlt' (by rwa [hpads]) halign' h
      rwa [List.append_assoc, hrest, ← hsplit] at hnext

/-! Reading the value. -/

lemma encodes_iff {ty port : ℕ} {value ip : Bytes} :
    Encodes ty value ip port ↔ ∃ n : ℕ, 4 + n ≤ value.length ∧
      (value[1]? = some 0x01 ∧ n = 4 ∨ value[1]? = some 0x02 ∧ n = 16) ∧
      ip = xorBytes ((value.drop 4).take n) (mask ty) ∧
      port = BigEndian.get ((value.drop 2).take 2) ^^^ BigEndian.get ((mask ty).take 2) := by
  have hmask := mask_length ty
  have hkey := get_mask_lt ty
  constructor
  · rintro ⟨reserved, family, rest, rfl, hport, hfamily⟩
    have hip : ip.length ≤ (mask ty).length := by omega
    have hlen := xorBytes_length hip
    refine ⟨ip.length, ?_, ?_, ?_, ?_⟩
    · simp [hlen]
      omega
    · simpa using hfamily
    · have hdrop : (reserved :: family ::
          (BigEndian.put 2 (port ^^^ BigEndian.get ((mask ty).take 2)) ++ xorBytes ip (mask ty) ++
            rest)).drop 4 = xorBytes ip (mask ty) ++ rest := by
        simp
      rw [hdrop, List.take_left' hlen, xorBytes_self hip]
    · have htake : ((reserved :: family ::
          (BigEndian.put 2 (port ^^^ BigEndian.get ((mask ty).take 2)) ++ xorBytes ip (mask ty) ++
            rest)).drop 2).take 2 =
          BigEndian.put 2 (port ^^^ BigEndian.get ((mask ty).take 2)) := by
        simp
      have hmod := Nat.mod_eq_of_lt (Nat.xor_lt_two_pow hport hkey)
      rw [htake, BigEndian.get_put, show 256 ^ 2 = 2 ^ 16 by norm_num, hmod, Nat.xor_assoc,
        Nat.xor_self, Nat.xor_zero]
  · rintro ⟨n, hlen, hfamily, rfl, rfl⟩
    obtain ⟨reserved, family, w, rfl⟩ : ∃ reserved family w, value = reserved :: family :: w := by
      rcases value with - | ⟨a, - | ⟨b, w⟩⟩
      · simp at hlen
      · simp at hlen
        omega
      · exact ⟨a, b, w, rfl⟩
    have hw : 2 + n ≤ w.length := by
      simp only [List.length_cons] at hlen
      omega
    have hport := BigEndian.get_lt (w.take 2)
    rw [List.length_take, min_eq_left (by omega)] at hport
    have hip : ((w.drop 2).take n).length = n := by
      rw [List.length_take, List.length_drop]
      omega
    have hn : n ≤ (mask ty).length := by
      rcases hfamily with ⟨-, rfl⟩ | ⟨-, rfl⟩ <;> omega
    refine ⟨reserved, family, w.drop (2 + n), ?_, Nat.xor_lt_two_pow hport hkey, ?_⟩
    · have hput : BigEndian.put 2 (BigEndian.get (w.take 2)) = w.take 2 :=
        BigEndian.put_get_of_length (by rw [List.length_take]; omega)
      simp only [List.drop_succ_cons, List.drop_zero]
      rw [Nat.xor_assoc, Nat.xor_self, Nat.xor_zero, hput, xorBytes_self (by omega),
        List.append_assoc, ← List.drop_drop (j := 2), List.take_append_drop,
        List.take_append_drop]
    · simp only [List.drop_succ_cons]
      rw [xorBytes_length (by omega), hip]
      simpa using hfamily

lemma xorKey_eq : magicBytes.take 4 ++ List.replicate (16 - (magicBytes.take 4).length) 0 =
    magicBytes ++ List.replicate 12 0 := rfl

def decodedPort (ty : ℕ) (value : Bytes) : ℕ :=
  BigEndian.get ((value.drop 2).take 2) ^^^ BigEndian.get ((mask ty).take 2)

lemma mapped_ip {value : Bytes} {n : ℕ} (hn : n ≤ 16) (hlen : 4 + n ≤ value.length) :
    slice value 4 (4 + n) =
      some (xorBytes ((value.drop 4).take n) (mask stunAttrMappedAddress)) := by
  have htake : ((value.drop 4).take n).length ≤ 16 := by
    rw [List.length_take]
    omega
  have hmask : mask stunAttrMappedAddress = List.replicate 16 0 := rfl
  rw [slice_eq (by omega) hlen, hmask, xorBytes_zeros htake, Nat.add_sub_cancel_left]

lemma xor_ip {value key : Bytes} {n : ℕ} (hlen : 4 + n ≤ value.length)
    (hkey : key.take n = (mask stunAttrXorMappedAddress).take n) (hn : n ≤ key.length) :
    xorFrom value key 0 n =
      some (xorBytes ((value.drop 4).take n) (mask stunAttrXorMappedAddress)) := by
  have htake : ((value.drop 4).take n).length ≤ n := List.length_take_le n _
  rw [xorFrom_eq (by omega) (by omega), List.drop_zero, hkey, xorBytes_take _ _ htake]

lemma decodeAddressAttribute_eq {value : Bytes} {ty : ℕ} {family : UInt8}
    (hty : IsAddressType ty) (hlen : 5 ≤ value.length) (hfamily : value[1]? = some family) :
    decodeAddressAttribute value ty magicBytes = some (
      if family = 0x01 ∧ 8 ≤ value.length then
        .ok (hostPort (xorBytes ((value.drop 4).take 4) (mask ty)) (decodedPort ty value))
      else if family = 0x02 ∧ 20 ≤ value.length then
        .ok (hostPort (xorBytes ((value.drop 4).take 16) (mask ty)) (decodedPort ty value))
      else .error (.unsupportedFamily family)) := by
  have hport : uint value 2 4 = some (BigEndian.get ((value.drop 2).take 2)) :=
    uint_eq (by omega) (by omega)
  rw [decodeAddressAttribute, if_neg (by omega), hfamily, hport]
  rcases hty with rfl | rfl
  · have hcookie : uint magicBytes 0 2 =
        some (BigEndian.get ((mask stunAttrXorMappedAddress).take 2)) := rfl
    simp only [Option.bind_eq_bind, Option.bind_some, if_true, hcookie, Option.map_some]
    split_ifs with h4 h6
    · have hip : xorFrom value magicBytes 0 4 =
          some (xorBytes ((value.drop 4).take 4) (mask stunAttrXorMappedAddress)) :=
        xor_ip h4.2 rfl (by decide)
      rw [hip]
      rfl
    · have hip : xorFrom value (magicBytes ++ List.replicate 12 0) 0 16 =
          some (xorBytes ((value.drop 4).take 16) (mask stunAttrXorMappedAddress)) :=
        xor_ip h6.2 rfl (by decide)
      rw [xorKey_eq, hip]
      rfl
    · rfl
  · have hne : stunAttrMappedAddress ≠ stunAttrXorMappedAddress := by decide
    have hzero : decodedPort stunAttrMappedAddress value =
        BigEndian.get ((value.drop 2).take 2) := Nat.xor_zero _
    simp only [Option.bind_eq_bind, Option.bind_some, if_neg hne, hzero]
    split_ifs with h4 h6
    · rw [mapped_ip (n := 4) (by omega) (by omega)]
      rfl
    · rw [mapped_ip (n := 16) (by omega) (by omega)]
      rfl
    · rfl

lemma decodeAddressAttribute_iff {value : Bytes} {ty : ℕ} (hty : IsAddressType ty) :
    ∃ res, decodeAddressAttribute value ty magicBytes = some res ∧
      ∀ addr, res = .ok addr ↔ ∃ ip port, Encodes ty value ip port ∧ addr = hostPort ip port := by
  by_cases hshort : value.length < 5
  · refine ⟨.error (.attributeTooShort value.length), ?_, fun addr => ⟨nofun, ?_⟩⟩
    · rw [decodeAddressAttribute, if_pos hshort]
      rfl
    · rintro ⟨ip, port, h, -⟩
      obtain ⟨n, hlen, hn, -⟩ := encodes_iff.mp h
      omega
  · have hlen : 5 ≤ value.length := by omega
    have hfamily : value[1]? = some value[1] := List.getElem?_eq_getElem (by omega)
    refine ⟨_, decodeAddressAttribute_eq hty hlen hfamily, fun addr => ?_⟩
    simp only [encodes_iff, hfamily, Option.some.injEq]
    split_ifs with h4 h6
    · constructor
      · intro h
        cases h
        exact ⟨_, _, ⟨4, h4.2, .inl ⟨h4.1, rfl⟩, rfl, rfl⟩, rfl⟩
      · rintro ⟨ip, port, ⟨n, hn, ⟨-, rfl⟩ | ⟨h2, rfl⟩, rfl, rfl⟩, rfl⟩
        · rfl
        · rw [h4.1] at h2
          exact absurd h2 (by decide)
    · constructor
      · intro h
        cases h
        exact ⟨_, _, ⟨16, h6.2, .inr ⟨h6.1, rfl⟩, rfl, rfl⟩, rfl⟩
      · rintro ⟨ip, port, ⟨n, hn, ⟨h1, rfl⟩ | ⟨-, rfl⟩, rfl, rfl⟩, rfl⟩
        · exact absurd ⟨h1, hn⟩ h4
        · rfl
    · constructor
      · intro h
        cases h
      · rintro ⟨ip, port, ⟨n, hn, ⟨h1, rfl⟩ | ⟨h2, rfl⟩, -⟩, -⟩
        · exact absurd ⟨h1, hn⟩ h4
        · exact absurd ⟨h2, hn⟩ h6

/-! The loop. -/

lemma scanAttributes_eq {attrs : Bytes} {pos : ℕ} (h : pos + 4 ≤ attrs.length) :
    scanAttributes attrs magicBytes pos =
      if (attrs.drop pos).length < 4 + attrLen (attrs.drop pos) then some (.error .noMappedAddress)
      else if IsAddressType (attrType (attrs.drop pos)) then
        decodeAddressAttribute (((attrs.drop pos).drop 4).take (attrLen (attrs.drop pos)))
          (attrType (attrs.drop pos)) magicBytes
      else scanAttributes attrs magicBytes (pos + 4 + padded (attrLen (attrs.drop pos))) := by
  have htype : uint attrs pos (pos + 2) = some (attrType (attrs.drop pos)) := by
    rw [uint_eq (by omega) (by omega), Nat.add_sub_cancel_left, attrType]
  have hlen : uint attrs (pos + 2) (pos + 4) = some (attrLen (attrs.drop pos)) := by
    rw [uint_eq (by omega) (by omega), attrLen, List.drop_drop, Nat.add_sub_add_left]
  rw [scanAttributes, dif_pos h, htype, Option.bind_some, hlen, Option.bind_some]
  generalize hn : attrLen (attrs.drop pos) = n
  have hover : attrs.length < pos + 4 + n ↔ (attrs.drop pos).length < 4 + n := by
    rw [List.length_drop]
    omega
  have haddr : attrType (attrs.drop pos) = stunAttrXorMappedAddress ∨
      attrType (attrs.drop pos) = stunAttrMappedAddress ↔
        IsAddressType (attrType (attrs.drop pos)) :=
    Iff.rfl
  simp only [hover, haddr]
  split_ifs with hfit hty
  · rfl
  · have hslice : slice attrs (pos + 4) (pos + 4 + n) =
        some (((attrs.drop pos).drop 4).take n) := by
      rw [slice_eq (by omega) (by omega), Nat.add_sub_cancel_left, List.drop_drop]
    rw [hslice, Option.bind_some]
  · rfl

lemma scanAttributes_iff (attrs : Bytes) (pos : ℕ) :
    ∃ res, scanAttributes attrs magicBytes pos = some res ∧
      ∀ addr, res = .ok addr ↔ ∃ ty value ip port, FirstAddress (attrs.drop pos) ty value ∧
        Encodes ty value ip port ∧ addr = hostPort ip port := by
  induction h : attrs.length - pos using Nat.strong_induction_on generalizing pos with
  | _ n ih =>
    have hnone : ∀ hbad : ¬ (4 ≤ (attrs.drop pos).length ∧
        4 + attrLen (attrs.drop pos) ≤ (attrs.drop pos).length), ∀ addr,
        (Except.error StunError.noMappedAddress : Except StunError Bytes) = .ok addr ↔
          ∃ ty value ip port, FirstAddress (attrs.drop pos) ty value ∧
            Encodes ty value ip port ∧ addr = hostPort ip port := by
      refine fun hbad addr => ⟨nofun, ?_⟩
      rintro ⟨ty, value, ip, port, hfirst, -⟩
      obtain ⟨h4, hfit, -⟩ := firstAddress_iff.mp hfirst
      exact absurd ⟨h4, hfit⟩ hbad
    by_cases hpos : pos + 4 ≤ attrs.length
    · have h4 : 4 ≤ (attrs.drop pos).length := by
        rw [List.length_drop]
        omega
      rw [scanAttributes_eq hpos]
      split_ifs with hfit hty
      · exact ⟨_, rfl, hnone fun hall => by omega⟩
      · obtain ⟨res, hres, hiff⟩ := decodeAddressAttribute_iff hty
        refine ⟨res, hres, fun addr => (hiff addr).trans ?_⟩
        constructor
        · rintro ⟨ip, port, henc, rfl⟩
          have hfirst := firstAddress_iff.mpr ⟨h4, by omega, .inl ⟨hty, rfl, rfl⟩⟩
          exact ⟨_, _, ip, port, hfirst, henc, rfl⟩
        · rintro ⟨ty, value, ip, port, hfirst, henc, rfl⟩
          obtain ⟨-, -, ⟨-, rfl, rfl⟩ | ⟨hother, -⟩⟩ := firstAddress_iff.mp hfirst
          · exact ⟨ip, port, henc, rfl⟩
          · exact absurd hty hother
      · have hpad := le_padded (attrLen (attrs.drop pos))
        obtain ⟨res, hres, hiff⟩ :=
          ih _ (by omega) (pos + 4 + padded (attrLen (attrs.drop pos))) rfl
        refine ⟨res, hres, fun addr => (hiff addr).trans ?_⟩
        have hfirst : ∀ ty value, FirstAddress (attrs.drop pos) ty value ↔
            FirstAddress (attrs.drop (pos + 4 + padded (attrLen (attrs.drop pos)))) ty value := by
          intro ty value
          have hrest : (attrs.drop pos).drop (4 + padded (attrLen (attrs.drop pos))) =
              attrs.drop (pos + 4 + padded (attrLen (attrs.drop pos))) := by
            rw [List.drop_drop, add_assoc]
          rw [firstAddress_iff, hrest]
          simp only [hty, not_false_iff, false_and, false_or, true_and, h4]
          exact and_iff_right (by omega)
        simp only [hfirst]
    · rw [scanAttributes, dif_neg hpos]
      refine ⟨_, rfl, hnone fun hall => ?_⟩
      rw [List.length_drop] at hall
      omega

/-! The message. -/

lemma bindingSuccess_iff {data attrs : Bytes} :
    BindingSuccess data attrs ↔ 20 ≤ data.length ∧
      BigEndian.get (data.take 2) = stunBindingSuccess ∧
      (data.drop 4).take 4 = magicBytes ∧
      20 + BigEndian.get ((data.drop 2).take 2) ≤ data.length ∧
      attrs = (data.drop 20).take (BigEndian.get ((data.drop 2).take 2)) := by
  constructor
  · rintro ⟨txID, rest, htx, hlen, rfl⟩
    have hlength : BigEndian.get (BigEndian.put 2 attrs.length) = attrs.length := by
      rw [BigEndian.get_put]
      exact Nat.mod_eq_of_lt hlen
    have htype : BigEndian.get (BigEndian.put 2 stunBindingSuccess) = stunBindingSuccess := rfl
    have hcookie : magicBytes.length = 4 := rfl
    have hdrop : ∀ w n : ℕ, ∀ m, w ≤ n → (BigEndian.put w m).drop n = [] := by
      intro w n m hle
      apply List.drop_eq_nil_of_le
      rwa [BigEndian.put_length]
    have hcookie' : magicBytes.drop 16 = [] := rfl
    simp [List.drop_append, hlength, htype, hcookie, htx, hdrop, hcookie']
    omega
  · rintro ⟨hlen, htype, hcookie, hfit, rfl⟩
    have hlength : BigEndian.get ((data.drop 2).take 2) < 2 ^ 16 := by
      have hlt := BigEndian.get_lt ((data.drop 2).take 2)
      rwa [List.length_take, List.length_drop, min_eq_left (by omega)] at hlt
    have hattrs : ((data.drop 20).take (BigEndian.get ((data.drop 2).take 2))).length =
        BigEndian.get ((data.drop 2).take 2) := by
      rw [List.length_take, List.length_drop]
      omega
    have hput : ∀ s : Bytes, 2 ≤ s.length →
        BigEndian.put 2 (BigEndian.get (s.take 2)) = s.take 2 := by
      intro s hs
      apply BigEndian.put_get_of_length
      rw [List.length_take]
      omega
    refine ⟨(data.drop 8).take 12, (data.drop 20).drop (BigEndian.get ((data.drop 2).take 2)), ?_,
      by rwa [hattrs], ?_⟩
    · rw [List.length_take, List.length_drop]
      omega
    · have h2 : (data.drop 2).drop 2 = data.drop 4 := by rw [List.drop_drop]
      have h4 : (data.drop 4).drop 4 = data.drop 8 := by rw [List.drop_drop]
      have h8 : (data.drop 8).drop 12 = data.drop 20 := by rw [List.drop_drop]
      rw [hattrs, ← htype, ← hcookie, hput data (by omega),
        hput (data.drop 2) (by rw [List.length_drop]; omega), List.append_assoc,
        List.take_append_drop, List.append_assoc, ← h8, List.take_append_drop, ← h4,
        List.append_assoc, List.take_append_drop, ← h2, List.append_assoc, List.take_append_drop,
        List.take_append_drop]

lemma getMappedFromResponse_eq {data attrs : Bytes} (h : BindingSuccess data attrs) :
    getMappedFromResponse data = scanAttributes attrs magicBytes 0 := by
  obtain ⟨hlen, -, hcookie, hfit, rfl⟩ := bindingSuccess_iff.mp h
  have hlength : uint data 2 4 = some (BigEndian.get ((data.drop 2).take 2)) :=
    uint_eq (by omega) (by omega)
  have hattrs := slice_eq (Nat.le_add_right 20 _) hfit
  have hmagic : slice data 4 8 = some magicBytes := by
    rw [slice_eq (by omega) (by omega), ← hcookie]
  rw [Nat.add_sub_cancel_left] at hattrs
  simp only [getMappedFromResponse, hlength, Option.bind_eq_bind, Option.bind_some,
    if_neg (not_lt.mpr hfit), hattrs, hmagic]

lemma parseXorMappedAddress_eq {data : Bytes} (h : 20 ≤ data.length) :
    parseXorMappedAddress data =
      if BigEndian.get (data.take 2) ≠ stunBindingSuccess then
        some (.error (.unexpectedMessageType (BigEndian.get (data.take 2))))
      else if BigEndian.get ((data.drop 4).take 4) ≠ stunMagicCookie then
        some (.error (.invalidMagicCookie (BigEndian.get ((data.drop 4).take 4))))
      else if data.length < 20 + BigEndian.get ((data.drop 2).take 2) then
        some (.error (.truncatedMessage data.length
          (20 + BigEndian.get ((data.drop 2).take 2))))
      else getMappedFromResponse data := by
  have htype : uint data 0 2 = some (BigEndian.get (data.take 2)) :=
    uint_eq (by omega) (by omega)
  have hlength : uint data 2 4 = some (BigEndian.get ((data.drop 2).take 2)) :=
    uint_eq (by omega) (by omega)
  have hmagic : uint data 4 8 = some (BigEndian.get ((data.drop 4).take 4)) :=
    uint_eq (by omega) (by omega)
  rw [parseXorMappedAddress, if_neg (by omega), htype, hlength, hmagic]
  rfl

lemma parseXorMappedAddress_iff (data : Bytes) :
    ∃ res, parseXorMappedAddress data = some res ∧
      ∀ addr, res = .ok addr ↔ ∃ ip port, Reports data ip port ∧ addr = hostPort ip port := by
  have herror : ∀ e : StunError, (¬ ∃ attrs, BindingSuccess data attrs) → ∀ addr,
      (Except.error e : Except StunError Bytes) = .ok addr ↔
        ∃ ip port, Reports data ip port ∧ addr = hostPort ip port := by
    refine fun e hno addr => ⟨nofun, ?_⟩
    rintro ⟨ip, port, ⟨attrs, ty, value, h, -⟩, -⟩
    exact absurd ⟨attrs, h⟩ hno
  by_cases hlen : 20 ≤ data.length
  · rw [parseXorMappedAddress_eq hlen]
    split_ifs with htype hmagic hfit
    · refine ⟨_, rfl, herror _ ?_⟩
      rintro ⟨attrs, h⟩
      exact htype (bindingSuccess_iff.mp h).2.1
    · refine ⟨_, rfl, herror _ ?_⟩
      rintro ⟨attrs, h⟩
      apply hmagic
      rw [(bindingSuccess_iff.mp h).2.2.1]
      rfl
    · refine ⟨_, rfl, herror _ ?_⟩
      rintro ⟨attrs, h⟩
      have hdata := (bindingSuccess_iff.mp h).2.2.2.1
      omega
    · have hcookie : (data.drop 4).take 4 = magicBytes := by
        have hlength : ((data.drop 4).take 4).length = 4 := by
          rw [List.length_take, List.length_drop]
          omega
        rw [← BigEndian.put_get_of_length hlength, not_not.mp hmagic]
        rfl
      have h : BindingSuccess data ((data.drop 20).take (BigEndian.get ((data.drop 2).take 2))) :=
        bindingSuccess_iff.mpr ⟨hlen, not_not.mp htype, hcookie, not_lt.mp hfit, rfl⟩
      obtain ⟨res, hres, hiff⟩ := scanAttributes_iff
        ((data.drop 20).take (BigEndian.get ((data.drop 2).take 2))) 0
      rw [getMappedFromResponse_eq h]
      refine ⟨res, hres, fun addr => (hiff addr).trans ?_⟩
      constructor
      · rintro ⟨ty, value, ip, port, hfirst, henc, rfl⟩
        exact ⟨ip, port, ⟨_, ty, value, h, hfirst, henc⟩, rfl⟩
      · rintro ⟨ip, port, ⟨attrs, ty, value, h', hfirst, henc⟩, rfl⟩
        obtain ⟨-, -, -, -, rfl⟩ := bindingSuccess_iff.mp h'
        exact ⟨ty, value, ip, port, hfirst, henc, rfl⟩
  · refine ⟨.error (.responseTooShort data.length), ?_, herror _ ?_⟩
    · rw [parseXorMappedAddress, if_pos (by omega)]
      rfl
    · rintro ⟨attrs, h⟩
      exact hlen (bindingSuccess_iff.mp h).1

lemma Reports.isAddress {data ip : Bytes} {port : ℕ} (h : Reports data ip port) :
    IsAddress ip := by
  obtain ⟨attrs, ty, value, -, -, reserved, family, rest, -, -, hfamily⟩ := h
  exact hfamily.imp And.right And.right

/-- The client reads `data` without leaving it. It takes from it an address if and only if the
grammar does, and then the text of that address and of no other. -/
theorem response_read_exactly (data : Bytes) :
    ∃ res, parseXorMappedAddress data = some res ∧
      (∀ addr, res = .ok addr ↔ ∃ ip port, Reports data ip port ∧ addr = hostPort ip port) ∧
      ∀ ip port, Reports data ip port → ∀ ip' port', IsAddress ip' →
        hostPort ip' port' = hostPort ip port → to16 ip' = to16 ip ∧ port' = port := by
  obtain ⟨res, hres, hiff⟩ := parseXorMappedAddress_iff data
  refine ⟨res, hres, hiff, ?_⟩
  intro ip port h ip' port' haddress htext
  exact hostPort_inj haddress h.isAddress htext

end OmniTun.Network.Stun
