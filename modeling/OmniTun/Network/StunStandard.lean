import OmniTun.Network.StunGrammar

/-! What RFC 5389 lets a server answer, and for which answers the client reads what they encode. -/

namespace OmniTun.Network.Stun

open OmniTun.Foundation OmniTun.Foundation.NetAddress

inductive Attributes : Bytes → List (ℕ × Bytes) → Prop
  | nil : Attributes [] []
  | cons {ty : ℕ} {value pad rest : Bytes} {l : List (ℕ × Bytes)} (hty : ty < 2 ^ 16)
    (hlen : value.length < 2 ^ 16) (hpad : pad.length < 4) (halign : 4 ∣ value.length + pad.length)
    (h : Attributes rest l) : Attributes (attr ty value ++ pad ++ rest) ((ty, value) :: l)

def standardMask (txID : Bytes) (ty : ℕ) : Bytes :=
  if ty = stunAttrXorMappedAddress then magicBytes ++ txID else List.replicate 16 0

def AddressValue (key value ip : Bytes) (port : ℕ) : Prop :=
  ∃ reserved family : UInt8,
    value = reserved :: family ::
      (BigEndian.put 2 (port ^^^ BigEndian.get (key.take 2)) ++ xorBytes ip key) ∧
    port < 2 ^ 16 ∧ (family = 0x01 ∧ ip.length = 4 ∨ family = 0x02 ∧ ip.length = 16)

/-- A success response to the request `txID`. For older clients it may carry the address unmasked
besides, and it may carry any other attribute. -/
def Conforms (txID resp ip : Bytes) (port : ℕ) : Prop :=
  ∃ (attrs : Bytes) (l : List (ℕ × Bytes)), Attributes attrs l ∧ attrs.length < 2 ^ 16 ∧
    resp = BigEndian.put 2 stunBindingSuccess ++ BigEndian.put 2 attrs.length ++ magicBytes ++
      txID ++ attrs ∧
    (∃ value, (stunAttrXorMappedAddress, value) ∈ l) ∧
    ∀ ty value, (ty, value) ∈ l → IsAddressType ty →
      AddressValue (standardMask txID ty) value ip port

def transactionID (msg : Bytes) : Bytes := (msg.drop 8).take 12

def Exchange.Receives (e : Exchange) (resp : Bytes) : Prop :=
  e.dialErr = none ∧ e.writeErr = none ∧ e.deadlineErr = none ∧ e.read = .ok resp

def ReadsAsStandard (serverAddr : Bytes) (e : Exchange) (resp : Bytes) : Prop :=
  (∀ ip port, Conforms (transactionID e.request) resp ip port →
    getMappedAddress serverAddr e = some (.ok (hostPort ip port))) ∧
  ∀ addr, getMappedAddress serverAddr e = some (.ok addr) →
    transactionID resp = transactionID e.request

def FollowsStandard (serverAddr : Bytes) (e : Exchange) : Prop :=
  ∀ resp, e.Receives resp → ReadsAsStandard serverAddr e resp

def MappedFirst (resp : Bytes) : Prop :=
  ∃ attrs value, BindingSuccess resp attrs ∧ FirstAddress attrs stunAttrMappedAddress value

/-- The response fits the buffer, and the masked IPv6 address is not read or masked with no more
than the cookie. A response to another request carries no address. -/
def Readable (txID resp : Bytes) : Prop :=
  (∀ ip port, Conforms txID resp ip port →
    resp.length ≤ 2048 ∧ (ip.length = 4 ∨ txID = List.replicate 12 0 ∨ MappedFirst resp)) ∧
  ((∃ ip port, Reports (resp.take 2048) ip port) → transactionID resp = txID)

/-! The first address attribute. -/

lemma Attributes.first {s : Bytes} {l : List (ℕ × Bytes)} (h : Attributes s l)
    (haddress : ∃ a ∈ l, IsAddressType a.1) : ∃ a ∈ l, FirstAddress s a.1 a.2 := by
  induction h with
  | nil => simp at haddress
  | @cons ty value pad rest l hty hlen hpad halign _ ih =>
    by_cases hfirst : IsAddressType ty
    · have hfound : FirstAddress (attr ty value ++ (pad ++ rest)) ty value :=
        .found hfirst hlen
      rw [← List.append_assoc] at hfound
      exact ⟨(ty, value), List.mem_cons_self, hfound⟩
    · obtain ⟨a, ha, htype⟩ := haddress
      rcases List.mem_cons.mp ha with rfl | ha
      · exact absurd htype hfirst
      · obtain ⟨b, hb, hrest⟩ := ih ⟨a, ha, htype⟩
        exact ⟨b, List.mem_cons_of_mem _ hb, .next hty hfirst hlen hpad halign hrest⟩

lemma FirstAddress.isAddressType {s value : Bytes} {ty : ℕ} (h : FirstAddress s ty value) :
    IsAddressType ty := by
  induction h with
  | found hty hlen => exact hty
  | next _ _ _ _ _ _ ih => exact ih

lemma FirstAddress.unique {s value value' : Bytes} {ty ty' : ℕ} (h : FirstAddress s ty value)
    (h' : FirstAddress s ty' value') : ty = ty' ∧ value = value' := by
  induction h with
  | @found ty value rest hty hlen =>
    obtain ⟨-, -, ⟨-, rfl, rfl⟩ | ⟨hother, -⟩⟩ := firstAddress_iff.mp h'
    · rw [attrType_attr _ _ hty.lt, attrLen_attr _ _ hlen, drop_attr, List.take_left]
      exact ⟨rfl, rfl⟩
    · rw [attrType_attr _ _ hty.lt] at hother
      exact absurd hty hother
  | @next ty _ value _ pad rest hlt hty hlen hpad halign _ ih =>
    have hdrop : (attr ty value ++ (pad ++ rest)).drop (4 + padded value.length) = rest := by
      rw [← List.append_assoc]
      apply List.drop_left'
      rw [List.length_append, attr_length, padded_spec hpad halign]
      omega
    rw [List.append_assoc] at h'
    obtain ⟨-, -, ⟨hfirst, -, -⟩ | ⟨-, hrest⟩⟩ := firstAddress_iff.mp h'
    · rw [attrType_attr _ _ hlt] at hfirst
      exact absurd hfirst hty
    · rw [attrLen_attr _ _ hlen, hdrop] at hrest
      exact ih hrest

lemma BindingSuccess.unique {resp attrs attrs' : Bytes} (h : BindingSuccess resp attrs)
    (h' : BindingSuccess resp attrs') : attrs = attrs' := by
  obtain ⟨-, -, -, -, rfl⟩ := bindingSuccess_iff.mp h
  obtain ⟨-, -, -, -, rfl⟩ := bindingSuccess_iff.mp h'
  rfl

/-! Masks. -/

lemma xorBytes_remask_iff {bs key key' : Bytes} (h : bs.length ≤ key.length)
    (h' : bs.length ≤ key'.length) :
    xorBytes (xorBytes bs key) key' = bs ↔ key.take bs.length = key'.take bs.length := by
  induction bs generalizing key key' with
  | nil => simp [xorBytes]
  | cons b bs ih =>
    obtain ⟨k, key, rfl⟩ := List.exists_cons_of_ne_nil (List.ne_nil_of_length_pos
      (Nat.lt_of_lt_of_le (Nat.succ_pos _) h))
    obtain ⟨k', key', rfl⟩ := List.exists_cons_of_ne_nil (List.ne_nil_of_length_pos
      (Nat.lt_of_lt_of_le (Nat.succ_pos _) h'))
    have hrest := ih (Nat.le_of_succ_le_succ h) (Nat.le_of_succ_le_succ h')
    have hhead : b ^^^ k ^^^ k' = b ↔ k = k' := by
      have hzero : b ^^^ (k ^^^ k') = b ^^^ 0 ↔ k ^^^ k' = 0 := UInt8.xor_right_inj b
      rw [UInt8.xor_zero] at hzero
      rw [UInt8.xor_assoc, hzero, UInt8.xor_eq_zero_iff]
    rw [List.length_cons, List.take_succ_cons, List.take_succ_cons, List.cons.injEq, ← hrest,
      ← hhead]
    exact List.cons_eq_cons

lemma standardMask_length {txID : Bytes} (ty : ℕ) (htx : txID.length = 12) :
    (standardMask txID ty).length = 16 := by
  rw [standardMask]
  split_ifs
  · rw [List.length_append, htx]
    rfl
  · exact List.length_replicate

lemma mask_take_four (txID : Bytes) (ty : ℕ) :
    (standardMask txID ty).take 4 = (mask ty).take 4 := by
  rw [standardMask, mask]
  split_ifs
  · have hcookie : magicBytes.length = 4 := rfl
    rw [List.take_left' hcookie, List.take_left' hcookie]
  · rfl

lemma mask_take_two (txID : Bytes) (ty : ℕ) : (standardMask txID ty).take 2 = (mask ty).take 2 := by
  have h := congrArg (List.take 2) (mask_take_four txID ty)
  rwa [List.take_take, List.take_take] at h

def readAs (txID : Bytes) (ty : ℕ) (ip : Bytes) : Bytes :=
  xorBytes (xorBytes ip (standardMask txID ty)) (mask ty)

variable {txID resp ip : Bytes} {port : ℕ}

lemma readAs_length (ty : ℕ) (htx : txID.length = 12) (hip : ip.length ≤ 16) :
    (readAs txID ty ip).length = ip.length := by
  have hlen := standardMask_length ty htx
  have hmask := mask_length ty
  have hmasked : (xorBytes ip (standardMask txID ty)).length = ip.length :=
    xorBytes_length (by omega)
  rw [readAs, xorBytes_length (by omega), hmasked]

lemma AddressValue.encodes {ty : ℕ} {value : Bytes} (htx : txID.length = 12)
    (h : AddressValue (standardMask txID ty) value ip port) :
    Encodes ty value (readAs txID ty ip) port := by
  obtain ⟨reserved, family, rfl, hport, hfamily⟩ := h
  have hip : ip.length ≤ 16 := by omega
  have hlen := standardMask_length ty htx
  have hmask := mask_length ty
  have hmasked : (xorBytes ip (standardMask txID ty)).length = ip.length :=
    xorBytes_length (by omega)
  refine ⟨reserved, family, [], ?_, hport, by rwa [readAs_length ty htx hip]⟩
  rw [readAs, xorBytes_self (by omega), mask_take_two, List.append_nil]

lemma readAs_iff {ty : ℕ} (htx : txID.length = 12) (hip : ip.length = 4 ∨ ip.length = 16)
    (hty : IsAddressType ty) :
    readAs txID ty ip = ip ↔
      ip.length = 4 ∨ txID = List.replicate 12 0 ∨ ty = stunAttrMappedAddress := by
  have hlen := standardMask_length ty htx
  have hmask := mask_length ty
  have hle : ip.length ≤ (standardMask txID ty).length := by omega
  have hle' : ip.length ≤ (mask ty).length := by omega
  rw [readAs, xorBytes_remask_iff hle hle']
  rcases hip with hip | hip
  · rw [hip]
    exact iff_of_true (mask_take_four txID ty) (.inl rfl)
  · rw [hip, List.take_of_length_le hlen.le, List.take_of_length_le hmask.le]
    rcases hty with rfl | rfl
    · have hother : ¬ stunAttrXorMappedAddress = stunAttrMappedAddress := by decide
      rw [standardMask, mask, if_pos rfl, if_pos rfl, List.append_cancel_left_eq]
      simp [hother]
    · exact iff_of_true rfl (.inr (.inr rfl))

lemma hostPort_readAs_iff {ty : ℕ} (htx : txID.length = 12)
    (hip : ip.length = 4 ∨ ip.length = 16) :
    hostPort (readAs txID ty ip) port = hostPort ip port ↔ readAs txID ty ip = ip := by
  refine ⟨fun h => ?_, fun h => by rw [h]⟩
  have hread := readAs_length ty htx (show ip.length ≤ 16 by omega)
  have haddress : IsAddress (readAs txID ty ip) := by rwa [IsAddress, hread]
  have h16 := (hostPort_inj haddress hip h).1
  rw [to16, to16, hread] at h16
  split_ifs at h16
  · exact List.append_cancel_left (Option.some.inj h16)
  · exact Option.some.inj h16
  · omega

/-! One exchange. -/

lemma getMappedAddress_eq {e : Exchange} (serverAddr : Bytes) (h : e.Receives resp) :
    getMappedAddress serverAddr e =
      (parseXorMappedAddress (resp.take 2048)).map (·.mapError StunError.error) := by
  obtain ⟨hdial, hwrite, hdeadline, hread⟩ := h
  rw [getMappedAddress, hdial, hwrite, hdeadline, hread]

lemma getMappedAddress_iff {e : Exchange} {serverAddr addr : Bytes} (h : e.Receives resp) :
    getMappedAddress serverAddr e = some (.ok addr) ↔
      ∃ ip port, Reports (resp.take 2048) ip port ∧ addr = hostPort ip port := by
  obtain ⟨res, hres, hiff⟩ := parseXorMappedAddress_iff (resp.take 2048)
  rw [getMappedAddress_eq serverAddr h, hres, ← hiff addr]
  cases res with
  | error err => simp [Except.mapError]
  | ok addr' => simp [Except.mapError]

lemma getMappedAddress_reports {e : Exchange} (serverAddr : Bytes) (h : e.Receives resp)
    (hreports : Reports (resp.take 2048) ip port) :
    getMappedAddress serverAddr e = some (.ok (hostPort ip port)) :=
  (getMappedAddress_iff h).mpr ⟨ip, port, hreports, rfl⟩

lemma Conforms.bindingSuccess (htx : txID.length = 12) (h : Conforms txID resp ip port) :
    ∃ attrs ty value, BindingSuccess resp attrs ∧ resp.length = 20 + attrs.length ∧
      FirstAddress attrs ty value ∧ AddressValue (standardMask txID ty) value ip port := by
  obtain ⟨attrs, l, hattrs, hlen, rfl, ⟨value, hmem⟩, hall⟩ := h
  obtain ⟨⟨ty, value'⟩, hmem', hfirst⟩ := hattrs.first ⟨_, hmem, .inl rfl⟩
  refine ⟨attrs, ty, value', ⟨txID, [], htx, hlen, (List.append_nil _).symm⟩, ?_, hfirst,
    hall ty value' hmem' hfirst.isAddressType⟩
  have hcookie : magicBytes.length = 4 := rfl
  simp only [List.length_append, BigEndian.put_length, hcookie, htx]

lemma Conforms.length_le {ip' : Bytes} {port' : ℕ} (htx : txID.length = 12)
    (h : Conforms txID resp ip port) (hreports : Reports (resp.take 2048) ip' port') :
    resp.length ≤ 2048 := by
  obtain ⟨attrs, -, -, hsuccess, hlen, -, -⟩ := h.bindingSuccess htx
  obtain ⟨attrs', -, -, hsuccess', -, -⟩ := hreports
  obtain ⟨h20, -, -, hfit, hattrs⟩ := bindingSuccess_iff.mp hsuccess
  obtain ⟨-, -, -, hfit', -⟩ := bindingSuccess_iff.mp hsuccess'
  have hlength : ((resp.take 2048).drop 2).take 2 = (resp.drop 2).take 2 := by
    rw [List.drop_take, List.take_take]
    rfl
  have hattrsLen := congrArg List.length hattrs
  rw [hlength, List.length_take] at hfit'
  rw [List.length_take, List.length_drop] at hattrsLen
  omega

lemma Conforms.read_iff {e : Exchange} {serverAddr : Bytes} (htx : txID.length = 12)
    (hreceives : e.Receives resp) (h : Conforms txID resp ip port) :
    getMappedAddress serverAddr e = some (.ok (hostPort ip port)) ↔
      resp.length ≤ 2048 ∧ (ip.length = 4 ∨ txID = List.replicate 12 0 ∨ MappedFirst resp) := by
  obtain ⟨attrs, ty, value, hsuccess, -, hfirst, hvalue⟩ := h.bindingSuccess htx
  have hip : ip.length = 4 ∨ ip.length = 16 := by
    obtain ⟨reserved, family, -, -, hfamily⟩ := hvalue
    exact hfamily.imp And.right And.right
  have hmapped : MappedFirst resp ↔ ty = stunAttrMappedAddress := by
    constructor
    · rintro ⟨attrs', value', hsuccess', hfirst'⟩
      obtain rfl := hsuccess.unique hsuccess'
      exact (hfirst.unique hfirst').1
    · rintro rfl
      exact ⟨attrs, value, hsuccess, hfirst⟩
  by_cases hlen : resp.length ≤ 2048
  · have hreports : Reports (resp.take 2048) (readAs txID ty ip) port := by
      rw [List.take_of_length_le hlen]
      exact ⟨attrs, ty, value, hsuccess, hfirst, hvalue.encodes htx⟩
    rw [getMappedAddress_reports serverAddr hreceives hreports, hmapped,
      and_iff_right hlen, ← readAs_iff htx hip hfirst.isAddressType, Option.some.injEq,
      Except.ok.injEq]
    exact hostPort_readAs_iff htx hip
  · refine iff_of_false (fun hok => ?_) (fun hall => hlen hall.1)
    obtain ⟨ip', port', hreports, -⟩ := (getMappedAddress_iff hreceives).mp hok
    exact hlen (h.length_le htx hreports)

lemma transactionID_request (e : Exchange) :
    transactionID e.request = newTxID e.random e.now ∧ (transactionID e.request).length = 12 := by
  have hlen : (newTxID e.random e.now).length = 12 := by
    cases hrandom : e.random with
    | none => simp [newTxID]
    | some bytes => exact List.length_ofFn
  have htx : transactionID e.request = newTxID e.random e.now := by
    rw [transactionID, Exchange.request, buildBindingRequest, List.drop_left' (by simp),
      List.take_of_length_le hlen.le]
  exact ⟨htx, htx ▸ hlen⟩

lemma readsAsStandard_iff {e : Exchange} {serverAddr : Bytes} (hreceives : e.Receives resp) :
    ReadsAsStandard serverAddr e resp ↔ Readable (transactionID e.request) resp := by
  obtain ⟨-, htx⟩ := transactionID_request e
  apply and_congr
  · apply forall₃_congr
    intro ip port h
    exact h.read_iff htx hreceives
  · constructor
    · rintro hforeign ⟨ip, port, hreports⟩
      exact hforeign _ (getMappedAddress_reports serverAddr hreceives hreports)
    · intro hforeign addr hok
      obtain ⟨ip, port, hreports, -⟩ := (getMappedAddress_iff hreceives).mp hok
      exact hforeign ⟨ip, port, hreports⟩

theorem follows_standard_iff (serverAddr : Bytes) (e : Exchange) :
    FollowsStandard serverAddr e ↔
      ∀ resp, e.Receives resp → Readable (transactionID e.request) resp := by
  apply forall₂_congr
  intro resp hreceives
  exact readsAsStandard_iff hreceives

/-! The shortest conforming response, with the one attribute that it needs. -/

def standardValue (txID : Bytes) (family : UInt8) (ip : Bytes) (port : ℕ) : Bytes :=
  0 :: family ::
    (BigEndian.put 2 (port ^^^ BigEndian.get ((magicBytes ++ txID).take 2)) ++
      xorBytes ip (magicBytes ++ txID))

def standardResponse (txID : Bytes) (family : UInt8) (ip : Bytes) (port : ℕ) : Bytes :=
  BigEndian.put 2 stunBindingSuccess ++
    BigEndian.put 2 (attr stunAttrXorMappedAddress (standardValue txID family ip port)).length ++
    magicBytes ++ txID ++ attr stunAttrXorMappedAddress (standardValue txID family ip port)

lemma standardValue_length (family : UInt8) (port : ℕ) (htx : txID.length = 12)
    (hip : ip.length ≤ 16) : (standardValue txID family ip port).length = 4 + ip.length := by
  have hkey : (magicBytes ++ txID).length = 16 := standardMask_length stunAttrXorMappedAddress htx
  have hmasked : (xorBytes ip (magicBytes ++ txID)).length = ip.length :=
    xorBytes_length (by omega)
  simp only [standardValue, List.length_cons, List.length_append, BigEndian.put_length, hmasked]
  omega

lemma standardResponse_conforms {family : UInt8} (htx : txID.length = 12) (hport : port < 2 ^ 16)
    (hfamily : family = 0x01 ∧ ip.length = 4 ∨ family = 0x02 ∧ ip.length = 16) :
    Conforms txID (standardResponse txID family ip port) ip port := by
  have hip : ip.length ≤ 16 := by omega
  have hvalue := standardValue_length family port htx hip
  have hattrs : Attributes
      (attr stunAttrXorMappedAddress (standardValue txID family ip port) ++ [] ++ [])
      [(stunAttrXorMappedAddress, standardValue txID family ip port)] := by
    refine .cons (by decide) (by omega) (by simp) ?_ .nil
    rw [hvalue, List.length_nil]
    omega
  rw [List.append_nil, List.append_nil] at hattrs
  refine ⟨_, _, hattrs, ?_, rfl, ⟨_, List.mem_cons_self⟩, ?_⟩
  · rw [attr_length, hvalue]
    omega
  · intro ty value hmem _
    obtain ⟨rfl, rfl⟩ := Prod.mk.inj (List.mem_singleton.mp hmem)
    exact ⟨0, family, rfl, hport, hfamily⟩

lemma standardResponse_not_mappedFirst {family : UInt8} (htx : txID.length = 12)
    (hip : ip.length ≤ 16) : ¬ MappedFirst (standardResponse txID family ip port) := by
  rintro ⟨attrs, value, hsuccess, hfirst⟩
  have hvalue := standardValue_length family port htx hip
  have hlen : (attr stunAttrXorMappedAddress (standardValue txID family ip port)).length <
      2 ^ 16 := by
    rw [attr_length, hvalue]
    omega
  have hsuccess' : BindingSuccess (standardResponse txID family ip port)
      (attr stunAttrXorMappedAddress (standardValue txID family ip port)) :=
    ⟨txID, [], htx, hlen, (List.append_nil _).symm⟩
  have hfirst' : FirstAddress
      (attr stunAttrXorMappedAddress (standardValue txID family ip port) ++ [])
      stunAttrXorMappedAddress (standardValue txID family ip port) :=
    .found (.inl rfl) (by omega)
  obtain rfl := hsuccess.unique hsuccess'
  rw [List.append_nil] at hfirst'
  have hty := (hfirst.unique hfirst').1
  exact absurd hty (by decide)

lemma ipv6_misread {e : Exchange} (serverAddr : Bytes) (hip : ip.length = 16)
    (hport : port < 2 ^ 16) (hid : transactionID e.request ≠ List.replicate 12 0)
    (hreceives : e.Receives (standardResponse (transactionID e.request) 0x02 ip port)) :
    ¬ FollowsStandard serverAddr e := by
  intro h
  have htx := (transactionID_request e).2
  have hconforms := standardResponse_conforms htx hport (.inr ⟨rfl, hip⟩)
  obtain ⟨-, hread⟩ := ((readsAsStandard_iff hreceives).mp (h _ hreceives)).1 ip port hconforms
  rcases hread with h4 | hzero | hmapped
  · omega
  · exact hid hzero
  · exact standardResponse_not_mappedFirst htx hip.le hmapped

lemma foreign_response_read {e : Exchange} (serverAddr : Bytes) (hip : ip.length = 4)
    (hport : port < 2 ^ 16) (htx : txID.length = 12) (hid : txID ≠ transactionID e.request)
    (hreceives : e.Receives (standardResponse txID 0x01 ip port)) :
    ¬ FollowsStandard serverAddr e := by
  intro h
  have hconforms := standardResponse_conforms htx hport (.inl ⟨rfl, hip⟩)
  have hlen : (standardResponse txID 0x01 ip port).length ≤ 2048 := by
    have hip16 : ip.length ≤ 16 := by omega
    have hvalue := standardValue_length 0x01 port htx hip16
    have hcookie : magicBytes.length = 4 := rfl
    simp only [standardResponse, List.length_append, BigEndian.put_length, attr_length, hvalue,
      hcookie]
    omega
  have hread : getMappedAddress serverAddr e = some (.ok (hostPort ip port)) :=
    (hconforms.read_iff htx hreceives).mpr ⟨hlen, .inl hip⟩
  have hsame := (h _ hreceives).2 _ hread
  apply hid
  rw [← hsame, transactionID, standardResponse, List.append_assoc, List.drop_left' (by rfl),
    List.take_left' htx]

theorem standard_not_followed :
    ¬ FollowsStandard (ascii "stun.l.google.com:19302")
      ⟨none, some fun i => i.val.toUInt8 + 1, 0, none, none,
        .ok (standardResponse [1, 2, 3, 4, 5, 6, 7, 8, 9, 10, 11, 12] 0x02
          ([0x20, 0x01, 0x0d, 0xb8] ++ List.replicate 11 0 ++ [1]) 54321)⟩ ∧
    ¬ FollowsStandard (ascii "stun.l.google.com:19302")
      ⟨none, some fun i => i.val.toUInt8 + 1, 0, none, none,
        .ok (standardResponse (List.replicate 12 7) 0x01 [203, 0, 113, 9] 12345)⟩ := by
  refine ⟨ipv6_misread _ rfl (by norm_num) (by decide) ⟨rfl, rfl, rfl, rfl⟩, ?_⟩
  exact foreign_response_read _ rfl (by norm_num) rfl (by decide) ⟨rfl, rfl, rfl, rfl⟩

end OmniTun.Network.Stun
