import OmniTun.Network.StunGrammar

/-! The client reads from the server's response the endpoint the server saw. -/

namespace OmniTun.Network.Stun

open OmniTun.Foundation OmniTun.Foundation.NetAddress

lemma xport_eq {port : ℕ} (h : port < 2 ^ 16) :
    xport port = port ^^^ BigEndian.get ((mask stunAttrXorMappedAddress).take 2) := by
  have hkey : BigEndian.get ((mask stunAttrXorMappedAddress).take 2) = stunMagicCookie / 2 ^ 16 :=
    rfl
  rw [xport, Nat.mod_eq_of_lt h, hkey]

def addressValue (family : UInt8) (ip : Bytes) (port : ℕ) : Bytes :=
  0 :: family :: (BigEndian.put 2 (xport port) ++ xorBytes ip (mask stunAttrXorMappedAddress))

lemma addressValue_encodes {family : UInt8} {ip : Bytes} {port : ℕ} (hport : port < 2 ^ 16)
    (h : family = 0x01 ∧ ip.length = 4 ∨ family = 0x02 ∧ ip.length = 16) :
    Encodes stunAttrXorMappedAddress (addressValue family ip port) ip port := by
  refine ⟨0, family, [], ?_, hport, h⟩
  rw [List.append_nil, ← xport_eq hport]
  rfl

lemma addressValue_length {family : UInt8} {ip : Bytes} {port : ℕ} (h : ip.length ≤ 16) :
    (addressValue family ip port).length = 4 + ip.length := by
  have hmask := mask_length stunAttrXorMappedAddress
  have hip : (xorBytes ip (mask stunAttrXorMappedAddress)).length = ip.length :=
    xorBytes_length (by omega)
  simp only [addressValue, List.length_cons, List.length_append, BigEndian.put_length, hip]
  omega

lemma buildXorMappedAddrAttr_v4 {addr : UDPAddr} {ip : Bytes} (h : to4 addr.ip = some ip) :
    buildXorMappedAddrAttr addr =
      some (attr stunAttrXorMappedAddress (addressValue 0x01 ip addr.port)) := by
  have hlen := to4_length h
  have hkey : magicBytes = (mask stunAttrXorMappedAddress).take 4 := rfl
  rw [buildXorMappedAddrAttr, h]
  dsimp only
  rw [hkey, xorBytes_take _ _ hlen.le, attr, addressValue_length (by omega), hlen]
  simp [addressValue]

lemma buildXorMappedAddrAttr_v6 {addr : UDPAddr} {ip : Bytes} (h4 : to4 addr.ip = none)
    (h : to16 addr.ip = some ip) (hlen : ip.length = 16) :
    buildXorMappedAddrAttr addr =
      some (attr stunAttrXorMappedAddress (addressValue 0x02 ip addr.port)) := by
  have hkey : magicBytes ++ List.replicate 12 0 = mask stunAttrXorMappedAddress := rfl
  rw [buildXorMappedAddrAttr, h4, h, Option.map_some]
  dsimp only
  rw [hkey, attr, addressValue_length (by omega), hlen]
  simp [addressValue]

lemma exists_addressValue {addr : UDPAddr} (haddr : IsAddress addr.ip) :
    ∃ family ip, buildXorMappedAddrAttr addr =
        some (attr stunAttrXorMappedAddress (addressValue family ip addr.port)) ∧
      (family = 0x01 ∧ ip.length = 4 ∨ family = 0x02 ∧ ip.length = 16) ∧
      ipString ip = ipString addr.ip := by
  cases h4 : to4 addr.ip with
  | none =>
    have hlen := length_of_to4 haddr h4
    have h16 : to16 addr.ip = some addr.ip := by
      rw [to16, if_neg (by omega), if_pos hlen]
    exact ⟨0x02, addr.ip, buildXorMappedAddrAttr_v6 h4 h16 hlen, .inr ⟨rfl, hlen⟩, rfl⟩
  | some ip =>
    have hlen := to4_length h4
    have hself : to4 ip = to4 addr.ip := by
      rw [to4, if_pos hlen, h4]
    refine ⟨0x01, ip, buildXorMappedAddrAttr_v4 h4, .inl ⟨rfl, hlen⟩, ?_⟩
    apply ipString_congr (.inl hlen) haddr hself
    simp [hself, h4]

lemma buildBindingResponse_reports {txID : Bytes} {addr : UDPAddr} (htx : txID.length = 12)
    (haddr : IsAddress addr.ip) (hport : addr.port < 2 ^ 16) :
    ∃ resp ip, buildBindingResponse txID addr = some resp ∧ Reports resp ip addr.port ∧
      ipString ip = ipString addr.ip := by
  obtain ⟨family, ip, hattr, hfamily, htext⟩ := exists_addressValue haddr
  have hvalue : (addressValue family ip addr.port).length = 4 + ip.length :=
    addressValue_length (by omega)
  have hlen :
      (attr stunAttrXorMappedAddress (addressValue family ip addr.port)).length < 2 ^ 16 := by
    rw [attr_length, hvalue]
    omega
  have htake : (txID ++ List.replicate 12 0).take 12 = txID := List.take_left' htx
  refine ⟨_, ip, by rw [buildBindingResponse, hattr, Option.map_some], ?_, htext⟩
  rw [htake]
  refine ⟨_, stunAttrXorMappedAddress, _, ⟨txID, [], htx, hlen, ?_⟩, ?_,
    addressValue_encodes hport hfamily⟩
  · rw [List.append_nil]
    rfl
  · have hfound : FirstAddress
        (attr stunAttrXorMappedAddress (addressValue family ip addr.port) ++ [])
        stunAttrXorMappedAddress (addressValue family ip addr.port) :=
      .found (.inl rfl) (by omega)
    rwa [List.append_nil] at hfound

/-- What the client reads from the server's response is the endpoint the server saw, and the text
is of no other endpoint. -/
theorem server_client_agree {txID : Bytes} {addr : UDPAddr} (htx : txID.length = 12)
    (haddr : IsAddress addr.ip) (hport : addr.port < 2 ^ 16) :
    ∃ resp, buildBindingResponse txID addr = some resp ∧
      parseXorMappedAddress resp = some (.ok (hostPort addr.ip addr.port)) ∧
      ∀ ip port, IsAddress ip → hostPort ip port = hostPort addr.ip addr.port →
        to16 ip = to16 addr.ip ∧ port = addr.port := by
  obtain ⟨resp, ip, hresp, hreports, htext⟩ := buildBindingResponse_reports htx haddr hport
  obtain ⟨res, hres, hiff⟩ := parseXorMappedAddress_iff resp
  have hok := (hiff (hostPort ip addr.port)).mpr ⟨ip, addr.port, hreports, rfl⟩
  refine ⟨resp, hresp, ?_, fun ip' port h' heq => hostPort_inj h' haddr heq⟩
  rw [hres, hok, hostPort, hostPort, htext]

theorem server_client_agree_mapped :
    ∃ resp, buildBindingResponse (List.replicate 12 7)
        ⟨v4InV6Prefix ++ [192, 168, 1, 100], 12345⟩ = some resp ∧
      parseXorMappedAddress resp =
        some (.ok (hostPort (v4InV6Prefix ++ [192, 168, 1, 100]) 12345)) ∧
      ∀ ip port, IsAddress ip →
        hostPort ip port = hostPort (v4InV6Prefix ++ [192, 168, 1, 100]) 12345 →
        to16 ip = to16 (v4InV6Prefix ++ [192, 168, 1, 100]) ∧ port = 12345 :=
  @server_client_agree (List.replicate 12 7) ⟨v4InV6Prefix ++ [192, 168, 1, 100], 12345⟩ rfl
    (.inr rfl) (by norm_num)

end OmniTun.Network.Stun
