import OmniTun.Foundation.PrefixCode
import OmniTun.Protocol.Frame
import Mathlib.Data.Set.List

/-! The frame codec is a prefix code on the frames of the current version that fit the payload
limit. -/

namespace OmniTun.Protocol

open OmniTun.Foundation OmniTun.Foundation.Transport

def Frame.Wire (f : Frame) : Prop :=
  f.version = frameVersion ∧ f.payload.length ≤ maxPayload

instance (f : Frame) : Decidable f.Wire := inferInstanceAs (Decidable (_ ∧ _))

lemma newDataFrame_wire {streamID : UInt64} {payload : Bytes} {compressed : Bool}
    (h : payload.length ≤ maxPayload) : (newDataFrame streamID payload compressed).Wire :=
  ⟨by simp, by simpa using h⟩

abbrev WireFrame := { f : Frame // f.Wire }

def Frame.wireBytes (f : Frame) : Bytes := f.header ++ f.payload

def Frame.writes (f : Frame) : List Bytes :=
  if maxPayload < f.payload.length then []
  else if 0 < f.payload.length then [f.header, f.payload] else [f.header]

@[simp] lemma header_length (f : Frame) : f.header.length = headerSize := by
  simp [Frame.header, headerSize]

lemma wireBytes_ne_nil (f : Frame) : f.wireBytes ≠ [] := by
  intro h
  have hl := congrArg List.length h
  simp [Frame.wireBytes, headerSize] at hl

@[simp] lemma flatMap_wireBytes_eq_nil {fs : List Frame} :
    fs.flatMap Frame.wireBytes = [] ↔ fs = [] := by
  constructor
  · intro h
    apply List.eq_nil_iff_forall_not_mem.mpr
    intro f hf
    exact wireBytes_ne_nil f (List.flatMap_eq_nil_iff.mp h f hf)
  · rintro rfl
    rfl

lemma parseHeader_header {f : Frame} (h : f.Wire) :
    parseHeader f.header = .ok ({ f with payload := [] }, f.payload.length) := by
  obtain ⟨hv, hl⟩ := h
  have hlen : f.payload.length % 256 ^ 4 = f.payload.length :=
    Nat.mod_eq_of_lt (by simp only [maxPayload] at hl; omega)
  have hid : UInt64.ofNat (f.streamID.toNat % 256 ^ 8) = f.streamID := by
    rw [Nat.mod_eq_of_lt (by simpa using f.streamID.toNat_lt), UInt64.ofNat_toNat]
  have hmagic : f.header.take 2 = BigEndian.put 2 magicValue := by simp [Frame.header]
  have hsid : (f.header.drop 5).take 8 = BigEndian.put 8 f.streamID.toNat := by
    simp [Frame.header, List.drop_append, List.take_append]
  have hplen : (f.header.drop 13).take 4 = BigEndian.put 4 f.payload.length := by
    rw [Frame.header, List.drop_left' (by simp), List.take_of_length_le (by simp)]
  have hver : f.header.getD 2 0 = f.version := by simp [Frame.header]
  have htype : f.header.getD 3 0 = f.type := by simp [Frame.header]
  have hflags : f.header.getD 4 0 = f.flags := by simp [Frame.header]
  have hmv : magicValue % 256 ^ 2 = magicValue := rfl
  simp only [parseHeader, hmagic, hsid, hplen, hver, htype, hflags, BigEndian.get_put, hlen, hid, hmv]
  simp [hv, Nat.not_lt.mpr hl]

lemma parseHeader_sound {hd : Bytes} {f : Frame} {n : ℕ} (hl : hd.length = headerSize)
    (h : parseHeader hd = .ok (f, n)) :
    f.payload = [] ∧ f.version = frameVersion ∧ n ≤ maxPayload ∧
      ∀ p : Bytes, p.length = n → hd = { f with payload := p }.header := by
  match hd, hl with
  | [b0, b1, b2, b3, b4, b5, b6, b7, b8, b9, b10, b11, b12, b13, b14, b15, b16], _ =>
    simp only [parseHeader] at h
    split_ifs at h with hm hv hp
    obtain ⟨rfl, rfl⟩ := by simpa using h
    rw [not_not] at hm hv
    refine ⟨rfl, hv, Nat.le_of_not_lt hp, ?_⟩
    intro p hpl
    have hmagic : BigEndian.put 2 magicValue = [b0, b1] := by
      rw [← hm]
      exact BigEndian.put_get [b0, b1]
    have hsid : BigEndian.put 8 (BigEndian.get [b5, b6, b7, b8, b9, b10, b11, b12]) =
        [b5, b6, b7, b8, b9, b10, b11, b12] := BigEndian.put_get_of_length rfl
    have hlen : BigEndian.put 4 p.length = [b13, b14, b15, b16] := by
      rw [hpl]
      exact BigEndian.put_get_of_length rfl
    have hlt := BigEndian.get_lt [b5, b6, b7, b8, b9, b10, b11, b12]
    have hstream : (UInt64.ofNat (BigEndian.get [b5, b6, b7, b8, b9, b10, b11, b12])).toNat =
        BigEndian.get [b5, b6, b7, b8, b9, b10, b11, b12] := by
      rw [UInt64.toNat_ofNat', Nat.mod_eq_of_lt (by simpa using hlt)]
    change _ = BigEndian.put 2 magicValue ++ [b2, b3, b4] ++
      BigEndian.put 8 (UInt64.ofNat (BigEndian.get [b5, b6, b7, b8, b9, b10, b11, b12])).toNat ++
      BigEndian.put 4 p.length
    rw [hmagic, hstream, hsid, hlen]
    rfl

section Encode

variable {ω : Type*}

lemma encodeFrame_tooLarge [Writer ω] (w : ω) {f : Frame} (h : maxPayload < f.payload.length) :
    encodeFrame w f = (some (.payloadTooLarge f.payload.length), w) := by
  simp [encodeFrame, h]

lemma encodeFrame_writes [ReliableWriter ω] (w : ω) {f : Frame}
    (h : f.payload.length ≤ maxPayload) :
    encodeFrame w f = (none, f.writes.foldl (fun w bs => (write w bs).2) w) := by
  have hwrite : ∀ (w : ω) (bs : Bytes), write w bs = (none, (write w bs).2) :=
    fun w bs => Prod.ext (ReliableWriter.write_ok w bs) rfl
  simp only [encodeFrame, Frame.writes, Nat.not_lt.mpr h, if_false]
  rw [hwrite]
  split_ifs
  · simp only [List.foldl_cons, List.foldl_nil]
    rw [hwrite]
  · rfl

lemma writes_flatten {f : Frame} (h : f.payload.length ≤ maxPayload) :
    f.writes.flatten = f.wireBytes := by
  simp only [Frame.writes, Nat.not_lt.mpr h, if_false, Frame.wireBytes]
  split_ifs with hl
  · simp
  · simp [List.length_eq_zero_iff.mp (Nat.eq_zero_of_not_pos hl)]

lemma writes_ne_nil {f : Frame} : f.writes ≠ [] ↔ f.payload.length ≤ maxPayload := by
  simp only [Frame.writes]
  split_ifs <;> simp <;> omega

lemma encodeFrame_buffer (w : Bytes) {f : Frame} (h : f.payload.length ≤ maxPayload) :
    encodeFrame w f = (none, w ++ f.wireBytes) := by
  simp only [encodeFrame, Nat.not_lt.mpr h, if_false, write_buffer, Frame.wireBytes]
  split_ifs with hl
  · simp
  · simp [List.length_eq_zero_iff.mp (Nat.eq_zero_of_not_pos hl)]

lemma encodeFrame_duplex {c : Duplex} (hc : c.closed = false) {f : Frame}
    (h : f.payload.length ≤ maxPayload) :
    encodeFrame c f = (none, c.sent f.wireBytes) := by
  simp only [encodeFrame, Nat.not_lt.mpr h, if_false, write_duplex hc, Frame.wireBytes]
  split_ifs with hl
  · rw [write_duplex (by exact hc)]
    simp
  · simp [List.length_eq_zero_iff.mp (Nat.eq_zero_of_not_pos hl)]

end Encode

section Decode

lemma decodeFrame_wireBytes {f : Frame} (h : f.Wire) (rest : Bytes) :
    decodeFrame (f.wireBytes ++ rest) = (.ok f, rest) := by
  have hr : readFull (f.wireBytes ++ rest) headerSize = (.ok f.header, f.payload ++ rest) := by
    rw [Frame.wireBytes, List.append_assoc]
    exact readFull_append (header_length f)
  simp only [decodeFrame, hr, parseHeader_header h]
  split_ifs with hl
  · rw [readFull_append rfl]
  · simp [List.length_eq_zero_iff.mp (Nat.eq_zero_of_not_pos hl)]
    cases f
    simp_all

lemma decodeFrame_sound {bs rest : Bytes} {f : Frame} (h : decodeFrame bs = (.ok f, rest)) :
    f.Wire ∧ bs = f.wireBytes ++ rest := by
  simp only [decodeFrame] at h
  split at h
  · simp at h
  · rename_i hd r hr
    obtain ⟨hlen, rfl⟩ := readFull_sound hr
    split at h
    · simp at h
    · rename_i g n hp
      obtain ⟨hnil, hv, hn, hhd⟩ := parseHeader_sound hlen hp
      split_ifs at h with hpos
      · split at h
        · simp at h
        · rename_i p r' hr'
          obtain ⟨hpl, rfl⟩ := readFull_sound hr'
          obtain ⟨rfl, rfl⟩ := by simpa using h
          exact ⟨⟨hv, hpl ▸ hn⟩, by rw [Frame.wireBytes, ← hhd p hpl, List.append_assoc]⟩
      · obtain ⟨rfl, rfl⟩ := by simpa using h
        have hz : g.payload.length = n := by rw [hnil, Nat.eq_zero_of_not_pos hpos]; rfl
        have hg : hd = g.header := hhd g.payload hz
        exact ⟨⟨hv, hz ▸ hn⟩, by rw [Frame.wireBytes, ← hg, hnil, List.append_nil]⟩

lemma decodeFrame_embed {ρ κ : Type*} [Reader ρ] [Reader κ] (embed : ρ → κ)
    (h : ∀ r n, readFull (embed r) n = ((readFull r n).1, embed (readFull r n).2)) (r : ρ) :
    decodeFrame (embed r) = ((decodeFrame r).1, embed (decodeFrame r).2) := by
  simp only [decodeFrame, h]
  rcases readFull r headerSize with ⟨_ | hd, r'⟩
  · rfl
  · dsimp only
    rcases parseHeader hd with _ | ⟨f, n⟩
    · rfl
    · dsimp only
      split_ifs
      · rw [h]
        rcases readFull r' n with ⟨_ | p, r''⟩ <;> rfl
      · rfl

lemma decodeFrame_duplex {c : Duplex} (hc : c.closed = false) :
    decodeFrame c = ((decodeFrame c.inbound).1, c.withInbound (decodeFrame c.inbound).2) :=
  decodeFrame_embed c.withInbound
    (fun _ n => readFull_duplex (by exact hc) n) c.inbound

end Decode

def frameCode : PrefixCode WireFrame UInt8 where
  encode f := f.val.wireBytes
  decode bs :=
    match h : decodeFrame bs with
    | (.ok f, rest) => some (⟨f, (decodeFrame_sound h).1⟩, rest)
    | (.error _, _) => none
  decode_encode f rest := by
    have h := decodeFrame_wireBytes f.property rest
    split <;> simp_all
  decode_sound {bs f rest} h := by
    split at h
    · rename_i g r hd
      obtain ⟨rfl, rfl⟩ := by simpa using h
      exact (decodeFrame_sound hd).2
    · simp at h

lemma frameCode_decode {bs rest : Bytes} {f : WireFrame} (h : frameCode.decode bs = some (f, rest)) :
    decodeFrame bs = (.ok f.val, rest) := by
  rw [frameCode.decode_sound h]
  exact decodeFrame_wireBytes f.property rest

lemma decodeStream_head {ρ : Type*} [Reader ρ] (n : ℕ) (r : ρ) :
    (decodeStream (n + 1) r).1.head? = some (decodeFrame r).1 := by
  rw [decodeStream]
  split <;> simp_all

lemma decodeStream_decodeMany {n : ℕ} {bs rest : Bytes} {fs : List WireFrame}
    (h : frameCode.decodeMany n bs = some (fs, rest)) :
    decodeStream n bs = (fs.map fun f => .ok f.val, rest) := by
  induction n generalizing bs fs with
  | zero =>
    obtain ⟨rfl, rfl⟩ := by simpa [PrefixCode.decodeMany] using h
    rfl
  | succ n ih =>
    obtain ⟨⟨f, cs⟩, hd, h'⟩ := Option.bind_eq_some_iff.mp h
    obtain ⟨⟨gs, cs'⟩, hm, he⟩ := Option.map_eq_some_iff.mp h'
    obtain ⟨rfl, rfl⟩ := by simpa using he
    simp only [decodeStream, frameCode_decode hd, ih hm, List.map_cons]

lemma decodeStream_encodeAll (fs : List WireFrame) (rest : Bytes) :
    decodeStream fs.length (frameCode.encodeAll fs ++ rest) = (fs.map fun f => .ok f.val, rest) :=
  decodeStream_decodeMany (frameCode.decodeMany_encodeAll fs rest)

lemma decodeStream_wireBytes {fs : List Frame} (h : ∀ f ∈ fs, f.Wire) (rest : Bytes) :
    decodeStream fs.length (fs.flatMap Frame.wireBytes ++ rest) = (fs.map .ok, rest) := by
  lift fs to List WireFrame using h
  have hs := decodeStream_encodeAll fs rest
  simpa [PrefixCode.encodeAll, frameCode, List.flatMap_map] using hs

/-- The codec on whole streams: decoding inverts encoding and stops where it should, what is
decoded was encoded so, and the only frames not encoded are those over the payload limit. -/
theorem codec_correct :
    (∀ (fs : List Frame) (rest : Bytes),
      (∀ f ∈ fs, f.version = frameVersion ∧ f.payload.length ≤ maxPayload) →
      decodeStream fs.length ((fs.flatMap fun f => (encodeFrame ([] : Bytes) f).2) ++ rest) =
        (fs.map .ok, rest)) ∧
    (∀ (bs : Bytes) (f : Frame) (rest : Bytes), decodeFrame bs = (.ok f, rest) →
      ∃ consumed, bs = consumed ++ rest ∧ encodeFrame ([] : Bytes) f = (none, consumed)) ∧
    (∀ (ω : Type) [ReliableWriter ω] (w : ω) (f : Frame),
      ((encodeFrame w f).1 ≠ none ↔ maxPayload < f.payload.length) ∧
      (maxPayload < f.payload.length → (encodeFrame w f).2 = w)) := by
  refine ⟨?_, ?_, ?_⟩
  · intro fs rest h
    have he : (fs.flatMap fun f => (encodeFrame ([] : Bytes) f).2) = fs.flatMap Frame.wireBytes := by
      apply List.flatMap_congr
      intro f hf
      rw [encodeFrame_buffer _ (h f hf).2, List.nil_append]
    rw [he]
    exact decodeStream_wireBytes h rest
  · intro bs f rest h
    obtain ⟨hw, hbs⟩ := decodeFrame_sound h
    exact ⟨f.wireBytes, hbs, by rw [encodeFrame_buffer _ hw.2, List.nil_append]⟩
  · intro ω _ w f
    constructor
    · constructor
      · intro h
        by_contra hl
        exact h (by rw [encodeFrame_writes w (Nat.le_of_not_lt hl)])
      · intro h
        simp [encodeFrame_tooLarge w h]
    · intro h
      rw [encodeFrame_tooLarge w h]

theorem codec_correct_two_frames :
    decodeStream 2 (([newDataFrame 1 [5, 6] true, newPingFrame 2].flatMap fun f =>
      (encodeFrame ([] : Bytes) f).2) ++ [9]) =
        ([.ok (newDataFrame 1 [5, 6] true), .ok (newPingFrame 2)], [9]) :=
  codec_correct.1 [newDataFrame 1 [5, 6] true, newPingFrame 2] [9] (by decide)

end OmniTun.Protocol
