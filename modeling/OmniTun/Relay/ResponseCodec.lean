import OmniTun.Relay.HttpResponse

/-! An agent's response through the printer and back through the parser. -/

namespace OmniTun.Relay

open OmniTun.Foundation OmniTun.Foundation.Numerals

structure ResponseMessage where
  statusCode : ℤ
  headers : Table Bytes (List Bytes)
  body : Bytes
  status_range : 200 ≤ statusCode ∧ statusCode ≤ 999
  key_canonical : ∀ k vals, headers.lookup k = some vals → canonicalMIMEHeaderKey k = k ∧ 58 ∉ k
  vals_line : ∀ k vals, headers.lookup k = some vals → vals ≠ [] ∧ ∀ v ∈ vals, 13 ∉ v ∧ 10 ∉ v

namespace ResponseMessage

variable (m : ResponseMessage)

def statusLine : Bytes :=
  ascii "HTTP/1.1 " ++ intNumeral m.statusCode ++ ascii " " ++ statusText m.statusCode ++ [13]

def headerLines (order : Table.RangeOrder Bytes) : List (Bytes × Bytes) :=
  (order.entries m.headers).flatMap fun (k, vals) => vals.map fun v => (k, v)

lemma serialize_eq (order : Table.RangeOrder Bytes) :
    serializeHTTPResponse order m.statusCode m.headers m.body =
      m.statusLine ++ 10 ::
        ((m.headerLines order).flatMap (fun (k, v) => headerLine k v) ++ crlf ++ m.body) := by
  have hlines : (m.headerLines order).flatMap (fun (k, v) => headerLine k v) =
      (order.entries m.headers).flatMap
        (fun (k, vals) => vals.flatMap fun v => headerLine k v) := by
    simp only [headerLines, List.flatMap_assoc, List.flatMap_map]
  rw [hlines]
  simp [serializeHTTPResponse, statusLine, crlf]

lemma statusNumeral : ∃ n : ℕ, m.statusCode = n ∧ 100 ≤ n ∧ n < 1000 ∧
    intNumeral m.statusCode = natNumeral n := by
  obtain ⟨hl, hu⟩ := m.status_range
  refine ⟨m.statusCode.natAbs, by omega, by omega, by omega, ?_⟩
  rw [intNumeral, if_neg (by omega)]

lemma statusLine_line : 10 ∉ m.statusLine := by
  obtain ⟨n, -, -, -, hn⟩ := m.statusNumeral
  have hnum : 10 ∉ natNumeral n := by
    intro h
    obtain ⟨d, hd, he⟩ := natNumeral_digits n 10 h
    have := digit_toNat hd
    rw [← he] at this
    have h10 : (10 : UInt8).toNat = 10 := rfl
    omega
  have htext := statusText_line m.statusCode
  simp [statusLine, hn, hnum, htext, ascii]

lemma responseStatusCode_statusLine : responseStatusCode (m.statusLine ++ [10]) = m.statusCode := by
  obtain ⟨n, hs, hl, hu, hn⟩ := m.statusNumeral
  have hlen : (natNumeral n).length = 3 := natNumeral_length (k := 2) hl hu
  have hcut : ((m.statusLine ++ [10]).drop 9).take 3 = natNumeral n := by
    have hprefix : (ascii "HTTP/1.1 ").length = 9 := by simp [ascii]
    simp only [statusLine, hn, List.append_assoc]
    rw [← hprefix, List.drop_left, ← hlen, List.take_left]
  have hlong : 12 < (m.statusLine ++ [10]).length := by
    simp only [statusLine, hn, List.length_append, hlen]
    simp [ascii]
    omega
  have hfive : (m.statusLine ++ [10]).take 5 = ascii "HTTP/" := by
    simp [statusLine, ascii]
  rw [responseStatusCode, if_pos ⟨hlong, hfive⟩, hcut, atoi_natNumeral (by omega), hs]
  rfl

lemma readString_serialize (order : Table.RangeOrder Bytes) :
    readString (serializeHTTPResponse order m.statusCode m.headers m.body) =
      some (m.statusLine ++ [10],
        (m.headerLines order).flatMap (fun (k, v) => headerLine k v) ++ crlf ++ m.body) := by
  rw [m.serialize_eq order, readString_line m.statusLine_line]

lemma mem_headerLines (order : Table.RangeOrder Bytes) (k v : Bytes) :
    (k, v) ∈ m.headerLines order ↔ ∃ vals, m.headers.lookup k = some vals ∧ v ∈ vals := by
  simp only [headerLines, List.mem_flatMap, List.mem_map, Prod.mk.injEq, Prod.exists,
    order.mem_entries]
  constructor
  · rintro ⟨k, vals, hk, v, hv, rfl, rfl⟩
    exact ⟨vals, hk, hv⟩
  · rintro ⟨vals, hk, hv⟩
    exact ⟨k, vals, hk, v, hv, rfl, rfl⟩

/-- Every name has one value, and a line can give it. -/
def SingleValued : Prop :=
  ∀ k vals, m.headers.lookup k = some vals → vals.length = 1 ∧ k ≠ [] ∧ 10 ∉ k

variable {m}

lemma SingleValued.read_lines (h : m.SingleValued) (order : Table.RangeOrder Bytes) :
    ∃ headers : Table Bytes Bytes,
      readHeaders ∅ ((m.headerLines order).flatMap (fun (k, v) => headerLine k v) ++ crlf ++ m.body) =
        .ok (headers, m.body) ∧
      ∀ k v, headers.lookup k = some v ↔ m.headers.lookup k = some [v] := by
  have hname : ∀ p ∈ m.headerLines order, LineName p.1 ∧ 58 ∉ p.1 ∧ 10 ∉ p.2 := by
    rintro ⟨k, v⟩ hp
    obtain ⟨vals, hk, hv⟩ := (m.mem_headerLines order k v).mp hp
    obtain ⟨hcanon, hcolon⟩ := m.key_canonical k vals hk
    obtain ⟨-, hne, hlf⟩ := h k vals hk
    exact ⟨⟨hcanon, hne, hlf⟩, hcolon, ((m.vals_line k vals hk).2 v hv).2⟩
  have hsingle : ∀ k v, (k, v) ∈ m.headerLines order ↔ m.headers.lookup k = some [v] := by
    intro k v
    rw [m.mem_headerLines]
    constructor
    · rintro ⟨vals, hk, hv⟩
      obtain ⟨w, rfl⟩ := List.length_eq_one_iff.mp (h k vals hk).1
      rw [hk, List.mem_singleton.mp hv]
    · intro hk
      exact ⟨[v], hk, List.mem_singleton_self v⟩
  refine ⟨_, readHeaders_headerLines hname ∅ m.body, fun k v => ?_⟩
  rw [Table.lookup_foldl_write, Finmap.lookup_empty, Option.or_none, ← hsingle]
  constructor
  · intro hk
    simpa using Table.lastWritten_mem hk
  · intro hkv
    obtain ⟨v', hv'⟩ := Table.lastWritten_isSome (List.mem_map_of_mem (f := some) hkv)
    have hmem : (k, v') ∈ m.headerLines order := by simpa using Table.lastWritten_mem hv'
    have heq : some [v] = some [v'] := ((hsingle k v).mp hkv).symm.trans ((hsingle k v').mp hmem)
    rw [hv', List.cons.inj (Option.some.inj heq) |>.1]

end ResponseMessage

def ResponseMessage.written (m : ResponseMessage) : ResponseWriter where
  header := m.headers
  statusCode := some m.statusCode
  body := m.body

lemma writtenResponse_of_read {order : Table.RangeOrder Bytes} {payload line rest body : Bytes}
    {headers : Table Bytes Bytes} (hline : readString payload = some (line, rest))
    (hheaders : readHeaders ∅ rest = .ok (headers, body)) :
    writtenResponse order payload = some
      { header := addHeaders ∅ (order.entries headers)
        statusCode := some (responseStatusCode line)
        body := body } := by
  simp only [writtenResponse, deserializeHTTPResponse, hline, hheaders]
  cases body with
  | nil => rfl
  | cons c body => rfl

lemma writtenResponse_single {order : Table.RangeOrder Bytes} {payload : Bytes} {w : ResponseWriter}
    (h : writtenResponse order payload = some w) {k : Bytes} {vals : List Bytes}
    (hk : w.header.lookup k = some vals) : vals.length = 1 ∧ k ≠ [] ∧ 10 ∉ k := by
  cases hr : readString payload with
  | none =>
    simp only [writtenResponse, deserializeHTTPResponse, hr] at h
    cases h
  | some p =>
    obtain ⟨line, rest⟩ := p
    cases hh : readHeaders ∅ rest with
    | error e =>
      simp only [writtenResponse, deserializeHTTPResponse, hr, hh] at h
      cases h
    | ok p =>
      obtain ⟨headers, body⟩ := p
      have hname := readHeaders_lineName (fun k v hk => by simp at hk) hh
      rw [writtenResponse_of_read hr hh] at h
      obtain rfl := Option.some.inj h
      obtain ⟨v, hv, rfl⟩ := (lookup_addHeaders_entries order hname k vals).mp hk
      exact ⟨rfl, (hname k v hv).2⟩

/-- The parser keeps one value of each name: a message comes through as it was printed if and
only if no name has several. -/
theorem deserialize_serialize (order order' : Table.RangeOrder Bytes) (m : ResponseMessage) :
    writtenResponse order' (serializeHTTPResponse order m.statusCode m.headers m.body) =
        some m.written ↔
      m.SingleValued := by
  constructor
  · intro h k vals hk
    exact writtenResponse_single h hk
  · intro h
    have hread := m.readString_serialize order
    obtain ⟨headers, hh, hlookup⟩ := h.read_lines order
    have hname := readHeaders_lineName (fun k v hk => by simp at hk) hh
    have hheader : addHeaders ∅ (order'.entries headers) = m.headers := by
      apply Finmap.ext_lookup
      intro k
      apply Option.ext
      intro vals
      rw [lookup_addHeaders_entries order' hname]
      constructor
      · rintro ⟨v, hv, rfl⟩
        exact (hlookup k v).mp hv
      · intro hk
        obtain ⟨v, rfl⟩ := List.length_eq_one_iff.mp (h k vals hk).1
        exact ⟨v, (hlookup k v).mpr hk, rfl⟩
    rw [writtenResponse_of_read hread hh, hheader, m.responseStatusCode_statusLine]
    rfl

def twoCookies : ResponseMessage where
  statusCode := 200
  headers := (∅ : Table Bytes (List Bytes)).insert (ascii "Set-Cookie") [ascii "a=1", ascii "b=2"]
  body := []
  status_range := by decide
  key_canonical k vals h := by
    rw [Table.lookup_insert] at h
    split_ifs at h with hk
    · subst hk
      exact ⟨rfl, by simp [ascii]⟩
    · simp at h
  vals_line k vals h := by
    rw [Table.lookup_insert] at h
    split_ifs at h
    · obtain rfl := Option.some.inj h
      simp [ascii]
    · simp at h

theorem deserialize_serialize_twoCookies : ¬ ∀ (order order' : Table.RangeOrder Bytes)
    (m : ResponseMessage),
    writtenResponse order' (serializeHTTPResponse order m.statusCode m.headers m.body) =
      some m.written := by
  intro h
  have hcookie : twoCookies.written.header.lookup (ascii "Set-Cookie") =
      some [ascii "a=1", ascii "b=2"] := Finmap.lookup_insert _
  obtain ⟨hlen, -⟩ := writtenResponse_single (h .byCode .byCode twoCookies) hcookie
  cases hlen

end OmniTun.Relay
