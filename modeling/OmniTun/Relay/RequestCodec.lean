import OmniTun.Relay.HttpResponse

/-! A client's request through the relay's printer, and back through a parser of HTTP messages. -/

namespace OmniTun.Relay

open OmniTun.Foundation OmniTun.Foundation.Numerals

/-! A message is a request line, field lines up to a blank line, and a body. -/

structure RequestMessage where
  method : Bytes
  target : Bytes
  version : Bytes
  fields : List (Bytes × Bytes)
  body : Bytes

def cut (sep : UInt8) (s : Bytes) : Option (Bytes × Bytes) :=
  match s.dropWhile (· != sep) with
  | [] => none
  | _ :: rest => some (s.takeWhile (· != sep), rest)

def cutLine : Bytes → Option (Bytes × Bytes)
  | [] => none
  | c :: rest =>
    if c = 13 ∧ rest.head? = some 10 then some ([], rest.tail)
    else (cutLine rest).map fun (line, rest) => (c :: line, rest)

def field (line : Bytes) : Option (Bytes × Bytes) :=
  (cut 58 line).map fun (name, value) =>
    (name, if value.head? = some 32 then value.drop 1 else value)

lemma cutLine_length {bs line rest : Bytes} (h : cutLine bs = some (line, rest)) :
    rest.length < bs.length := by
  induction bs generalizing line with
  | nil => cases h
  | cons c bs ih =>
    rw [cutLine] at h
    split_ifs at h with hc
    · obtain ⟨-, rfl⟩ := Prod.mk.inj (Option.some.inj h)
      simp
    · obtain ⟨⟨line', rest'⟩, hr, he⟩ := Option.map_eq_some_iff.mp h
      obtain ⟨-, rfl⟩ := Prod.mk.inj he
      exact (ih hr).trans (by simp)

def parseFields (bs : Bytes) : Option (List (Bytes × Bytes) × Bytes) :=
  match h : cutLine bs with
  | none => none
  | some (line, rest) =>
    have := cutLine_length h
    if line = [] then some ([], rest)
    else
      (field line).bind fun f => (parseFields rest).map fun (fields, body) => (f :: fields, body)
termination_by bs.length

def parseRequest (bs : Bytes) : Option RequestMessage :=
  (cutLine bs).bind fun (line, rest) =>
    (cut 32 line).bind fun (method, line) =>
      (cut 32 line).bind fun (target, version) =>
        (parseFields rest).map fun (fields, body) => ⟨method, target, version, fields, body⟩

namespace RequestMessage

def values (m : RequestMessage) (name : Bytes) : List Bytes :=
  (m.fields.filter fun f => f.1 = name).map Prod.snd

end RequestMessage

/-! The parser on what is printed. -/

lemma cut_eq {s : Bytes} {sep : UInt8} (h : sep ∉ s) (rest : Bytes) :
    cut sep (s ++ sep :: rest) = some (s, rest) := by
  obtain ⟨htake, hdrop⟩ := takeWhile_ne h rest
  rw [cut, hdrop, htake]

lemma cutLine_eq {line : Bytes} (h : 13 ∉ line) (rest : Bytes) :
    cutLine (line ++ crlf ++ rest) = some (line, rest) := by
  induction line with
  | nil => rfl
  | cons c line ih =>
    have hc : ¬ (c = 13 ∧ (line ++ crlf ++ rest).head? = some 10) := by
      rintro ⟨rfl, -⟩
      exact h List.mem_cons_self
    have hline := ih fun hm => h (List.mem_cons_of_mem c hm)
    rw [List.cons_append, List.cons_append, cutLine, if_neg hc, hline, Option.map_some]

def FieldText (f : Bytes × Bytes) : Prop := 58 ∉ f.1 ∧ 13 ∉ f.1 ∧ 13 ∉ f.2

lemma field_eq {k : Bytes} (h : 58 ∉ k) (v : Bytes) :
    field (k ++ ascii ": " ++ v) = some (k, v) := by
  have hline : k ++ ascii ": " ++ v = k ++ 58 :: 32 :: v := by simp [ascii]
  rw [hline, field, cut_eq h]
  rfl

lemma parseFields_line {bs line rest : Bytes} (hline : cutLine bs = some (line, rest)) :
    parseFields bs =
      if line = [] then some ([], rest)
      else (field line).bind fun f =>
        (parseFields rest).map fun (fields, body) => (f :: fields, body) := by
  rw [parseFields]
  split
  · next h =>
    rw [hline] at h
    cases h
  · next h =>
    rw [hline] at h
    obtain ⟨rfl, rfl⟩ := Prod.mk.inj (Option.some.inj h)
    rfl

lemma parseFields_cons {f : Bytes × Bytes} (hf : FieldText f) (rest : Bytes) :
    parseFields (headerLine f.1 f.2 ++ rest) =
      (parseFields rest).map fun (fields, body) => (f :: fields, body) := by
  obtain ⟨hcolon, hname, hvalue⟩ := hf
  have hcr : 13 ∉ f.1 ++ ascii ": " ++ f.2 := by simp [ascii, hname, hvalue]
  have hne : f.1 ++ ascii ": " ++ f.2 ≠ [] := by simp [ascii]
  have hline : cutLine (headerLine f.1 f.2 ++ rest) = some (f.1 ++ ascii ": " ++ f.2, rest) :=
    cutLine_eq hcr rest
  rw [parseFields_line hline, if_neg hne, field_eq hcolon]
  rfl

lemma parseFields_headerLines {fields : List (Bytes × Bytes)} (h : ∀ f ∈ fields, FieldText f)
    (body : Bytes) :
    parseFields (fields.flatMap (fun (k, v) => headerLine k v) ++ crlf ++ body) =
      some (fields, body) := by
  induction fields with
  | nil =>
    have hline : cutLine (crlf ++ body) = some ([], body) := rfl
    exact parseFields_line hline
  | cons f fields ih =>
    have hrest := ih fun g hg => h g (List.mem_cons_of_mem f hg)
    rw [List.flatMap_cons, List.append_assoc, List.append_assoc,
      parseFields_cons (h f List.mem_cons_self), ← List.append_assoc, hrest]
    rfl

variable {order : Table.RangeOrder Bytes}

lemma parseRequest_encode {req : HttpRequest} (hmethod : 32 ∉ req.method ∧ 13 ∉ req.method)
    (hurl : 32 ∉ req.url ∧ 13 ∉ req.url) (hproto : 13 ∉ req.proto)
    (hfields : ∀ k v, req.headers.lookup k = some v → FieldText (k, v)) :
    parseRequest (encodeHTTPRequest order req) = some
      { method := req.method
        target := req.url
        version := req.proto
        fields := order.entries req.headers
        body := req.body } := by
  have hcr : 13 ∉ req.method ++ ascii " " ++ req.url ++ ascii " " ++ req.proto := by
    simp [ascii, hmethod.2, hurl.2, hproto]
  have hline : cutLine (encodeHTTPRequest order req) =
      some (req.method ++ ascii " " ++ req.url ++ ascii " " ++ req.proto,
        (order.entries req.headers).flatMap (fun (k, v) => headerLine k v) ++ crlf ++
          req.body) := by
    have h := cutLine_eq hcr
      ((order.entries req.headers).flatMap (fun (k, v) => headerLine k v) ++ crlf ++ req.body)
    rw [← h, encodeHTTPRequest]
    simp only [List.append_assoc]
  have hmethod' : req.method ++ ascii " " ++ req.url ++ ascii " " ++ req.proto =
      req.method ++ 32 :: (req.url ++ 32 :: req.proto) := by
    simp [ascii]
  have htext : ∀ f ∈ order.entries req.headers, FieldText f := by
    rintro ⟨k, v⟩ hf
    exact hfields k v ((order.mem_entries _ k v).mp hf)
  simp only [parseRequest, hline, hmethod', Option.bind_some, cut_eq hmethod.1, cut_eq hurl.1,
    parseFields_headerLines htext, Option.map_some]

lemma filter_entries (order : Table.RangeOrder Bytes) (headers : Table Bytes Bytes) (k : Bytes) :
    ((order.entries headers).filter fun f => f.1 = k).map Prod.snd =
      (headers.lookup k).toList := by
  have hmem : ∀ f, f ∈ (order.entries headers).filter (fun f => f.1 = k) ↔
      headers.lookup k = some f.2 ∧ f.1 = k := by
    rintro ⟨k', v⟩
    rw [List.mem_filter, order.mem_entries, decide_eq_true_eq]
    constructor
    · rintro ⟨hv, rfl⟩
      exact ⟨hv, rfl⟩
    · rintro ⟨hv, rfl⟩
      exact ⟨hv, rfl⟩
  cases hk : headers.lookup k with
  | none =>
    have hnil : (order.entries headers).filter (fun f => f.1 = k) = [] := by
      apply List.eq_nil_iff_forall_not_mem.mpr
      intro f hf
      rw [hmem, hk] at hf
      cases hf.1
    rw [hnil]
    rfl
  | some v =>
    have hnodup : ((order.entries headers).filter fun f => f.1 = k).Nodup :=
      (order.nodup_keys headers).of_map.filter _
    have hperm : ((order.entries headers).filter fun f => f.1 = k).Perm [(k, v)] := by
      apply (List.perm_ext_iff_of_nodup hnodup (List.nodup_singleton _)).mpr
      rintro ⟨k', v'⟩
      rw [hmem, hk]
      simp [eq_comm, and_comm]
    rw [List.perm_singleton.mp hperm]
    rfl

/-! The map that is printed. -/

def firstValue (entry : Bytes × List Bytes) : Option (Bytes × Bytes) :=
  entry.2.head?.map fun v => (entry.1, v)

lemma firstValues_eq (header : Table Bytes (List Bytes)) :
    firstValues order header = ((order.entries header).map firstValue).foldl Table.write ∅ := by
  rw [firstValues]
  generalize (∅ : Table Bytes Bytes) = t
  induction order.entries header generalizing t with
  | nil => rfl
  | cons entry entries ih =>
    obtain ⟨k, vs⟩ := entry
    cases vs with
    | nil => exact ih t
    | cons v vs => exact ih (t.insert k v)

lemma lookup_firstValues (header : Table Bytes (List Bytes)) (k : Bytes) :
    (firstValues order header).lookup k = (header.lookup k).bind List.head? := by
  have hmem : ∀ v, some (k, v) ∈ (order.entries header).map firstValue ↔
      (header.lookup k).bind List.head? = some v := by
    intro v
    rw [List.mem_map, Option.bind_eq_some_iff]
    constructor
    · rintro ⟨⟨k', vs⟩, hentry, hv⟩
      obtain ⟨w, hw, hkw⟩ := Option.map_eq_some_iff.mp hv
      obtain ⟨rfl, rfl⟩ := Prod.mk.inj hkw
      exact ⟨vs, (order.mem_entries header _ vs).mp hentry, hw⟩
    · rintro ⟨vs, hvs, hv⟩
      refine ⟨(k, vs), (order.mem_entries header k vs).mpr hvs, ?_⟩
      rw [firstValue, hv]
      rfl
  rw [firstValues_eq, Table.lookup_foldl_write, Finmap.lookup_empty, Option.or_none]
  apply Option.ext
  intro v
  rw [← hmem]
  constructor
  · exact Table.lastWritten_mem
  · intro hv
    obtain ⟨v', hv'⟩ := Table.lastWritten_isSome hv
    have hsame := ((hmem v).mp hv).symm.trans ((hmem v').mp (Table.lastWritten_mem hv'))
    rw [hv', Option.some.inj hsame]

lemma lookup_withHost {headers : Table Bytes Bytes} (h : headers.lookup (ascii "Host") = none)
    (host k : Bytes) :
    (withHost host headers).lookup k =
      if k = ascii "Host" then some (if host = [] then ascii "localhost" else host)
      else headers.lookup k := by
  rw [withHost, h]
  by_cases hhost : host = []
  · simp [hhost, Table.lookup_insert]
  · simp [hhost, Table.lookup_insert]

lemma lookup_withContentLength (headers : Table Bytes Bytes) (body k : Bytes) :
    (withContentLength body headers).lookup k =
      if k = ascii "Content-Length" ∧ body ≠ [] ∧ headers.lookup k = none then
        some (natNumeral body.length)
      else headers.lookup k := by
  rw [withContentLength]
  by_cases hbody : body = []
  · simp [hbody]
  · rw [if_pos (List.length_pos_iff_ne_nil.mpr hbody)]
    cases hlen : headers.lookup (ascii "Content-Length") with
    | none =>
      dsimp only
      rw [Table.lookup_insert]
      by_cases hk : k = ascii "Content-Length"
      · subst hk
        simp [hbody, hlen]
      · simp [hk]
    | some v =>
      dsimp only
      rw [if_neg]
      rintro ⟨rfl, -, hnone⟩
      rw [hnone] at hlen
      cases hlen

/-- A request as `net/http` hands it to a handler: its target and fields have been on lines of
their own, and the Host field has been taken out of the header. -/
structure Request.Incoming (r : Request) : Prop where
  target : r.requestURI ≠ [] ∧ 32 ∉ r.requestURI ∧ 13 ∉ r.requestURI
  proto : 13 ∉ r.proto
  host : 13 ∉ r.host
  host_removed : r.header.lookup (ascii "Host") = none
  names : ∀ k vs, r.header.lookup k = some vs → 58 ∉ k ∧ 13 ∉ k
  values : ∀ k vs, r.header.lookup k = some vs → vs ≠ [] ∧ ∀ v ∈ vs, 13 ∉ v

def Request.SingleValued (r : Request) : Prop :=
  ∀ k vs, r.header.lookup k = some vs → vs.length = 1

/-- What a message has to give back of a request with a body. -/
structure Lossless (r : Request) (body : Bytes) (m : RequestMessage) : Prop where
  method : m.method = r.method
  target : m.target = r.requestURI
  host : r.host ≠ [] → m.values (ascii "Host") = [r.host]
  header : ∀ k vs, r.header.lookup k = some vs → m.values k = vs
  contentLength : body ≠ [] → r.header.lookup (ascii "Content-Length") = none →
    m.values (ascii "Content-Length") = [natNumeral body.length]
  body : m.body = body

def printedHeaders (order : Table.RangeOrder Bytes) (r : Request) (body : Bytes) :
    Table Bytes Bytes :=
  withContentLength body (withHost r.host (firstValues order r.header))

variable {r : Request}

lemma head_eq_none {r : Request} (h : r.Incoming) (k : Bytes) :
    (r.header.lookup k).bind List.head? = none ↔ r.header.lookup k = none := by
  cases hk : r.header.lookup k with
  | none => simp
  | some vs => simp [(h.values k vs hk).1]

lemma lookup_printedHeaders (h : r.Incoming) (body k : Bytes) :
    (printedHeaders order r body).lookup k =
      if k = ascii "Host" then some (if r.host = [] then ascii "localhost" else r.host)
      else if k = ascii "Content-Length" ∧ body ≠ [] ∧ r.header.lookup k = none then
        some (natNumeral body.length)
      else (r.header.lookup k).bind List.head? := by
  have hnone : (firstValues order r.header).lookup (ascii "Host") = none := by
    rw [lookup_firstValues, h.host_removed]
    rfl
  rw [printedHeaders, lookup_withContentLength, lookup_withHost hnone, lookup_firstValues]
  by_cases hk : k = ascii "Host"
  · subst hk
    simp
  · simp only [if_neg hk, head_eq_none h]

lemma natNumeral_line (n : ℕ) : 13 ∉ natNumeral n := by
  intro hm
  obtain ⟨d, hd, he⟩ := natNumeral_digits n 13 hm
  have hdigit := digit_toNat hd
  rw [← he] at hdigit
  have h13 : (13 : UInt8).toNat = 13 := rfl
  omega

lemma printedHeaders_text (h : r.Incoming) {body k v : Bytes}
    (hv : (printedHeaders order r body).lookup k = some v) : FieldText (k, v) := by
  rw [lookup_printedHeaders h] at hv
  split_ifs at hv with hk hhost hlen
  · obtain rfl := Option.some.inj hv
    subst hk
    exact ⟨by simp [ascii], by simp [ascii], by simp [ascii]⟩
  · obtain rfl := Option.some.inj hv
    subst hk
    exact ⟨by simp [ascii], by simp [ascii], h.host⟩
  · obtain rfl := Option.some.inj hv
    rw [hlen.1]
    exact ⟨by simp [ascii], by simp [ascii], natNumeral_line _⟩
  · obtain ⟨vs, hvs, hhead⟩ := Option.bind_eq_some_iff.mp hv
    obtain ⟨hcolon, hname⟩ := h.names k vs hvs
    exact ⟨hcolon, hname, (h.values k vs hvs).2 v (List.mem_of_mem_head? hhead)⟩

def readBack (order : Table.RangeOrder Bytes) (r : Request) (body : Bytes) : RequestMessage where
  method := r.method
  target := r.requestURI
  version := r.proto
  fields := order.entries (printedHeaders order r body)
  body := body

lemma parseRequest_serialize (h : r.Incoming) (body : Bytes) :
    parseRequest (serializeHTTPRequest order r body) = some (readBack order r body) := by
  obtain ⟨-, htoken⟩ := r.method_token
  have hmethod : 32 ∉ r.method ∧ 13 ∉ r.method :=
    ⟨fun hm => absurd (htoken _ hm) (by decide), fun hm => absurd (htoken _ hm) (by decide)⟩
  obtain ⟨hne, htarget⟩ := h.target
  rw [serializeHTTPRequest, if_neg hne]
  exact parseRequest_encode hmethod htarget h.proto fun k v hv => printedHeaders_text h hv

lemma values_readBack (h : r.Incoming) (body k : Bytes) :
    (readBack order r body).values k =
      (if k = ascii "Host" then some (if r.host = [] then ascii "localhost" else r.host)
      else if k = ascii "Content-Length" ∧ body ≠ [] ∧ r.header.lookup k = none then
        some (natNumeral body.length)
      else (r.header.lookup k).bind List.head?).toList := by
  rw [← lookup_printedHeaders h]
  exact filter_entries order (printedHeaders order r body) k

lemma lossless_readBack (h : r.Incoming) (body : Bytes) :
    Lossless r body (readBack order r body) ↔ r.SingleValued := by
  constructor
  · intro hm k vs hvs
    have hle : vs.length ≤ 1 := by
      rw [← hm.header k vs hvs, values_readBack h]
      exact Option.length_toList_le
    have hpos := List.length_pos_iff_ne_nil.mpr (h.values k vs hvs).1
    omega
  · intro hsingle
    refine ⟨rfl, rfl, ?_, ?_, ?_, rfl⟩
    · intro hhost
      rw [values_readBack h, if_pos rfl, if_neg hhost]
      rfl
    · intro k vs hvs
      obtain ⟨v, rfl⟩ := List.length_eq_one_iff.mp (hsingle k vs hvs)
      have hne : k ≠ ascii "Host" := by
        rintro rfl
        rw [h.host_removed] at hvs
        cases hvs
      rw [values_readBack h, if_neg hne, if_neg (by simp [hvs]), hvs]
      rfl
    · intro hne hnone
      have hhost : ascii "Content-Length" ≠ ascii "Host" := by simp [ascii]
      rw [values_readBack h, if_neg hhost, if_pos ⟨rfl, hne, hnone⟩]
      rfl

/-- Read back as a message, a printed request is whole if and only if no field has several values.
Where the request has no Host, another is given. -/
theorem serialize_lossless_iff (h : r.Incoming) (order : Table.RangeOrder Bytes) (body : Bytes) :
    ∃ m, parseRequest (serializeHTTPRequest order r body) = some m ∧
      (Lossless r body m ↔ r.SingleValued) ∧
      (m.values (ascii "Host") = [r.host] ↔ r.host ≠ []) := by
  refine ⟨_, parseRequest_serialize h body, ?_, ?_⟩
  · exact lossless_readBack h body
  · rw [values_readBack h, if_pos rfl]
    by_cases hhost : r.host = []
    · simp [hhost, ascii]
    · simp [hhost]

lemma getRequest_incoming {host : Bytes} (h : 13 ∉ host) : (getRequest host).Incoming where
  target := by simp [getRequest, ascii]
  proto := by simp [getRequest, ascii]
  host := h
  host_removed := Finmap.lookup_empty _
  names k vs hvs := by simp [getRequest] at hvs
  values k vs hvs := by simp [getRequest] at hvs

theorem serialize_lossless_getRequest :
    ∃ m, parseRequest (serializeHTTPRequest .byCode (getRequest (ascii "h")) (ascii "a: b")) =
        some m ∧
      (Lossless (getRequest (ascii "h")) (ascii "a: b") m ↔
        (getRequest (ascii "h")).SingleValued) ∧
      (m.values (ascii "Host") = [ascii "h"] ↔ ascii "h" ≠ []) :=
  serialize_lossless_iff (getRequest_incoming (by simp [ascii])) .byCode (ascii "a: b")

def twoForwards : Request :=
  { getRequest (ascii "h") with
    header := (∅ : Table Bytes (List Bytes)).insert (ascii "X-Forwarded-For")
      [ascii "10.0.0.1", ascii "10.0.0.2"] }

lemma twoForwards_incoming : twoForwards.Incoming where
  target := by simp [twoForwards, getRequest, ascii]
  proto := by simp [twoForwards, getRequest, ascii]
  host := by simp [twoForwards, getRequest, ascii]
  host_removed := by simp [twoForwards, ascii]
  names k vs hvs := by
    rw [twoForwards, Table.lookup_insert] at hvs
    split_ifs at hvs with hk
    · subst hk
      simp [ascii]
    · simp at hvs
  values k vs hvs := by
    rw [twoForwards, Table.lookup_insert] at hvs
    split_ifs at hvs
    · obtain rfl := Option.some.inj hvs
      simp [ascii]
    · simp at hvs

theorem serialize_twoForwards : twoForwards.Incoming ∧
    ¬ ∃ m, parseRequest (serializeHTTPRequest .byCode twoForwards []) = some m ∧
      Lossless twoForwards [] m := by
  refine ⟨twoForwards_incoming, ?_⟩
  rintro ⟨m, hm, hlossless⟩
  obtain rfl := Option.some.inj ((parseRequest_serialize twoForwards_incoming []).symm.trans hm)
  have hsingle := (lossless_readBack twoForwards_incoming []).mp hlossless
  have hlen := hsingle (ascii "X-Forwarded-For") _ (Finmap.lookup_insert _)
  cases hlen

end OmniTun.Relay
