import OmniTun.Relay.HttpMessage

/-! What the relay makes of an agent's response: the lines of its header section, the writer that
receives it, and the printer on the agent's side. -/

namespace OmniTun.Relay

open OmniTun.Foundation OmniTun.Foundation.Numerals

def statusTexts : List (ℤ × String) :=
  [(100, "Continue"), (101, "Switching Protocols"), (102, "Processing"), (103, "Early Hints"),
   (200, "OK"), (201, "Created"), (202, "Accepted"), (203, "Non-Authoritative Information"),
   (204, "No Content"), (205, "Reset Content"), (206, "Partial Content"), (207, "Multi-Status"),
   (208, "Already Reported"), (226, "IM Used"), (300, "Multiple Choices"),
   (301, "Moved Permanently"), (302, "Found"), (303, "See Other"), (304, "Not Modified"),
   (305, "Use Proxy"), (307, "Temporary Redirect"), (308, "Permanent Redirect"),
   (400, "Bad Request"), (401, "Unauthorized"), (402, "Payment Required"), (403, "Forbidden"),
   (404, "Not Found"), (405, "Method Not Allowed"), (406, "Not Acceptable"),
   (407, "Proxy Authentication Required"), (408, "Request Timeout"), (409, "Conflict"),
   (410, "Gone"), (411, "Length Required"), (412, "Precondition Failed"),
   (413, "Request Entity Too Large"), (414, "Request URI Too Long"),
   (415, "Unsupported Media Type"), (416, "Requested Range Not Satisfiable"),
   (417, "Expectation Failed"), (418, "I'm a teapot"), (421, "Misdirected Request"),
   (422, "Unprocessable Entity"), (423, "Locked"), (424, "Failed Dependency"),
   (425, "Too Early"), (426, "Upgrade Required"), (428, "Precondition Required"),
   (429, "Too Many Requests"), (431, "Request Header Fields Too Large"),
   (451, "Unavailable For Legal Reasons"), (500, "Internal Server Error"),
   (501, "Not Implemented"), (502, "Bad Gateway"), (503, "Service Unavailable"),
   (504, "Gateway Timeout"), (505, "HTTP Version Not Supported"),
   (506, "Variant Also Negotiates"), (507, "Insufficient Storage"), (508, "Loop Detected"),
   (510, "Not Extended"), (511, "Network Authentication Required")]

def statusText (code : ℤ) : Bytes := ascii ((statusTexts.lookup code).getD "")

lemma statusText_line (code : ℤ) : 10 ∉ statusText code := by
  have hall : (statusTexts.all fun p => !(ascii p.2).contains 10) = true := by decide +kernel
  rw [statusText]
  cases h : statusTexts.lookup code with
  | none => simp [ascii]
  | some s =>
    obtain ⟨l, r, he, -⟩ := List.lookup_eq_some_iff.mp h
    simpa using List.all_eq_true.mp hall (code, s) (by simp [he])

def serializeHTTPResponse (order : Table.RangeOrder Bytes) (statusCode : ℤ)
    (headers : Table Bytes (List Bytes)) (body : Bytes) : Bytes :=
  ascii "HTTP/1.1 " ++ intNumeral statusCode ++ ascii " " ++ statusText statusCode ++ crlf ++
    (order.entries headers).flatMap (fun (k, vals) => vals.flatMap fun v => headerLine k v) ++
    crlf ++ body

/-! The lines of a message. -/

lemma readString_line {line : Bytes} (h : 10 ∉ line) (rest : Bytes) :
    readString (line ++ 10 :: rest) = some (line ++ [10], rest) := by
  induction line with
  | nil => rfl
  | cons c line ih =>
    have hc : c ≠ 10 := fun hc => h (hc ▸ List.mem_cons_self)
    have hline : 10 ∉ line := fun hm => h (List.mem_cons_of_mem _ hm)
    simp [readString, hc, ih hline]

lemma readString_some {bs line rest : Bytes} (h : readString bs = some (line, rest)) :
    ∃ l, 10 ∉ l ∧ line = l ++ [10] ∧ bs = l ++ 10 :: rest := by
  induction bs generalizing line with
  | nil => cases h
  | cons c bs ih =>
    simp only [readString] at h
    split_ifs at h with hc
    · obtain ⟨rfl, rfl⟩ := Prod.mk.inj (Option.some.inj h)
      exact ⟨[], by simp, by simp [hc], by simp [hc]⟩
    · obtain ⟨⟨line', rest'⟩, hr, he⟩ := Option.map_eq_some_iff.mp h
      obtain ⟨rfl, rfl⟩ := Prod.mk.inj he
      obtain ⟨l, hl, rfl, rfl⟩ := ih hr
      have hcl : 10 ∉ c :: l := by
        intro hm
        rcases List.mem_cons.mp hm with he | hm
        · exact hc he.symm
        · exact hl hm
      exact ⟨c :: l, hcl, rfl, rfl⟩

@[elab_as_elim] lemma lines_induction {P : Bytes → Prop} (last : ∀ bs, 10 ∉ bs → P bs)
    (line : ∀ l rest, 10 ∉ l → P rest → P (l ++ 10 :: rest)) (bs : Bytes) : P bs := by
  induction hn : bs.length using Nat.strong_induction_on generalizing bs with
  | _ n ih =>
    by_cases h : 10 ∈ bs
    · obtain ⟨l, rest, rfl, hl⟩ := List.eq_append_cons_of_mem h
      have hlt : rest.length < n := by simp [← hn]; omega
      exact line l rest hl (ih rest.length hlt rest rfl)
    · exact last bs h

lemma readString_last {bs : Bytes} (h : 10 ∉ bs) : readString bs = none := by
  cases hr : readString bs with
  | none => rfl
  | some p =>
    obtain ⟨l, -, -, rfl⟩ := readString_some hr
    simp at h

lemma readHeaders_last (headers : Table Bytes Bytes) {bs : Bytes} (h : 10 ∉ bs) :
    readHeaders headers bs = .error .readHeader := by
  rw [readHeaders]
  split
  · rfl
  · next hr =>
    rw [readString_last h] at hr
    cases hr

lemma readHeaders_blank (headers : Table Bytes Bytes) {line : Bytes} (h : line = [] ∨ line = [13])
    (body : Bytes) : readHeaders headers (line ++ 10 :: body) = .ok (headers, body) := by
  have hline : 10 ∉ line := by rcases h with rfl | rfl <;> decide
  rw [readHeaders]
  split
  · next hr =>
    rw [readString_line hline] at hr
    cases hr
  · next hr =>
    rw [readString_line hline] at hr
    obtain ⟨rfl, rfl⟩ := Prod.mk.inj (Option.some.inj hr)
    simp [h.symm]

lemma readHeaders_line (headers : Table Bytes Bytes) {line : Bytes} (hline : 10 ∉ line)
    (hempty : line ≠ []) (hcr : line ≠ [13]) (rest : Bytes) :
    readHeaders headers (line ++ 10 :: rest) =
      match responseHeader (if line.getLast? = some 13 then line.dropLast else line) with
      | none => readHeaders headers rest
      | some (key, val) => readHeaders (headers.insert key val) rest := by
  rw [readHeaders]
  split
  · next h =>
    rw [readString_line hline] at h
    cases h
  · next h =>
    rw [readString_line hline] at h
    obtain ⟨rfl, rfl⟩ := Prod.mk.inj (Option.some.inj h)
    cases hheader : responseHeader (if line.getLast? = some 13 then line.dropLast else line) with
    | none => simp only [List.dropLast_concat, hempty, hcr, or_self, if_false, hheader]
    | some header => simp only [List.dropLast_concat, hempty, hcr, or_self, if_false, hheader]

lemma takeWhile_ne {k : Bytes} {c : UInt8} (h : c ∉ k) (rest : Bytes) :
    (k ++ c :: rest).takeWhile (· != c) = k ∧ (k ++ c :: rest).dropWhile (· != c) = c :: rest := by
  have hk : ∀ b ∈ k, (b != c) = true := fun b hb => bne_iff_ne.mpr fun he => h (he ▸ hb)
  rw [List.takeWhile_append_of_pos hk, List.dropWhile_append_of_pos hk]
  simp

lemma responseHeader_line {k v : Bytes} (hk : k ≠ []) (hcolon : 58 ∉ k) :
    responseHeader (k ++ 58 :: 32 :: v) = some (canonicalMIMEHeaderKey k, v) := by
  obtain ⟨htake, hdrop⟩ := takeWhile_ne hcolon (32 :: v)
  simp [responseHeader, htake, hdrop, hk]

lemma readHeaders_headerLine (headers : Table Bytes Bytes) {k v : Bytes} (hk : k ≠ [])
    (hcolon : 58 ∉ k) (hlf : 10 ∉ k) (hv : 10 ∉ v) (rest : Bytes) :
    readHeaders headers (headerLine k v ++ rest) =
      readHeaders (headers.insert (canonicalMIMEHeaderKey k) v) rest := by
  have hline : headerLine k v ++ rest = (k ++ 58 :: 32 :: v ++ [13]) ++ 10 :: rest := by
    simp [headerLine, crlf, ascii]
  have hlf' : 10 ∉ k ++ 58 :: 32 :: v ++ [13] := by simp [hlf, hv]
  rw [hline, readHeaders_line headers hlf' (by simp) (by simp [List.append_eq_singleton_iff]),
    List.getLast?_concat, if_pos rfl, List.dropLast_concat, responseHeader_line hk hcolon]

/-! Canonical header names. -/

def capitalised (upper : Bool) (c : UInt8) : UInt8 :=
  if upper && 97 ≤ c && c ≤ 122 then c - 32
  else if !upper && 65 ≤ c && c ≤ 90 then c + 32
  else c

lemma capitalise_cons (upper : Bool) (c : UInt8) (cs : Bytes) :
    canonicalMIMEHeaderKey.capitalise upper (c :: cs) =
      capitalised upper c :: canonicalMIMEHeaderKey.capitalise (capitalised upper c == 45) cs :=
  rfl

lemma capitalised_spec (upper : Bool) (c : UInt8) :
    capitalised upper (capitalised upper c) = capitalised upper c ∧
      isTokenByte (capitalised upper c) = isTokenByte c ∧ (capitalised upper c = 10 ↔ c = 10) := by
  have hall : ∀ u : Bool, ∀ i : Fin 256, let c := UInt8.ofNat i.val
      capitalised u (capitalised u c) = capitalised u c ∧
        isTokenByte (capitalised u c) = isTokenByte c ∧ (capitalised u c = 10 ↔ c = 10) := by
    decide +kernel
  have hc := hall upper ⟨c.toNat, c.toNat_lt⟩
  simpa using hc

lemma capitalise_spec (upper : Bool) (k : Bytes) :
    canonicalMIMEHeaderKey.capitalise upper (canonicalMIMEHeaderKey.capitalise upper k) =
        canonicalMIMEHeaderKey.capitalise upper k ∧
      (canonicalMIMEHeaderKey.capitalise upper k).all isTokenByte = k.all isTokenByte ∧
      (10 ∈ canonicalMIMEHeaderKey.capitalise upper k ↔ 10 ∈ k) := by
  induction k generalizing upper with
  | nil => exact ⟨rfl, rfl, Iff.rfl⟩
  | cons c cs ih =>
    obtain ⟨hidem, htoken, hlf⟩ := capitalised_spec upper c
    obtain ⟨ihidem, ihtoken, ihlf⟩ := ih (capitalised upper c == 45)
    rw [capitalise_cons]
    refine ⟨?_, ?_, ?_⟩
    · rw [capitalise_cons, hidem, ihidem]
    · simp only [List.all_cons, htoken, ihtoken]
    · simp only [List.mem_cons, ihlf, eq_comm (a := (10 : UInt8)), hlf]

lemma canonical_idem (k : Bytes) :
    canonicalMIMEHeaderKey (canonicalMIMEHeaderKey k) = canonicalMIMEHeaderKey k := by
  obtain ⟨hidem, htoken, -⟩ := capitalise_spec true k
  by_cases h : k.all isTokenByte = true
  · simp only [canonicalMIMEHeaderKey, h, if_true, htoken, hidem]
  · simp only [canonicalMIMEHeaderKey, h, Bool.false_eq_true, if_false]

lemma canonical_line (k : Bytes) : 10 ∈ canonicalMIMEHeaderKey k ↔ 10 ∈ k := by
  obtain ⟨-, -, hlf⟩ := capitalise_spec true k
  rw [canonicalMIMEHeaderKey]
  split_ifs
  · exact hlf
  · exact Iff.rfl

lemma canonical_ne_nil {k : Bytes} (h : k ≠ []) : canonicalMIMEHeaderKey k ≠ [] := by
  obtain ⟨c, cs, rfl⟩ := List.exists_cons_of_ne_nil h
  rw [canonicalMIMEHeaderKey]
  split_ifs
  · rw [capitalise_cons]
    exact List.cons_ne_nil _ _
  · exact h

def LineName (k : Bytes) : Prop := canonicalMIMEHeaderKey k = k ∧ k ≠ [] ∧ 10 ∉ k

lemma responseHeader_lineName {line k v : Bytes} (hline : 10 ∉ line)
    (h : responseHeader line = some (k, v)) : LineName k := by
  simp only [responseHeader] at h
  split at h
  · cases h
  · rw [Option.ite_none_left_eq_some] at h
    obtain ⟨hk, h⟩ := h
    obtain ⟨rfl, -⟩ := Prod.mk.inj (Option.some.inj h)
    refine ⟨canonical_idem _, canonical_ne_nil hk, fun hm => ?_⟩
    exact hline ((List.takeWhile_sublist _).subset ((canonical_line _).mp hm))

lemma readHeaders_lineName {headers headers' : Table Bytes Bytes} {bs body : Bytes}
    (hn : ∀ k v, headers.lookup k = some v → LineName k)
    (h : readHeaders headers bs = .ok (headers', body)) :
    ∀ k v, headers'.lookup k = some v → LineName k := by
  induction bs using lines_induction generalizing headers with
  | last bs hbs =>
    rw [readHeaders_last headers hbs] at h
    cases h
  | line l rest hl ih =>
    by_cases hb : l = [] ∨ l = [13]
    · rw [readHeaders_blank headers hb] at h
      obtain ⟨rfl, -⟩ := Prod.mk.inj (Except.ok.inj h)
      exact hn
    · obtain ⟨hempty, hcr⟩ := not_or.mp hb
      rw [readHeaders_line headers hl hempty hcr] at h
      have hline : 10 ∉ if l.getLast? = some 13 then l.dropLast else l := by
        split_ifs
        · exact fun hm => hl (List.dropLast_subset l hm)
        · exact hl
      cases hh : responseHeader (if l.getLast? = some 13 then l.dropLast else l) with
      | none =>
        rw [hh] at h
        exact ih hn h
      | some p =>
        obtain ⟨key, val⟩ := p
        rw [hh] at h
        apply ih _ h
        intro k v hk
        rw [Table.lookup_insert] at hk
        split_ifs at hk with he
        · exact he ▸ responseHeader_lineName hline hh
        · exact hn k v hk

/-! What a response writer has received. -/

structure ResponseWriter where
  header : Table Bytes (List Bytes)
  statusCode : Option ℤ
  body : Bytes

def addHeader (header : Table Bytes (List Bytes)) (k v : Bytes) : Table Bytes (List Bytes) :=
  let key := canonicalMIMEHeaderKey k
  header.insert key ((header.lookup key).getD [] ++ [v])

def addHeaders (header : Table Bytes (List Bytes)) (entries : List (Bytes × Bytes)) :
    Table Bytes (List Bytes) :=
  entries.foldl (fun header (k, v) => addHeader header k v) header

namespace ResponseWriter

def empty : ResponseWriter := { header := ∅, statusCode := none, body := [] }

def writeHeader (w : ResponseWriter) (code : ℤ) : ResponseWriter :=
  { w with statusCode := some (w.statusCode.getD code) }

def write (w : ResponseWriter) (body : Bytes) : ResponseWriter :=
  { w.writeHeader 200 with body := w.body ++ body }

def call (order : Table.RangeOrder Bytes) (w : ResponseWriter) : WriterCall → ResponseWriter
  | .addHeaders headers => { w with header := addHeaders w.header (order.entries headers) }
  | .writeHeader code => w.writeHeader code
  | .write body => w.write body
  | .error message code =>
    let header := (w.header.erase (ascii "Content-Length")).insert (ascii "Content-Type")
      [ascii "text/plain; charset=utf-8"]
    let w := { w with header := header.insert (ascii "X-Content-Type-Options") [ascii "nosniff"] }
    (w.writeHeader code).write (message ++ [10])

end ResponseWriter

def writtenResponse (order : Table.RangeOrder Bytes) (payload : Bytes) : Option ResponseWriter :=
  match deserializeHTTPResponse payload with
  | .error _ => none
  | .ok calls => some (calls.foldl (ResponseWriter.call order) .empty)

lemma addHeaders_cons (header : Table Bytes (List Bytes)) (k v : Bytes)
    (entries : List (Bytes × Bytes)) :
    addHeaders header ((k, v) :: entries) = addHeaders (addHeader header k v) entries := rfl

lemma lookup_addHeaders {entries : List (Bytes × Bytes)} {header : Table Bytes (List Bytes)}
    (hname : ∀ p ∈ entries, canonicalMIMEHeaderKey p.1 = p.1)
    (hnodup : (entries.map Prod.fst).Nodup) (hnew : ∀ p ∈ entries, header.lookup p.1 = none)
    (k : Bytes) (vs : List Bytes) :
    (addHeaders header entries).lookup k = some vs ↔
      (∃ v, (k, v) ∈ entries ∧ vs = [v]) ∨ header.lookup k = some vs := by
  induction entries generalizing header with
  | nil => simp [addHeaders]
  | cons p entries ih =>
    obtain ⟨key, v⟩ := p
    have hkey : canonicalMIMEHeaderKey key = key := hname (key, v) List.mem_cons_self
    have hnone : header.lookup key = none := hnew (key, v) List.mem_cons_self
    obtain ⟨hnot, hnodup⟩ := List.nodup_cons.mp hnodup
    have hadd : addHeader header key v = header.insert key [v] := by
      rw [addHeader, hkey, hnone]
      rfl
    have hne : ∀ p ∈ entries, p.1 ≠ key := by
      intro p hp he
      exact hnot (List.mem_map.mpr ⟨p, hp, he⟩)
    have hnew' : ∀ p ∈ entries, (header.insert key [v]).lookup p.1 = none := by
      intro p hp
      exact Table.lookup_insert_eq_none (hnew p (List.mem_cons_of_mem _ hp)) (hne p hp)
    have hstep := ih (fun p hp => hname p (List.mem_cons_of_mem _ hp)) hnodup hnew'
    rw [addHeaders_cons, hadd, hstep, Table.lookup_insert]
    by_cases hk : k = key
    · subst hk
      have hother : ∀ w, (k, w) ∉ entries := fun w hw => hne _ hw rfl
      simp [hother, hnone, eq_comm]
    · simp [hk]

lemma lookup_addHeaders_entries (order : Table.RangeOrder Bytes) {headers : Table Bytes Bytes}
    (hname : ∀ k v, headers.lookup k = some v → LineName k) (k : Bytes) (vs : List Bytes) :
    (addHeaders ∅ (order.entries headers)).lookup k = some vs ↔
      ∃ v, headers.lookup k = some v ∧ vs = [v] := by
  rw [lookup_addHeaders _ (order.nodup_keys headers) fun _ _ => Finmap.lookup_empty _]
  · simp [order.mem_entries]
  · rintro ⟨k, v⟩ hp
    exact (hname k v ((order.mem_entries headers k v).mp hp)).1

lemma readHeaders_headerLines {entries : List (Bytes × Bytes)}
    (hname : ∀ p ∈ entries, LineName p.1 ∧ 58 ∉ p.1 ∧ 10 ∉ p.2) (headers : Table Bytes Bytes)
    (body : Bytes) :
    readHeaders headers (entries.flatMap (fun (k, v) => headerLine k v) ++ crlf ++ body) =
      .ok ((entries.map some).foldl Table.write headers, body) := by
  induction entries generalizing headers with
  | nil =>
    have hblank : ([13] : Bytes) = [] ∨ ([13] : Bytes) = [13] := .inr rfl
    exact readHeaders_blank headers hblank body
  | cons p entries ih =>
    obtain ⟨k, v⟩ := p
    obtain ⟨⟨hcanon, hk, hlf⟩, hcolon, hv⟩ := hname (k, v) List.mem_cons_self
    have hrest := ih (fun p hp => hname p (List.mem_cons_of_mem _ hp)) (headers.insert k v)
    rw [List.flatMap_cons, List.append_assoc, List.append_assoc,
      readHeaders_headerLine headers hk hcolon hlf hv, hcanon, ← List.append_assoc]
    exact hrest

end OmniTun.Relay
