import OmniTun.Relay.HttpResponse

/-! The status of a response payload: whether the parser stays within its bounds, which codes it
hands to the writer and which the traffic log gets. -/

namespace OmniTun.Relay

open OmniTun.Foundation OmniTun.Foundation.Numerals

/-! Slices and indices as the parser takes them; `none` is a run-time panic. -/

def slice (s : Bytes) (low high : ℤ) : Option Bytes :=
  if 0 ≤ low ∧ low ≤ high ∧ high ≤ s.length then
    some ((s.drop low.toNat).take (high - low).toNat)
  else none

def byteAt (s : Bytes) (i : ℤ) : Option UInt8 := if 0 ≤ i then s[i.toNat]? else none

def checkedStatusCode (statusLine : Bytes) : Option ℤ := do
  if 12 < statusLine.length then
    let proto ← slice statusLine 0 5
    if proto = ascii "HTTP/" then
      let code ← slice statusLine 9 12
      return (atoi code).getD 200
  return 200

def checkedTrim (line : Bytes) : Option Bytes := do
  if 1 < line.length then
    let last ← byteAt line (line.length - 1)
    if last = 13 then
      return ← slice line 0 (line.length - 1)
  return line

def checkedHeader (line : Bytes) : Option (Option (Bytes × Bytes)) := do
  let colonIdx := (line.findIdx? (· == 58)).getD 0
  if 0 < colonIdx then
    let key ← slice line 0 colonIdx
    let val ← slice line (colonIdx + 1) line.length
    if 0 < val.length then
      let first ← byteAt val 0
      if first = 32 then
        let val ← slice val 1 val.length
        return some (canonicalMIMEHeaderKey key, val)
    return some (canonicalMIMEHeaderKey key, val)
  return none

def checkedHeaders (headers : Table Bytes Bytes) (bs : Bytes) :
    Option (Except ResponseError (Table Bytes Bytes × Bytes)) :=
  match h : readString bs with
  | none => some (.error .readHeader)
  | some (line, rest) =>
    have := readString_length h
    (slice line 0 (line.length - 1)).bind fun line =>
      if line = [13] ∨ line = [] then some (.ok (headers, rest))
      else
        (checkedTrim line).bind fun line =>
          (checkedHeader line).bind fun
            | none => checkedHeaders headers rest
            | some (key, val) => checkedHeaders (headers.insert key val) rest
termination_by bs.length

/-- The parser with every slice and index checked. -/
def checkedHTTPResponse (payload : Bytes) : Option (Except ResponseError (List WriterCall)) :=
  match readString payload with
  | none => some (.error .readStatusLine)
  | some (statusLine, rest) =>
    (checkedStatusCode statusLine).bind fun statusCode =>
      (checkedHeaders ∅ rest).bind fun
        | .error err => some (.error err)
        | .ok (headers, body) =>
          some (.ok ([.addHeaders headers, .writeHeader statusCode] ++
            if 0 < body.length then [.write body] else []))

lemma slice_eq {s : Bytes} {low high : ℕ} (hl : low ≤ high) (hh : high ≤ s.length) :
    slice s low high = some ((s.drop low).take (high - low)) := by
  rw [slice, if_pos ⟨by omega, by omega, by omega⟩]
  congr 2
  omega

lemma slice_take {s : Bytes} {n : ℕ} (h : n ≤ s.length) : slice s 0 n = some (s.take n) :=
  slice_eq (Nat.zero_le n) h

lemma slice_drop {s : Bytes} {n : ℕ} (h : n ≤ s.length) : slice s n s.length = some (s.drop n) := by
  rw [slice_eq h le_rfl, List.take_of_length_le (by simp)]

lemma slice_dropLast {s : Bytes} (h : s ≠ []) : slice s 0 (s.length - 1) = some s.dropLast := by
  have hpos : 0 < s.length := List.length_pos_of_ne_nil h
  have hcast : (s.length : ℤ) - 1 = (s.length - 1 : ℕ) := by omega
  rw [hcast, slice_take (by omega), List.dropLast_eq_take]

lemma checkedStatusCode_eq (statusLine : Bytes) :
    checkedStatusCode statusLine = some (responseStatusCode statusLine) := by
  by_cases hlen : 12 < statusLine.length
  · have hfive : slice statusLine 0 5 = some (statusLine.take 5) :=
      slice_take (n := 5) (by omega)
    have hcode : slice statusLine 9 12 = some ((statusLine.drop 9).take 3) := by
      have h := slice_eq (s := statusLine) (show 9 ≤ 12 by omega) (by omega)
      exact h
    by_cases hproto : statusLine.take 5 = ascii "HTTP/"
    · simp [checkedStatusCode, responseStatusCode, hlen, hfive, hcode, hproto]
    · simp [checkedStatusCode, responseStatusCode, hlen, hfive, hproto]
  · simp [checkedStatusCode, responseStatusCode, hlen]

lemma byteAt_last {s : Bytes} (h : s ≠ []) : byteAt s (s.length - 1) = s.getLast? := by
  have hpos : 0 < s.length := List.length_pos_of_ne_nil h
  have hcast : (s.length : ℤ) - 1 = (s.length - 1 : ℕ) := by omega
  rw [byteAt, hcast, if_pos (by omega), Int.toNat_natCast, List.getLast?_eq_getElem?]

lemma checkedTrim_eq {line : Bytes} (hempty : line ≠ []) (hcr : line ≠ [13]) :
    checkedTrim line = some (if line.getLast? = some 13 then line.dropLast else line) := by
  by_cases hlen : 1 < line.length
  · have hlast := byteAt_last hempty
    rw [List.getLast?_eq_some_getLast hempty] at hlast ⊢
    by_cases h : line.getLast hempty = 13
    · simp [checkedTrim, hlen, hlast, h, slice_dropLast hempty]
    · simp [checkedTrim, hlen, hlast, h]
  · -- a line of one byte is not a carriage return
    obtain ⟨c, rfl⟩ : ∃ c, line = [c] := by
      have hpos := List.length_pos_of_ne_nil hempty
      exact List.length_eq_one_iff.mp (by omega)
    have hc : c ≠ 13 := fun h => hcr (h ▸ rfl)
    simp [checkedTrim, hc]

lemma findIdx_colon {k : Bytes} (h : 58 ∉ k) (rest : Bytes) :
    (k ++ 58 :: rest).findIdx? (· == 58) = some k.length := by
  have hk : k.findIdx? (· == 58) = none := by
    rw [List.findIdx?_eq_none_iff]
    intro c hc
    exact beq_eq_false_iff_ne.mpr fun he => h (he ▸ hc)
  simp [List.findIdx?_append, List.findIdx?_cons, hk]

lemma checkedHeader_eq (line : Bytes) : checkedHeader line = some (responseHeader line) := by
  by_cases hcolon : 58 ∈ line
  · obtain ⟨k, val, rfl, hk⟩ := List.eq_append_cons_of_mem hcolon
    have hidx := findIdx_colon hk val
    obtain ⟨htake, hdrop⟩ := takeWhile_ne hk val
    have hkey : slice (k ++ 58 :: val) 0 k.length = some k := by
      rw [slice_take (by simp), List.take_left]
    have hval : slice (k ++ 58 :: val) (k.length + 1) (k ++ 58 :: val).length = some val := by
      have h := slice_drop (s := k ++ 58 :: val) (n := k.length + 1) (by simp)
      have hcut : (k ++ 58 :: val).drop (k.length + 1) = val := by
        rw [← List.drop_drop, List.drop_left]
        rfl
      rw [hcut] at h
      exact_mod_cast h
    have hone : slice val 1 val.length = some (val.drop 1) ∨ val = [] := by
      by_cases hempty : val = []
      · exact .inr hempty
      · have hpos := List.length_pos_of_ne_nil hempty
        exact .inl (slice_drop (n := 1) hpos)
    generalize k ++ 58 :: val = line at hidx htake hdrop hkey hval
    by_cases hempty : k = []
    · simp [checkedHeader, responseHeader, hidx, hdrop, htake, hempty]
    · have hpos := List.length_pos_of_ne_nil hempty
      cases val with
      | nil => simp [checkedHeader, responseHeader, hidx, hkey, hval, hdrop, htake, hempty, hpos]
      | cons d val =>
        have hfirst : byteAt (d :: val) 0 = some d := rfl
        simp only [reduceCtorEq, or_false] at hone
        by_cases hd : d = 32
        · subst hd
          have hrest : slice (32 :: val) 1 (val.length + 1) = some val := by simpa using hone
          simp [checkedHeader, responseHeader, hidx, hkey, hval, hdrop, htake, hempty, hpos, hfirst,
            hrest]
        · simp [checkedHeader, responseHeader, hidx, hkey, hval, hdrop, htake, hempty, hpos, hfirst,
            hd]
  · have hall : ∀ c ∈ line, (c != 58) = true := by
      intro c hc
      exact bne_iff_ne.mpr fun he => hcolon (he ▸ hc)
    have hidx : line.findIdx? (· == 58) = none := by
      rw [List.findIdx?_eq_none_iff]
      intro c hc
      simpa using hall c hc
    have hdrop : line.dropWhile (· != 58) = [] := List.dropWhile_eq_nil_iff.mpr hall
    simp [checkedHeader, responseHeader, hidx, hdrop]

lemma checkedHeaders_eq (headers : Table Bytes Bytes) (bs : Bytes) :
    checkedHeaders headers bs = some (readHeaders headers bs) := by
  induction bs using lines_induction generalizing headers with
  | last bs hbs =>
    rw [readHeaders_last headers hbs, checkedHeaders]
    split
    · rfl
    · next hr =>
      rw [readString_last hbs] at hr
      cases hr
  | line l rest hl ih =>
    rw [checkedHeaders]
    split
    · next hr =>
      rw [readString_line hl] at hr
      cases hr
    · next hr =>
      rw [readString_line hl] at hr
      obtain ⟨rfl, rfl⟩ := Prod.mk.inj (Option.some.inj hr)
      rw [slice_dropLast (by simp), Option.bind_some, List.dropLast_concat]
      by_cases hb : l = [] ∨ l = [13]
      · rw [if_pos hb.symm, readHeaders_blank headers hb]
      · obtain ⟨hempty, hcr⟩ := not_or.mp hb
        rw [if_neg fun h => hb h.symm, checkedTrim_eq hempty hcr, Option.bind_some,
          checkedHeader_eq, Option.bind_some, readHeaders_line headers hl hempty hcr]
        cases responseHeader (if l.getLast? = some 13 then l.dropLast else l) with
        | none => exact ih headers
        | some p => exact ih _

lemma checkedHTTPResponse_eq (payload : Bytes) :
    checkedHTTPResponse payload = some (deserializeHTTPResponse payload) := by
  rw [checkedHTTPResponse, deserializeHTTPResponse]
  cases readString payload with
  | none => rfl
  | some p =>
    obtain ⟨statusLine, rest⟩ := p
    simp only [checkedStatusCode_eq, checkedHeaders_eq, Option.bind_some]
    cases readHeaders ∅ rest <;> rfl

/-! Which payloads are accepted. -/

def HasBlankLine (bs : Bytes) : Prop := [10, 10] <:+: bs ∨ [10, 13, 10] <:+: bs

lemma hasBlankLine_cons {c : UInt8} (h : c ≠ 10) (bs : Bytes) :
    HasBlankLine (c :: bs) ↔ HasBlankLine bs := by
  have hne : ¬ [10, 10] <+: c :: bs ∧ ¬ [10, 13, 10] <+: c :: bs := by
    constructor <;> exact fun hp => h (List.cons_prefix_cons.mp hp).1.symm
  simp only [HasBlankLine, List.infix_cons_iff, hne.1, hne.2, false_or]

lemma hasBlankLine_append {l : Bytes} (h : 10 ∉ l) (bs : Bytes) :
    HasBlankLine (l ++ bs) ↔ HasBlankLine bs := by
  induction l with
  | nil => rfl
  | cons c l ih =>
    obtain ⟨hc, hl⟩ := not_or.mp (List.mem_cons.not.mp h)
    rw [List.cons_append, hasBlankLine_cons (Ne.symm hc), ih hl]

lemma hasBlankLine_feed (bs : Bytes) :
    HasBlankLine (10 :: bs) ↔ ([10] <+: bs ∨ [13, 10] <+: bs) ∨ HasBlankLine bs := by
  simp only [HasBlankLine, List.infix_cons_iff, List.cons_prefix_cons, true_and]
  tauto

lemma not_hasBlankLine {bs : Bytes} (h : 10 ∉ bs) : ¬ HasBlankLine (10 :: bs) := by
  rw [hasBlankLine_feed]
  rintro ((hp | hp) | (hi | hi))
  · exact h (hp.subset (by simp))
  · exact h (hp.subset (by simp))
  · exact h (hi.subset (by simp))
  · exact h (hi.subset (by simp))

lemma hasBlankLine_line {l : Bytes} (h : 10 ∉ l) (rest : Bytes) :
    HasBlankLine (10 :: l ++ 10 :: rest) ↔ (l = [] ∨ l = [13]) ∨ HasBlankLine (10 :: rest) := by
  rw [List.cons_append, hasBlankLine_feed, hasBlankLine_append h]
  apply or_congr_left
  -- a blank line starts where the line is empty but for a carriage return
  rcases l with - | ⟨c, - | ⟨d, l⟩⟩
  · simp
  · have hc : 10 ≠ c := fun he => h (by simp [he])
    simp [hc, eq_comm]
  · have hc : 10 ≠ c := fun he => h (by simp [he])
    have hd : 10 ≠ d := fun he => h (by simp [he])
    simp [hc, hd]

lemma readHeaders_ok_iff (headers : Table Bytes Bytes) (bs : Bytes) :
    (∃ r, readHeaders headers bs = .ok r) ↔ HasBlankLine (10 :: bs) := by
  induction bs using lines_induction generalizing headers with
  | last bs hbs => simp [readHeaders_last headers hbs, not_hasBlankLine hbs]
  | line l rest hl ih =>
    rw [← List.cons_append, hasBlankLine_line hl]
    by_cases hb : l = [] ∨ l = [13]
    · simp [readHeaders_blank headers hb, hb]
    · obtain ⟨hempty, hcr⟩ := not_or.mp hb
      rw [readHeaders_line headers hl hempty hcr, or_iff_right hb]
      cases responseHeader (if l.getLast? = some 13 then l.dropLast else l) with
      | none => exact ih headers
      | some p => exact ih _

lemma deserializeHTTPResponse_line {l : Bytes} (hl : 10 ∉ l) (rest : Bytes)
    {calls : List WriterCall} (h : deserializeHTTPResponse (l ++ 10 :: rest) = .ok calls) (code : ℤ) :
    .writeHeader code ∈ calls ↔ code = responseStatusCode (l ++ [10]) := by
  simp only [deserializeHTTPResponse, readString_line hl] at h
  cases hh : readHeaders ∅ rest with
  | error err =>
    rw [hh] at h
    cases h
  | ok p =>
    rw [hh] at h
    obtain rfl := Except.ok.inj h
    split_ifs <;> simp

lemma deserializeHTTPResponse_ok_iff {l : Bytes} (hl : 10 ∉ l) (rest : Bytes) :
    (∃ calls, deserializeHTTPResponse (l ++ 10 :: rest) = .ok calls) ↔
      HasBlankLine (l ++ 10 :: rest) := by
  rw [hasBlankLine_append hl, ← readHeaders_ok_iff ∅]
  simp only [deserializeHTTPResponse, readString_line hl]
  cases readHeaders ∅ rest with
  | error err => simp
  | ok p => simp

lemma deserializeHTTPResponse_last {payload : Bytes} (h : 10 ∉ payload) :
    deserializeHTTPResponse payload = .error .readStatusLine := by
  simp only [deserializeHTTPResponse, readString_last h]

lemma not_hasBlankLine_last {payload : Bytes} (h : 10 ∉ payload) : ¬ HasBlankLine payload := by
  rintro (hi | hi)
  · exact h (hi.subset (by simp))
  · exact h (hi.subset (by simp))

lemma deserializeHTTPResponse_iff (payload : Bytes) :
    (∃ calls, deserializeHTTPResponse payload = .ok calls) ↔ HasBlankLine payload := by
  by_cases hlf : 10 ∈ payload
  · obtain ⟨l, rest, rfl, hl⟩ := List.eq_append_cons_of_mem hlf
    exact deserializeHTTPResponse_ok_iff hl rest
  · simp [deserializeHTTPResponse_last hlf, not_hasBlankLine_last hlf]

lemma deserializeHTTPResponse_bare {l : Bytes} (hl : 10 ∉ l) :
    deserializeHTTPResponse (l ++ crlf ++ crlf) =
      .ok [.addHeaders ∅, .writeHeader (responseStatusCode (l ++ crlf))] := by
  have hline : 10 ∉ l ++ [13] := by simp [hl]
  have hread : readString (l ++ crlf ++ crlf) = some (l ++ crlf, [13] ++ 10 :: []) := by
    have h := readString_line hline ([13] ++ 10 :: [])
    simpa [crlf] using h
  have hblank : ([13] : Bytes) = [] ∨ ([13] : Bytes) = [13] := .inr rfl
  simp only [deserializeHTTPResponse, hread, readHeaders_blank ∅ hblank []]
  rfl

/-! The codes that reach the writer. -/

lemma isDigit_range {c : UInt8} (h : isDigit c = true) : 48 ≤ c.toNat ∧ c.toNat ≤ 57 := by
  simpa [isDigit] using h

lemma value_two {b c : UInt8} (hb : isDigit b = true) (hc : isDigit c = true) :
    value [b, c] < 100 := by
  have hbr := isDigit_range hb
  have hcr := isDigit_range hc
  simp only [value, List.foldl_cons, List.foldl_nil]
  omega

lemma value_three {a b c : UInt8} (ha : isDigit a = true) (hb : isDigit b = true)
    (hc : isDigit c = true) :
    value [a, b, c] < 1000 ∧ (100 ≤ value [a, b, c] ↔ a ≠ 48) := by
  have har := isDigit_range ha
  have hbr := isDigit_range hb
  have hcr := isDigit_range hc
  have h48 : a = 48 ↔ a.toNat = 48 := by
    rw [← UInt8.toNat_inj]
    rfl
  simp only [value, List.foldl_cons, List.foldl_nil, ne_eq, h48]
  omega

lemma splitSign_digit {a : UInt8} (hm : a ≠ 45) (hp : a ≠ 43) (s : Bytes) :
    splitSign (a :: s) = (false, a :: s) := by
  rw [splitSign]
  · exact fun s h => hm (List.cons.inj h).1
  · exact fun s h => hp (List.cons.inj h).1

lemma atoi_three (a b c : UInt8) {n : ℤ} (h : atoi [a, b, c] = some n) :
    (100 ≤ n ∧ n ≤ 999) ∨
      (a = 43 ∨ a = 45 ∨ a = 48) ∧ isDigit b = true ∧ isDigit c = true ∧ n < 100 := by
  by_cases hm : a = 45
  · subst hm
    have hsplit : splitSign [45, b, c] = (true, [b, c]) := rfl
    simp only [atoi, hsplit, Option.ite_none_right_eq_some, List.all_cons, List.all_nil,
      Bool.and_true, Bool.and_eq_true, if_true] at h
    obtain ⟨⟨-, ⟨hb, hc⟩, -⟩, hn⟩ := h
    have hn := Option.some.inj hn
    exact .inr ⟨by simp, hb, hc, by omega⟩
  by_cases hp : a = 43
  · subst hp
    have hsplit : splitSign [43, b, c] = (false, [b, c]) := rfl
    simp only [atoi, hsplit, Option.ite_none_right_eq_some, List.all_cons, List.all_nil,
      Bool.and_true, Bool.and_eq_true, Bool.false_eq_true, if_false] at h
    obtain ⟨⟨-, ⟨hb, hc⟩, -⟩, hn⟩ := h
    have hn := Option.some.inj hn
    have hv := value_two hb hc
    exact .inr ⟨by simp, hb, hc, by omega⟩
  · simp only [atoi, splitSign_digit hm hp, Option.ite_none_right_eq_some, List.all_cons,
      List.all_nil, Bool.and_true, Bool.and_eq_true, Bool.false_eq_true, if_false] at h
    obtain ⟨⟨-, ⟨ha, hb, hc⟩, -⟩, hn⟩ := h
    have hn := Option.some.inj hn
    obtain ⟨hlt, hge⟩ := value_three ha hb hc
    by_cases hz : a = 48
    · have hlow : ¬ 100 ≤ value [a, b, c] := fun h => hge.mp h hz
      exact .inr ⟨by simp [hz], hb, hc, by omega⟩
    · have hhigh := hge.mpr hz
      exact .inl ⟨by omega, by omega⟩

lemma atoi_low {a b c : UInt8} (ha : a = 43 ∨ a = 45 ∨ a = 48) (hb : isDigit b = true)
    (hc : isDigit c = true) : ∃ n, atoi [a, b, c] = some n ∧ n < 100 := by
  have hv := value_two hb hc
  rcases ha with rfl | rfl | rfl
  · have hsplit : splitSign [43, b, c] = (false, [b, c]) := rfl
    refine ⟨value [b, c], ?_, by omega⟩
    simp only [atoi, hsplit]
    exact if_pos ⟨by simp, by simp [hb, hc], by simp, by simp; omega⟩
  · have hsplit : splitSign [45, b, c] = (true, [b, c]) := rfl
    refine ⟨-value [b, c], ?_, by omega⟩
    simp only [atoi, hsplit]
    exact if_pos ⟨by simp, by simp [hb, hc], by simp; omega, by simp; omega⟩
  · have h48 : isDigit 48 = true := rfl
    obtain ⟨hlt, hge⟩ := value_three h48 hb hc
    have hlow : ¬ 100 ≤ value [48, b, c] := fun h => hge.mp h rfl
    refine ⟨value [48, b, c], ?_, by omega⟩
    simp only [atoi, splitSign_digit (show (48 : UInt8) ≠ 45 by decide) (by decide)]
    exact if_pos ⟨by simp, by simp [hb, hc, h48], by simp, by simp; omega⟩

def LowStatus (payload : Bytes) : Prop :=
  ∃ version a b c rest, version.length = 4 ∧ 10 ∉ version ∧
    payload = ascii "HTTP/" ++ version ++ a :: b :: c :: rest ∧
    (a = 43 ∨ a = 45 ∨ a = 48) ∧ isDigit b = true ∧ isDigit c = true

lemma ascii_proto : ascii "HTTP/" = [72, 84, 84, 80, 47] := by simp [ascii]

lemma cut_statusLine {l : Bytes} (h : 12 ≤ l.length) (hproto : l.take 5 = ascii "HTTP/") :
    ∃ version a b c rest, version.length = 4 ∧
      l = ascii "HTTP/" ++ version ++ a :: b :: c :: rest := by
  have hlen : 3 ≤ (l.drop 9).length := by
    rw [List.length_drop]
    omega
  obtain ⟨a, b, c, rest, habc⟩ : ∃ a b c rest, l.drop 9 = a :: b :: c :: rest := by
    match hd : l.drop 9 with
    | a :: b :: c :: rest => exact ⟨a, b, c, rest, rfl⟩
    | [] | [_] | [_, _] => simp [hd] at hlen
  refine ⟨(l.drop 5).take 4, a, b, c, rest, by simp; omega, ?_⟩
  calc l = l.take 5 ++ l.drop 5 := (List.take_append_drop 5 l).symm
    _ = l.take 5 ++ ((l.drop 5).take 4 ++ (l.drop 5).drop 4) :=
      congrArg (l.take 5 ++ ·) (List.take_append_drop 4 (l.drop 5)).symm
    _ = ascii "HTTP/" ++ (l.drop 5).take 4 ++ a :: b :: c :: rest := by
      rw [List.drop_drop, habc, hproto, List.append_assoc]

lemma responseStatusCode_cut {version : Bytes} (hversion : version.length = 4) (a b c d : UInt8)
    (rest : Bytes) :
    responseStatusCode (ascii "HTTP/" ++ version ++ a :: b :: c :: d :: rest) =
      (atoi [a, b, c]).getD 200 := by
  have hlen : (ascii "HTTP/" ++ version).length = 9 := by simp [ascii_proto, hversion]
  have hcut : (ascii "HTTP/" ++ version ++ a :: b :: c :: d :: rest).drop 9 =
      a :: b :: c :: d :: rest := by
    rw [← hlen, List.drop_left]
  have hfive : (ascii "HTTP/" ++ version ++ a :: b :: c :: d :: rest).take 5 = ascii "HTTP/" := by
    simp [ascii_proto]
  have hlong : 12 < (ascii "HTTP/" ++ version ++ a :: b :: c :: d :: rest).length := by
    rw [List.length_append, hlen]
    simp only [List.length_cons]
    omega
  rw [responseStatusCode, if_pos ⟨hlong, hfive⟩, hcut]
  rfl

lemma responseStatusCode_short {l : Bytes} (h : ¬ (12 ≤ l.length ∧ l.take 5 = ascii "HTTP/")) :
    responseStatusCode (l ++ [10]) = 200 := by
  apply if_neg
  rintro ⟨hlen, hfive⟩
  rw [List.length_append, List.length_singleton] at hlen
  have hl : 12 ≤ l.length := by omega
  rw [List.take_append_of_le_length (by omega)] at hfive
  exact h ⟨hl, hfive⟩

lemma isDigit_ne {c : UInt8} (h : isDigit c = true) : c ≠ 10 := by
  rintro rfl
  cases h

lemma prefix_line {p r l rest : Bytes} (hp : 10 ∉ p) (h : p ++ r = l ++ 10 :: rest) :
    ∃ s, l = p ++ s := by
  rcases List.append_eq_append_iff.mp h with ⟨s, hs, -⟩ | ⟨s, hs, hr⟩
  · exact ⟨s, hs⟩
  · cases s with
    | nil => exact ⟨[], by simpa using hs.symm⟩
    | cons d s =>
      have hd := (List.cons.inj hr).1
      exact absurd (by simp [hs, hd]) hp

lemma responseStatusCode_range {l : Bytes} (hl : 10 ∉ l) (rest : Bytes) :
    (100 ≤ responseStatusCode (l ++ [10]) ∧ responseStatusCode (l ++ [10]) ≤ 999) ↔
      ¬ LowStatus (l ++ 10 :: rest) := by
  constructor
  · rintro ⟨hlow, -⟩ ⟨version, a, b, c, r, hversion, hline, hp, ha, hb, hc⟩
    have hno : 10 ∉ ascii "HTTP/" ++ version ++ [a, b, c] := by
      have ha' : a ≠ 10 := by rcases ha with rfl | rfl | rfl <;> decide
      simp [ascii_proto, hline, ha'.symm, (isDigit_ne hb).symm, (isDigit_ne hc).symm]
    have hcut : ascii "HTTP/" ++ version ++ [a, b, c] ++ r = l ++ 10 :: rest := by simp [hp]
    obtain ⟨s, rfl⟩ := prefix_line hno hcut
    obtain ⟨n, hn, hlt⟩ := atoi_low ha hb hc
    obtain ⟨d, t, hd⟩ : ∃ d t, s ++ [10] = d :: t := List.exists_cons_of_ne_nil (by simp)
    have hcode := responseStatusCode_cut hversion a b c d t
    rw [hn, Option.getD_some] at hcode
    have hlong : ascii "HTTP/" ++ version ++ [a, b, c] ++ s ++ [10] =
        ascii "HTTP/" ++ version ++ a :: b :: c :: d :: t := by
      rw [List.append_assoc, hd]
      simp
    rw [hlong, hcode] at hlow
    omega
  · intro hlow
    by_cases h : 12 ≤ l.length ∧ l.take 5 = ascii "HTTP/"
    · obtain ⟨version, a, b, c, s, hversion, rfl⟩ := cut_statusLine h.1 h.2
      obtain ⟨d, t, hd⟩ : ∃ d t, s ++ [10] = d :: t := List.exists_cons_of_ne_nil (by simp)
      have hcode := responseStatusCode_cut hversion a b c d t
      have hcut : ascii "HTTP/" ++ version ++ a :: b :: c :: s ++ [10] =
          ascii "HTTP/" ++ version ++ a :: b :: c :: d :: t := by
        rw [← hd]
        simp
      rw [hcut, hcode]
      cases hn : atoi [a, b, c] with
      | none => simp
      | some n =>
        rcases atoi_three a b c hn with hrange | ⟨ha, hb, hc, -⟩
        · exact hrange
        · have hline : 10 ∉ version := fun hm => hl (by simp [hm])
          exact absurd ⟨version, a, b, c, s ++ 10 :: rest, hversion, hline, by simp, ha, hb, hc⟩ hlow
    · rw [responseStatusCode_short h]
      omega

def InRange (result : Except ResponseError (List WriterCall)) : Prop :=
  ∀ calls code, result = .ok calls → .writeHeader code ∈ calls → 100 ≤ code ∧ code ≤ 999

/-- An accepted payload whose status is a sign or a zero before two digits makes the writer
panic; no other payload does. -/
theorem checkedHTTPResponse_inRange (payload : Bytes) :
    (∃ result, checkedHTTPResponse payload = some result ∧ InRange result) ↔
      ¬ (HasBlankLine payload ∧ LowStatus payload) := by
  have hbounds : (∃ result, checkedHTTPResponse payload = some result ∧ InRange result) ↔
      InRange (deserializeHTTPResponse payload) := by
    simp [checkedHTTPResponse_eq]
  rw [hbounds]
  by_cases hlf : 10 ∈ payload
  · obtain ⟨l, rest, rfl, hl⟩ := List.eq_append_cons_of_mem hlf
    rw [not_and, ← deserializeHTTPResponse_ok_iff hl rest, ← responseStatusCode_range hl rest]
    constructor
    · rintro h ⟨calls, hcalls⟩
      exact h calls _ hcalls ((deserializeHTTPResponse_line hl rest hcalls _).mpr rfl)
    · intro h calls code hcalls hcode
      obtain rfl := (deserializeHTTPResponse_line hl rest hcalls code).mp hcode
      exact h ⟨calls, hcalls⟩
  · rw [deserializeHTTPResponse_last hlf]
    simp [InRange, not_hasBlankLine_last hlf]

def zeroStatus : Bytes := ascii "HTTP/1.1 099 X" ++ crlf ++ crlf

theorem checkedHTTPResponse_zeroStatus :
    ¬ ∃ result, checkedHTTPResponse zeroStatus = some result ∧ InRange result := by
  rintro ⟨result, hresult, hrange⟩
  have hcode : responseStatusCode (ascii "HTTP/1.1 099 X" ++ crlf) = 99 := by
    simp [responseStatusCode, ascii, crlf, atoi, splitSign, value, isDigit]
  rw [checkedHTTPResponse_eq, zeroStatus, deserializeHTTPResponse_bare (by simp [ascii]),
    hcode] at hresult
  obtain rfl := Option.some.inj hresult
  have hlow := (hrange _ 99 rfl (by simp)).1
  omega

/-! The status that the traffic log gets. -/

def spaceIdx (payload : Bytes) : Option ℕ := ((payload.drop 5).findIdx? (· == 32)).map (· + 5)

def parseResponseStatusCode (payload : Bytes) : ℤ :=
  if payload.length < 12 then 0
  else if 5 ≤ payload.length ∧ payload.take 5 ≠ ascii "HTTP/" then 0
  else
    match spaceIdx payload with
    | none => 0
    | some i =>
      if payload.length < i + 4 then 0
      else (atoi ((payload.drop (i + 1)).take 3)).getD 0

def fixedNumber (payload : Bytes) : Option ℤ :=
  if (payload.take 12).contains 10 then none else atoi ((payload.drop 9).take 3)

def spacedNumber (payload : Bytes) : Option ℤ :=
  (spaceIdx payload).bind fun i =>
    if payload.length < i + 4 then none else atoi ((payload.drop (i + 1)).take 3)

/-- The two places hold one number, or the number at one is what the other parser falls back to. -/
def StatusAgrees (payload : Bytes) : Prop :=
  12 ≤ payload.length ∧ payload.take 5 = ascii "HTTP/" ∧
    ((∃ n, fixedNumber payload = some n ∧ spacedNumber payload = some n) ∨
      (fixedNumber payload = none ∧ spacedNumber payload = some 200) ∨
      (fixedNumber payload = some 0 ∧ spacedNumber payload = none))

lemma statusAgrees_regular {payload : Bytes} (hlen : 12 ≤ payload.length)
    (hproto : payload.take 5 = ascii "HTTP/") (hspace : spaceIdx payload = some 8)
    (hline : (payload.take 12).contains 10 = false) :
    StatusAgrees payload ↔ ∃ n, atoi ((payload.drop 9).take 3) = some n := by
  have hshort : ¬ payload.length < 8 + 4 := by omega
  have hfixed : fixedNumber payload = atoi ((payload.drop 9).take 3) := by
    rw [fixedNumber, hline]
    rfl
  have hspaced : spacedNumber payload = atoi ((payload.drop 9).take 3) := by
    rw [spacedNumber, hspace, Option.bind_some, if_neg hshort]
  rw [StatusAgrees, hfixed, hspaced]
  cases atoi ((payload.drop 9).take 3) with
  | none => simp
  | some n => simp [hlen, hproto]

lemma parseResponseStatusCode_eq (payload : Bytes) :
    parseResponseStatusCode payload =
      if 12 ≤ payload.length ∧ payload.take 5 = ascii "HTTP/" then (spacedNumber payload).getD 0
      else 0 := by
  rw [parseResponseStatusCode, spacedNumber]
  by_cases hlen : payload.length < 12
  · rw [if_pos hlen, if_neg (by omega)]
  by_cases hproto : payload.take 5 = ascii "HTTP/"
  · rw [if_neg hlen, if_neg (by simp [hproto]), if_pos ⟨by omega, hproto⟩]
    cases spaceIdx payload with
    | none => rfl
    | some i =>
      simp only [Option.bind_some]
      split_ifs <;> rfl
  · rw [if_neg hlen, if_pos ⟨by omega, hproto⟩, if_neg fun h => hproto h.2]

lemma take_code {l : Bytes} (h : 12 ≤ l.length) (r : Bytes) :
    ((l ++ r).drop 9).take 3 = (l.drop 9).take 3 := by
  rw [List.drop_append_of_le_length (by omega), List.take_append_of_le_length (by simp; omega)]

lemma responseStatusCode_eq {l : Bytes} (hl : 10 ∉ l) (rest : Bytes) :
    responseStatusCode (l ++ [10]) =
      if (l ++ 10 :: rest).take 5 = ascii "HTTP/" then (fixedNumber (l ++ 10 :: rest)).getD 200
      else 200 := by
  by_cases hlen : 12 ≤ l.length
  · have hfive : (l ++ 10 :: rest).take 5 = l.take 5 := List.take_append_of_le_length (by omega)
    have htwelve : (l ++ 10 :: rest).take 12 = l.take 12 := List.take_append_of_le_length hlen
    have hno : (l.take 12).contains 10 = false := by
      simpa using fun hm => hl (List.take_subset 12 l hm)
    rw [fixedNumber, hfive, htwelve, hno]
    by_cases hproto : l.take 5 = ascii "HTTP/"
    · have hlong : 12 < (l ++ [10]).length := by simp; omega
      have hfive' : (l ++ [10]).take 5 = ascii "HTTP/" := by
        rw [List.take_append_of_le_length (by omega), hproto]
      rw [responseStatusCode, if_pos ⟨hlong, hfive'⟩, if_pos hproto, take_code hlen, take_code hlen]
      rfl
    · rw [if_neg hproto, responseStatusCode_short fun h => hproto h.2]
  · have hlf : ((l ++ 10 :: rest).take 12).contains 10 = true := by
      have hcut : (l ++ 10 :: rest).take 12 = l ++ 10 :: rest.take (11 - l.length) := by
        obtain ⟨k, hk⟩ : ∃ k, 12 = l.length + (k + 1) := ⟨11 - l.length, by omega⟩
        have hk' : 11 - l.length = k := by omega
        rw [hk', hk, List.take_length_add_append, List.take_succ_cons]
      simp [hcut]
    rw [fixedNumber, if_pos hlf, responseStatusCode_short fun h => hlen h.1]
    split_ifs <;> rfl

/-- The code in the traffic log is the one on the wire if and only if the two places that are
read agree. -/
theorem parseResponseStatusCode_agrees {payload : Bytes} {calls : List WriterCall}
    (h : deserializeHTTPResponse payload = .ok calls) :
    (∀ code, .writeHeader code ∈ calls → parseResponseStatusCode payload = code) ↔
      StatusAgrees payload := by
  have hlf : 10 ∈ payload := by
    by_contra hlf
    rw [deserializeHTTPResponse_last hlf] at h
    cases h
  obtain ⟨l, rest, rfl, hl⟩ := List.eq_append_cons_of_mem hlf
  have hcode := deserializeHTTPResponse_line hl rest h
  simp only [hcode, forall_eq]
  rw [parseResponseStatusCode_eq, responseStatusCode_eq hl rest, StatusAgrees]
  generalize l ++ 10 :: rest = payload at hlf
  by_cases hproto : payload.take 5 = ascii "HTTP/"
  · by_cases hlen : 12 ≤ payload.length
    · rw [if_pos ⟨hlen, hproto⟩, if_pos hproto]
      cases fixedNumber payload with
      | none => cases spacedNumber payload <;> simp [hlen, hproto]
      | some m =>
        cases spacedNumber payload with
        | none => simp [hlen, hproto, eq_comm]
        | some n => simp [hlen, hproto, eq_comm]
    · -- the line feed is among so few bytes
      have hfixed : fixedNumber payload = none := by
        rw [fixedNumber, List.take_of_length_le (by omega), if_pos (by simpa using hlf)]
      simp [hlen, hproto, hfixed]
  · simp [hproto]

def okStatus : Bytes := ascii "HTTP/1.1 200 OK" ++ crlf ++ crlf

theorem parseResponseStatusCode_agrees_okStatus : StatusAgrees okStatus := by
  have hcode : responseStatusCode (ascii "HTTP/1.1 200 OK" ++ crlf) = 200 := by
    simp [responseStatusCode, ascii, crlf, atoi, splitSign, value, isDigit]
  have hok := deserializeHTTPResponse_bare (show 10 ∉ ascii "HTTP/1.1 200 OK" by simp [ascii])
  rw [hcode] at hok
  apply (parseResponseStatusCode_agrees hok).mp
  intro code hmem
  obtain rfl : code = 200 := by simpa using hmem
  simp [parseResponseStatusCode, spaceIdx, ascii, crlf, atoi, splitSign, value, isDigit,
    List.findIdx?_cons]

def noMinorVersion : Bytes := ascii "HTTP/2 404 Not Found" ++ crlf ++ crlf

theorem parseResponseStatusCode_noMinorVersion :
    ¬ ∀ payload calls code, deserializeHTTPResponse payload = .ok calls →
      .writeHeader code ∈ calls → parseResponseStatusCode payload = code := by
  intro h
  have hcode : responseStatusCode (ascii "HTTP/2 404 Not Found" ++ crlf) = 200 := by
    simp [responseStatusCode, ascii, crlf, atoi, splitSign, isDigit]
  have hok := deserializeHTTPResponse_bare (show 10 ∉ ascii "HTTP/2 404 Not Found" by simp [ascii])
  rw [hcode] at hok
  have heq := h noMinorVersion _ 200 hok (by simp)
  have hlog : parseResponseStatusCode noMinorVersion = 404 := by
    simp [noMinorVersion, parseResponseStatusCode, spaceIdx, ascii, crlf, atoi, splitSign, value,
      isDigit, List.findIdx?_cons]
  rw [hlog] at heq
  omega

end OmniTun.Relay
