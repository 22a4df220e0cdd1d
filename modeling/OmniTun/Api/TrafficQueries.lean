import OmniTun.Api.TrafficLogs
import OmniTun.Foundation.Numerals
import OmniTun.Foundation.StringLiterals

/-! The query texts over the traffic events: what ClickHouse reads in them, and in which format it
is asked to answer. -/

namespace OmniTun.Api.TrafficQueries

open OmniTun.Foundation Numerals StringLiterals

def replaceAll (s : Bytes) (old : UInt8) (new : Bytes) : Bytes :=
  s.flatMap fun b => if b = old then new else [b]

def escapeValue (s : Bytes) : Bytes :=
  if s = [] then [] else replaceAll (replaceAll s 92 [92, 92]) 39 [39, 39]

/-- A time in the layout `2006-01-02 15:04:05.999`: digits, hyphens, colons, a blank and a point. -/
structure TimeLayout where
  format : ℤ → Bytes
  bytes : ∀ t, ∀ b ∈ format t, isDigit b = true ∨ b ∈ ascii "- :."

def zeroTime : ℤ := -62135596800 * 10 ^ 9

def insertColumns : Bytes :=
  ascii ("INSERT INTO traffic_events (timestamp, organization_id, tunnel_id, connection_id, " ++
    "protocol, direction, bytes, method, path, status_code, client_ip, client_country, " ++
    "duration_ms, error) VALUES ")

def eventTime (now : ℤ) (event : TrafficEvent) : ℤ :=
  if event.timestamp = zeroTime then now else event.timestamp

def logStatement (layout : TimeLayout) (now : ℤ) (event : TrafficEvent) : Bytes :=
  insertColumns ++ ascii "('" ++ layout.format (eventTime now event) ++
    ascii "','" ++ escapeValue event.organizationID ++
    ascii "','" ++ escapeValue event.tunnelID ++
    ascii "','" ++ escapeValue event.connectionID ++
    ascii "','" ++ escapeValue event.protocol ++
    ascii "','" ++ escapeValue event.direction ++
    ascii "'," ++ intNumeral event.bytes ++
    ascii ",'" ++ escapeValue event.method ++
    ascii "','" ++ escapeValue event.path ++
    ascii "'," ++ intNumeral event.statusCode ++
    ascii ",'" ++ escapeValue event.clientIP ++
    ascii "','" ++ escapeValue event.clientCountry ++
    ascii "'," ++ intNumeral event.durationMs ++
    ascii ",'" ++ escapeValue event.error ++ ascii "')"

def queryOrder : Bytes := ascii "' ORDER BY timestamp DESC LIMIT "

def queryLogs (tunnelID : Bytes) (limit : ℤ) : Bytes :=
  logsSelect ++ escapeValue tunnelID ++ queryOrder ++ intNumeral limit

section Tokens

def selectColumns : Bytes :=
  ascii ("SELECT timestamp, tunnel_id, connection_id, protocol, direction, bytes, method, path, " ++
    "status_code, client_ip, client_country, duration_ms, error FROM traffic_events " ++
    "WHERE tunnel_id")

def orderWords : Bytes := ascii " ORDER BY timestamp DESC LIMIT"

def comma : Token := .symbol 44

def logTokens (layout : TimeLayout) (now : ℤ) (event : TrafficEvent) : List Token :=
  outer (insertColumns ++ [40]) ++
    [.literal (layout.format (eventTime now event)), comma, .literal event.organizationID, comma,
      .literal event.tunnelID, comma, .literal event.connectionID, comma, .literal event.protocol,
      comma, .literal event.direction, comma, .word (intNumeral event.bytes), comma,
      .literal event.method, comma, .literal event.path, comma, .word (intNumeral event.statusCode),
      comma, .literal event.clientIP, comma, .literal event.clientCountry, comma,
      .word (intNumeral event.durationMs), comma, .literal event.error, .symbol 41]

def selectTokens (tunnelID : Bytes) (limit : ℤ) : List Token :=
  outer (selectColumns ++ [61]) ++ .literal tunnelID ::
    outer (orderWords ++ [32]) ++ [.word (intNumeral limit)]

end Tokens

def Formatted (query : Bytes) : Prop :=
  ClickHouse.fullQuery query = query ++ ascii " FORMAT JSONEachRow"

/-- Every value is one literal, or one number, with the value as its content, at its own place among
tokens that are always the same; and the queries are answered in the format asked for. -/
structure Intact (esc : Escapes) (layout : TimeLayout) (now : ℤ) (event : TrafficEvent)
    (tunnelID : Bytes) (limit : ℤ) : Prop where
  log : tokens esc (logStatement layout now event) = some (logTokens layout now event)
  query : tokens esc (queryLogs tunnelID limit) = some (selectTokens tunnelID limit)
  handler : tokens esc (logsQuery tunnelID) = some (selectTokens tunnelID 20)
  queryFormat : Formatted (queryLogs tunnelID limit)
  handlerFormat : Formatted (logsQuery tunnelID)

def NamesFormat (tunnelID : Bytes) : Prop :=
  ascii "FORMAT" <:+: tunnelID.map ClickHouse.toUpper

section Reading

variable {esc : Escapes} {layout : TimeLayout} {now : ℤ} {event : TrafficEvent} {c s : Bytes}

lemma escapeValue_eq (s : Bytes) : escapeValue s = escape s := by
  have hbyte : ∀ b : UInt8, replaceAll (if b = 92 then [92, 92] else [b]) 39 [39, 39] =
      if b = 39 ∨ b = 92 then [b, b] else [b] := by
    intro b
    by_cases h92 : b = 92
    · subst h92
      rfl
    · by_cases h39 : b = 39
      · subst h39
        rfl
      · simp [replaceAll, h92, h39]
  rw [escapeValue]
  split_ifs with hs
  · rw [hs]
    rfl
  · rw [escape, replaceAll, replaceAll, List.flatMap_assoc]
    apply List.flatMap_congr
    intro b _
    exact hbyte b

lemma format_plain (t : ℤ) : Plain (layout.format t) := by
  intro b hb
  rcases layout.bytes t b hb with h | h
  · constructor
    · rintro rfl
      cases h
    · rintro rfl
      cases h
  · constructor
    · rintro rfl
      exact absurd h (by decide)
    · rintro rfl
      exact absurd h (by decide)

lemma intNumeral_bytes (n : ℤ) : ∀ b ∈ intNumeral n, b = 45 ∨ ∃ d < 10, b = digit d := by
  intro b hb
  rw [intNumeral] at hb
  split_ifs at hb
  · rcases List.mem_cons.mp hb with rfl | hb
    · exact .inl rfl
    · exact .inr (natNumeral_digits _ b hb)
  · exact .inr (natNumeral_digits _ b hb)

lemma intNumeral_ne_nil (n : ℤ) : intNumeral n ≠ [] := by
  rw [intNumeral]
  split_ifs
  · exact List.cons_ne_nil _ _
  · exact natNumeral_ne_nil _

lemma scan_intNumeral (n : ℤ) :
    scan esc .outside (intNumeral n) = ([], .word (intNumeral n)) := by
  apply scan_outside_word (intNumeral_ne_nil n)
  intro b hb
  rcases intNumeral_bytes n b hb with rfl | ⟨d, hd, rfl⟩
  · rfl
  · interval_cases d <;> rfl

lemma scan_value (s : Bytes) : scan esc (.literal []) (escapeValue s) = ([], .literal s) := by
  rw [escapeValue_eq, scan_literal_escape, List.nil_append]

lemma scan_time (t : ℤ) :
    scan esc (.literal []) (layout.format t) = ([], .literal (layout.format t)) := by
  rw [scan_literal_plain [] (format_plain t), List.nil_append]

lemma words_evaluated : (39 ∉ insertColumns ∧ 39 ∉ selectColumns) ∧
    ascii "WHERE tunnel_id='" = ascii "WHERE tunnel_id" ++ [61] ++ [39] ∧
    (queryOrder = 39 :: (orderWords ++ [32]) ∧ logsOrder = queryOrder ++ intNumeral 20) ∧
    (intNumeral 20).length = 2 ∧
    ¬ ascii "FORMAT" <:+: (selectColumns ++ [61]).map ClickHouse.toUpper ∧
    ¬ ascii "FORMAT" <:+: orderWords.map ClickHouse.toUpper := by
  rw [insertColumns, selectColumns, ascii_append, ascii_append, ascii_append, ascii_append,
    queryOrder, orderWords]
  repeat rw [ascii_ofList]
  decide +kernel

lemma insertColumns_quote : 39 ∉ insertColumns := words_evaluated.1.1

lemma selectColumns_quote : 39 ∉ selectColumns := words_evaluated.1.2

lemma orderWords_quote : 39 ∉ orderWords := by decide

lemma logsSelect_eq : logsSelect = selectColumns ++ [61] ++ [39] := by
  have hlast := words_evaluated.2.1
  rw [logsSelect, selectColumns, ascii_append, ascii_append, ascii_append, ascii_append, hlast]
  simp only [List.append_assoc]

lemma queryOrder_eq : queryOrder = 39 :: (orderWords ++ [32]) := words_evaluated.2.2.1.1

lemma logsOrder_eq : logsOrder = queryOrder ++ intNumeral 20 := words_evaluated.2.2.1.2

lemma scan_insertColumns : scan esc .outside (insertColumns ++ ascii "('") =
    (outer (insertColumns ++ [40]), .literal []) := by
  have hopen : insertColumns ++ ascii "('" = insertColumns ++ [40] ++ [39] := by simp [ascii]
  rw [hopen, scan_append, scan_outer insertColumns_quote rfl (by decide)]
  simp [scan, step, startToken]

lemma scan_logsSelect : scan esc .outside logsSelect =
    (outer (selectColumns ++ [61]), .literal []) := by
  rw [logsSelect_eq, scan_append, scan_outer selectColumns_quote rfl (by decide)]
  simp [scan, step, startToken]

lemma scan_queryOrder : scan esc (.literal c) queryOrder =
    (.literal c :: outer (orderWords ++ [32]), .outside) := by
  have hread : scan esc (.literal c) (39 :: (orderWords ++ [32])) =
      scan esc (.quoted c) (orderWords ++ [32]) := rfl
  obtain ⟨rest, hrest⟩ : ∃ rest, orderWords ++ [32] = 32 :: rest := ⟨_, rfl⟩
  have houter : scan esc .outside (orderWords ++ [32]) = _ :=
    scan_outer orderWords_quote rfl (by decide)
  rw [queryOrder_eq, hread, hrest, scan_quoted c (by decide), ← hrest, houter]
  rfl

section Segments

variable {m : Mode} {q : Bytes} {ts : List Token}

lemma scan_then_value (h : scan esc m q = (ts, .literal [])) (s : Bytes) :
    scan esc m (q ++ escapeValue s ++ ascii "','") = (ts ++ [.literal s, comma], .literal []) := by
  have hcomma : scan esc (.literal s) (ascii "','") = ([.literal s, comma], .literal []) := rfl
  have hvalue := scan_concat h (scan_value s)
  rw [List.append_nil] at hvalue
  exact scan_concat hvalue hcomma

lemma scan_then_number (h : scan esc m q = (ts, .literal [])) (s : Bytes) (n : ℤ) :
    scan esc m (q ++ escapeValue s ++ ascii "'," ++ intNumeral n ++ ascii ",'") =
      (ts ++ [.literal s, comma, .word (intNumeral n), comma], .literal []) := by
  have hcomma : scan esc (.literal s) (ascii "',") = ([.literal s, comma], .outside) := rfl
  have hafter : scan esc (.word (intNumeral n)) (ascii ",'") =
      ([.word (intNumeral n), comma], .literal []) := rfl
  have hvalue := scan_concat h (scan_value s)
  have hnumber := scan_concat (scan_concat hvalue hcomma) (scan_intNumeral n)
  have hall := scan_concat hnumber hafter
  simpa only [List.append_nil, List.append_assoc, List.cons_append, List.nil_append] using hall

end Segments

lemma log_tokens :
    tokens esc (logStatement layout now event) = some (logTokens layout now event) := by
  have hend : scan esc (.literal event.error) (ascii "')") =
      ([.literal event.error, .symbol 41], .outside) := rfl
  have hcomma : scan esc (.literal (layout.format (eventTime now event))) (ascii "','") =
      ([.literal (layout.format (eventTime now event)), comma], .literal []) := rfl
  have htime := scan_concat
    (scan_concat scan_insertColumns (scan_time (eventTime now event))) hcomma
  have htunnel := scan_then_value (scan_then_value htime event.organizationID) event.tunnelID
  have hprotocol := scan_then_value (scan_then_value htunnel event.connectionID) event.protocol
  have hbytes := scan_then_number hprotocol event.direction event.bytes
  have hstatus := scan_then_number (scan_then_value hbytes event.method) event.path event.statusCode
  have hduration := scan_then_number (scan_then_value hstatus event.clientIP) event.clientCountry
    event.durationMs
  have hall := scan_concat (scan_concat hduration (scan_value event.error)) hend
  have hscan : scan esc .outside (logStatement layout now event) = _ := hall
  rw [tokens, hscan]
  simp only [finish, Option.map_some, logTokens, List.append_nil, List.append_assoc,
    List.cons_append, List.nil_append]

lemma query_tokens (limit : ℤ) :
    tokens esc (queryLogs s limit) = some (selectTokens s limit) := by
  have hselect : scan esc .outside logsSelect = _ := scan_logsSelect
  have horder := scan_concat (scan_concat hselect (scan_value s)) scan_queryOrder
  have hall := scan_concat horder (scan_intNumeral limit)
  rw [tokens, queryLogs, hall]
  simp only [finish, Option.map_some, selectTokens, List.append_nil, List.append_assoc,
    List.cons_append]

lemma handler_tokens (hs : StringLiterals.Plain s) :
    tokens esc (logsQuery s) = some (selectTokens s 20) := by
  have hselect : scan esc .outside logsSelect = _ := scan_logsSelect
  have hid : scan esc (.literal []) s = _ := scan_literal_plain [] hs
  have horder := scan_concat (scan_concat hselect hid) scan_queryOrder
  have hall := scan_concat horder (scan_intNumeral 20)
  have htext : logsQuery s = logsSelect ++ s ++ queryOrder ++ intNumeral 20 := by
    rw [logsQuery, logsOrder_eq, ← List.append_assoc]
  rw [tokens, htext, hall]
  simp only [finish, Option.map_some, selectTokens, List.append_nil, List.append_assoc,
    List.cons_append, List.nil_append]

lemma size_selectTokens (s : Bytes) : size (selectTokens s 20) = (logsQuery s).length := by
  have hselect : size (outer (selectColumns ++ [61])) = selectColumns.length + 1 :=
    size_outer selectColumns_quote rfl (by decide)
  have horder : size (outer (orderWords ++ [32])) = orderWords.length + 1 :=
    size_outer orderWords_quote rfl (by decide)
  have hhead : logsSelect.length = selectColumns.length + 2 := by
    rw [logsSelect_eq]
    simp
  have hlimit := words_evaluated.2.2.2.1
  have htail : logsOrder.length = orderWords.length + 4 := by
    rw [logsOrder_eq, queryOrder_eq]
    simp [hlimit]
  have hparts : selectTokens s 20 = outer (selectColumns ++ [61]) ++ ([.literal s] ++
      (outer (orderWords ++ [32]) ++ [.word (intNumeral 20)])) := by
    simp only [selectTokens, List.append_assoc, List.cons_append, List.nil_append]
  have hliteral : size [.literal s] = s.length + 2 := rfl
  have hword : size [.word (intNumeral 20)] = 2 := by
    rw [size, List.map_singleton, List.sum_singleton, Token.size, hlimit]
  rw [hparts, size_append, size_append, size_append, hselect, horder, hliteral, hword, logsQuery,
    List.length_append, List.length_append, hhead, htail]
  omega

lemma handler_tokens_iff :
    tokens esc (logsQuery s) = some (selectTokens s 20) ↔ StringLiterals.Plain s := by
  constructor
  · intro h
    have hmem : Token.literal s ∈ selectTokens s 20 := by simp [selectTokens]
    exact clean_of_size h (size_selectTokens s) _ hmem
  · exact handler_tokens

end Reading

section Formats

lemma formatted_iff (query : Bytes) :
    Formatted query ↔ ¬ ascii "FORMAT" <:+: query.map ClickHouse.toUpper := by
  rw [Formatted, ClickHouse.fullQuery]
  split_ifs with h
  · simp only [h, not_true_eq_false, iff_false]
    intro heq
    have hlen := congrArg List.length heq
    rw [List.length_append] at hlen
    have hpos : 0 < (ascii " FORMAT JSONEachRow").length := by decide
    omega
  · simp [h]

lemma selectColumns_format :
    ¬ ascii "FORMAT" <:+: (selectColumns ++ [61]).map ClickHouse.toUpper :=
  words_evaluated.2.2.2.2.1

lemma orderWords_format : ¬ ascii "FORMAT" <:+: orderWords.map ClickHouse.toUpper :=
  words_evaluated.2.2.2.2.2

lemma numeral_format (n : ℤ) : ¬ ascii "FORMAT" <:+: (intNumeral n).map ClickHouse.toUpper := by
  intro h
  have hmem : (70 : UInt8) ∈ (intNumeral n).map ClickHouse.toUpper := h.subset (by decide)
  obtain ⟨b, hb, hup⟩ := List.mem_map.mp hmem
  rcases intNumeral_bytes n b hb with rfl | ⟨d, hd, rfl⟩
  · cases hup
  · interval_cases d <;> cases hup

lemma format_iff (value : Bytes) (limit : ℤ) :
    ascii "FORMAT" <:+: (logsSelect ++ value ++ queryOrder ++ intNumeral limit).map
        ClickHouse.toUpper ↔
      ascii "FORMAT" <:+: value.map ClickHouse.toUpper := by
  have hquote : (39 : UInt8) ∉ ascii "FORMAT" := by decide
  have hblank : (32 : UInt8) ∉ ascii "FORMAT" := by decide
  have htext : (logsSelect ++ value ++ queryOrder ++ intNumeral limit).map ClickHouse.toUpper =
      (selectColumns ++ [61]).map ClickHouse.toUpper ++ 39 :: (value.map ClickHouse.toUpper ++
        39 :: (orderWords.map ClickHouse.toUpper ++
          32 :: (intNumeral limit).map ClickHouse.toUpper)) := by
    have hq : ClickHouse.toUpper 39 = 39 := rfl
    have hb : ClickHouse.toUpper 32 = 32 := rfl
    rw [logsSelect_eq, queryOrder_eq]
    simp only [List.map_append, List.map_cons, List.map_nil, hq, hb, List.append_assoc,
      List.cons_append, List.nil_append]
  rw [htext, infix_sep_iff hquote, infix_sep_iff hquote, infix_sep_iff hblank]
  simp only [selectColumns_format, orderWords_format, numeral_format, or_false, false_or]

lemma escaped_format_iff (s : Bytes) :
    ascii "FORMAT" <:+: (escapeValue s).map ClickHouse.toUpper ↔ NamesFormat s := by
  have hinfix := infix_escape_iff (f := ClickHouse.toUpper) (F := ascii "FORMAT") (by decide)
    (by decide) (by decide) s []
  rw [escapeValue_eq]
  exact hinfix

lemma query_formatted_iff (s : Bytes) (limit : ℤ) :
    Formatted (queryLogs s limit) ↔ ¬ NamesFormat s := by
  rw [formatted_iff, queryLogs, format_iff, escaped_format_iff]

lemma handler_formatted_iff (s : Bytes) : Formatted (logsQuery s) ↔ ¬ NamesFormat s := by
  rw [formatted_iff, logsQuery, logsOrder_eq, ← List.append_assoc, format_iff]
  rfl

end Formats

theorem intact_iff (esc : Escapes) (layout : TimeLayout) (now : ℤ) (event : TrafficEvent)
    (tunnelID : Bytes) (limit : ℤ) :
    Intact esc layout now event tunnelID limit ↔
      StringLiterals.Plain tunnelID ∧ ¬ NamesFormat tunnelID := by
  constructor
  · intro h
    exact ⟨handler_tokens_iff.mp h.handler, (handler_formatted_iff tunnelID).mp h.handlerFormat⟩
  · rintro ⟨hplain, hformat⟩
    exact ⟨log_tokens, query_tokens limit, handler_tokens hplain,
      (query_formatted_iff tunnelID limit).mpr hformat,
      (handler_formatted_iff tunnelID).mpr hformat⟩

def injectedID : Bytes := ascii "x' OR '1'='1"

theorem traffic_query_injected : ¬ ∀ (esc : Escapes) (layout : TimeLayout) (now : ℤ)
    (event : TrafficEvent) (tunnelID : Bytes) (limit : ℤ),
    Intact esc layout now event tunnelID limit := by
  intro hall
  have hintact := hall noEscapes ⟨fun _ => [], by simp⟩ 0
    ⟨0, [], [], [], [], [], 0, [], [], 0, [], [], 0, []⟩ injectedID 20
  have hplain := handler_tokens_iff.mp hintact.handler
  exact absurd rfl (hplain 39 (by decide)).1

end OmniTun.Api.TrafficQueries
