import OmniTun.Api.Store
import OmniTun.Foundation.StringLiterals

/-! The traffic events of a tunnel, which the server asks of ClickHouse by a query text. -/

namespace OmniTun.Api

open OmniTun.Foundation
open StringLiterals (Plain)

/-- A ClickHouse server: the rows that it answers to a query text over the traffic events. -/
abbrev ClickHouse := Bytes → List TrafficEvent → Option (List Json)

namespace ClickHouse

def toUpper (b : UInt8) : UInt8 := if 97 ≤ b ∧ b ≤ 122 then b - 32 else b

def fullQuery (text : Bytes) : Bytes :=
  if ascii "FORMAT" <:+: text.map toUpper then text else text ++ ascii " FORMAT JSONEachRow"

def query (ch : ClickHouse) (text : Bytes) (events : List TrafficEvent) :
    Option (List (List (Bytes × Json))) :=
  (ch (fullQuery text) events).bind fun rows => rows.mapM Json.fields

end ClickHouse

def logsSelect : Bytes :=
  ascii ("SELECT timestamp, tunnel_id, connection_id, protocol, direction, bytes, method, path, " ++
    "status_code, client_ip, client_country, duration_ms, error FROM traffic_events " ++
    "WHERE tunnel_id='")

def logsOrder : Bytes := ascii "' ORDER BY timestamp DESC LIMIT 20"

def logsQuery (tunnelID : Bytes) : Bytes := logsSelect ++ tunnelID ++ logsOrder

def logColumns : List String :=
  ["timestamp", "tunnel_id", "connection_id", "protocol", "direction", "bytes", "method", "path",
    "status_code", "client_ip", "client_country", "duration_ms", "error"]

def logEntry (row : List (Bytes × Json)) : Json :=
  jsonObj (logColumns.map fun c => (c, (Json.get row (ascii c)).getD .null))

def handleTunnelLogs (chClient : Option ClickHouse) (tunnelID : Bytes) (s : Store) : Response :=
  match chClient.bind fun ch => ch.query (logsQuery tunnelID) s.trafficEvents with
  | some rows => ⟨200, .arr (rows.map logEntry)⟩
  | none => ⟨200, .arr []⟩

def newest (tunnelID : Bytes) (events : List TrafficEvent) : List TrafficEvent :=
  ((events.filter fun e => e.tunnelID = tunnelID).mergeSort fun e e' =>
    e'.timestamp ≤ e.timestamp).take 20

/-- The server reads a plain literal as a UUID, or refuses the query, and writes each selected event
as a row that gives its connection. -/
structure ClickHouse.Selects (ch : ClickHouse) (literal : Bytes → Option Bytes)
    (row : TrafficEvent → List (Bytes × Json)) : Prop where
  answer : ∀ id events, Plain id → ch (ClickHouse.fullQuery (logsQuery id)) events =
    (literal id).map fun u => (newest u events).map fun e => .obj (row e)
  connection : ∀ e, Json.get (row e) (ascii "connection_id") = some (.str e.connectionID)

def ClickHouse.entries (ch : ClickHouse) (tunnelID : Bytes) (events : List TrafficEvent) :
    List Json :=
  ((ch.query (logsQuery tunnelID) events).getD []).map logEntry

lemma handleTunnelLogs_none (id : Bytes) (s : Store) :
    handleTunnelLogs none id s = ⟨200, .arr []⟩ := rfl

lemma handleTunnelLogs_some (ch : ClickHouse) (id : Bytes) (s : Store) :
    handleTunnelLogs (some ch) id s = ⟨200, .arr (ch.entries id s.trafficEvents)⟩ := by
  simp only [handleTunnelLogs, ClickHouse.entries, Option.bind_some]
  cases ch.query (logsQuery id) s.trafficEvents <;> rfl

section Selects

variable {ch : ClickHouse} {literal : Bytes → Option Bytes} {row : TrafficEvent → List (Bytes × Json)}
  {id u : Bytes} {e : TrafficEvent} {events : List TrafficEvent}

lemma mapM_fields (rows : List (List (Bytes × Json))) :
    (rows.map Json.obj).mapM Json.fields = some rows := by
  induction rows with
  | nil => rfl
  | cons r rows ih => simp [List.mapM_cons, ih, Json.fields]

lemma ClickHouse.Selects.entries_of_some (h : ch.Selects literal row) (hid : Plain id)
    (hu : literal id = some u) (events : List TrafficEvent) :
    ch.entries id events = (newest u events).map fun e => logEntry (row e) := by
  have hquery : ch.query (logsQuery id) events = some ((newest u events).map row) := by
    rw [ClickHouse.query, h.answer id events hid, hu, Option.map_some, Option.bind_some,
      ← mapM_fields, List.map_map]
    rfl
  rw [ClickHouse.entries, hquery, Option.getD_some, List.map_map]
  rfl

lemma ClickHouse.Selects.entries_of_none (h : ch.Selects literal row) (hid : Plain id)
    (hu : literal id = none) (events : List TrafficEvent) : ch.entries id events = [] := by
  rw [ClickHouse.entries, ClickHouse.query, h.answer id events hid, hu]
  rfl

lemma newest_cons (hu : e.tunnelID = u) (hlast : ∀ e' ∈ events, e'.timestamp ≤ e.timestamp) :
    ∃ rest, newest u (e :: events) = e :: rest := by
  obtain ⟨l₁, l₂, hsort, happend, hbefore⟩ :=
    @List.mergeSort_cons _ (fun e e' : TrafficEvent => e'.timestamp ≤ e.timestamp)
      (by simp only [decide_eq_true_eq]; omega)
      (by simp only [Bool.or_eq_true, decide_eq_true_eq]; omega)
      e (events.filter fun e => e.tunnelID = u)
  -- what the sort puts before the new event is newer than it
  have hnil : l₁ = [] := by
    apply List.eq_nil_iff_forall_not_mem.mpr
    intro e' he'
    have hmem : e' ∈ events.filter fun e => e.tunnelID = u := by
      rw [← List.mem_mergeSort, happend]
      exact List.mem_append_left _ he'
    have hle := hlast e' (List.mem_filter.mp hmem).1
    simpa [hle] using hbefore e' he'
  refine ⟨l₂.take 19, ?_⟩
  rw [newest, List.filter_cons_of_pos (by simpa using hu), hsort, hnil]
  rfl

lemma newest_subset : newest u events ⊆ events := by
  intro e he
  exact (List.mem_filter.mp (List.mem_mergeSort.mp (List.mem_of_mem_take he))).1

lemma ClickHouse.Selects.connection_eq (h : ch.Selects literal row) {e e' : TrafficEvent}
    (he : logEntry (row e) = logEntry (row e')) : e.connectionID = e'.connectionID := by
  simp only [logEntry, jsonObj, logColumns, List.map_cons, List.map_nil, Json.obj.injEq,
    List.cons.injEq, Prod.mk.injEq, h.connection, Option.getD_some, Json.str.injEq] at he
  exact he.2.2.1.2

end Selects

end OmniTun.Api
