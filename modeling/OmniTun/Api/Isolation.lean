import Mathlib.Data.Finset.Order
import OmniTun.Api.MeshIsolation
import OmniTun.Foundation.Numerals

/-! What a request of one organisation reads and changes of the others. No handler compares the
owner of a row with the caller's organisation. -/

namespace OmniTun.Api

open OmniTun.Foundation OwnedRows
open StringLiterals (Plain)

section Logs

variable {ch : ClickHouse} {literal : Bytes → Option Bytes} {row : TrafficEvent → List (Bytes × Json)}
  {s : Store} {orgID id u : Bytes}

lemma exists_fresh_event (orgID u : Bytes) (events : List TrafficEvent) :
    ∃ e : TrafficEvent, e.organizationID = orgID ∧ e.tunnelID = u ∧
      (∀ e' ∈ events, e'.timestamp ≤ e.timestamp) ∧
      ∀ e' ∈ events, e.connectionID ≠ e'.connectionID := by
  obtain ⟨t, ht⟩ := (events.map TrafficEvent.timestamp).toFinset.exists_le
  obtain ⟨conn, hconn⟩ :=
    Infinite.exists_notMem_finset (events.map TrafficEvent.connectionID).toFinset
  simp only [List.mem_toFinset, List.mem_map, forall_exists_index, and_imp,
    forall_apply_eq_imp_iff₂] at ht
  simp only [List.mem_toFinset, List.mem_map, not_exists, not_and] at hconn
  refine ⟨⟨t, orgID, u, conn, [], [], 0, [], [], 0, [], [], 0, []⟩, rfl, rfl, ht, ?_⟩
  intro e' he'
  exact Ne.symm (hconn e' he')

lemma newest_ne (hch : ch.Selects literal row) (hid : Plain id) (hu : literal id = some u)
    (events : List TrafficEvent) {e : TrafficEvent} (he : e.tunnelID = u)
    (hlast : ∀ e' ∈ events, e'.timestamp ≤ e.timestamp)
    (hfresh : ∀ e' ∈ events, e.connectionID ≠ e'.connectionID) :
    ch.entries id (e :: events) ≠ ch.entries id events := by
  obtain ⟨rest, hrest⟩ := newest_cons he hlast
  rw [hch.entries_of_some hid hu, hch.entries_of_some hid hu, hrest, List.map_cons]
  intro heq
  have hmem : logEntry (row e) ∈ (newest u events).map fun e => logEntry (row e) :=
    heq ▸ List.mem_cons_self
  obtain ⟨e', he', hrow⟩ := List.mem_map.mp hmem
  exact hfresh e' (newest_subset he') (hch.connection_eq hrow).symm

lemma entries_confined_iff (hch : ch.Selects literal row) :
    (∀ events, owned TrafficEvent.organizationID orgID events =
        owned TrafficEvent.organizationID orgID s.trafficEvents →
      ch.entries id events = ch.entries id s.trafficEvents) ↔
    if Plain id then literal id = none else
      ∀ events, owned TrafficEvent.organizationID orgID events =
        owned TrafficEvent.organizationID orgID s.trafficEvents →
          ch.entries id events = ch.entries id s.trafficEvents := by
  split_ifs with hid
  · constructor
    · intro h
      by_contra hsome
      obtain ⟨u, hu⟩ := Option.ne_none_iff_exists'.mp hsome
      obtain ⟨e, ho, he, hlast, hfresh⟩ := exists_fresh_event (anotherOrg orgID) u s.trafficEvents
      -- an event of another organisation with the id of the tunnel comes first in the answer
      apply newest_ne hch hid hu s.trafficEvents he hlast hfresh
      apply h
      exact owned_cons_of_ne (ho ▸ anotherOrg_ne orgID)
    · intro hu events _
      rw [hch.entries_of_none hid hu, hch.entries_of_none hid hu]
  · rfl

lemma rows_withEvents {events : List TrafficEvent}
    (h : owned TrafficEvent.organizationID orgID events =
      owned TrafficEvent.organizationID orgID s.trafficEvents) :
    { s with trafficEvents := events }.rows orgID = s.rows orgID := by
  simp only [Store.rows, h]

lemma tunnelLogs_isolated {chClient : Option ClickHouse}
    (hch : ∀ ch, chClient = some ch → ch.Selects literal row) :
    Isolated (fun o s => s.rows o) (fun s => (handleTunnelLogs chClient id s, s)) orgID s ↔
      (∀ ch, chClient = some ch → if Plain id then literal id = none else
        ∀ events, owned TrafficEvent.organizationID orgID events =
          owned TrafficEvent.organizationID orgID s.trafficEvents →
            ch.entries id events = ch.entries id s.trafficEvents) := by
  rw [isolated_iff_of_unchanged rfl]
  cases chClient with
  | none => simp [handleTunnelLogs_none]
  | some ch =>
    simp only [handleTunnelLogs_some, Option.some.injEq, forall_eq', Response.mk.injEq, true_and,
      Json.arr.injEq]
    rw [← entries_confined_iff (hch ch rfl)]
    constructor
    · intro h events hevents
      exact h { s with trafficEvents := events } (rows_withEvents hevents)
    · intro h s' hrows
      exact h s'.trafficEvents (congrArg Rows.trafficEvents hrows)

end Logs

/-- When a request stays with the rows of an organisation. A tunnel or network is named for reading,
a row is written to that is owned or that the write leaves as it is, and logs are asked for with an
id that is refused. Of an id that ends the literal it is in only the answers to the query that it
makes can tell. -/
def Request.Confined (env : Env) (chClient : Option ClickHouse) (literal : Bytes → Option Bytes)
    (orgID : Bytes) (s : Store) : Request → Prop
  | .getTunnel id => env.available → ∀ u, env.uuidIn id = some u →
      ∃ t ∈ s.tunnels, t.id = u ∧ t.organizationID = orgID
  | .updateTunnel id body =>
      let name := decodedString (ascii "name") body
      name ≠ [] → env.available ∧ 0 ∉ name → ∀ u, env.uuidIn id = some u →
        ∀ t ∈ s.tunnels, t.id = u → t.organizationID = orgID ∨ t.name = name
  | .deleteTunnel id => env.available → ∀ u, env.uuidIn id = some u →
      ∀ t ∈ s.tunnels, t.id = u → t.organizationID = orgID ∨ t.deletedAt = some env.now
  | .tunnelLogs id => ∀ ch, chClient = some ch → if Plain id then literal id = none else
      ∀ events, owned TrafficEvent.organizationID orgID events =
        owned TrafficEvent.organizationID orgID s.trafficEvents →
          ch.entries id events = ch.entries id s.trafficEvents
  | .deleteAPIKey id => env.available → ∀ u, env.uuidIn id = some u →
      ∀ k ∈ s.apiKeys, k.id = u → k.organizationID = orgID ∨ k.revokedAt = some env.now
  | .getMeshNetwork id | .deleteMeshNetwork id | .createMeshInvite id | .removeMeshNode id _ =>
      ∃ n, s.mesh.networks.lookup id = some n ∧ n.orgID = orgID

theorem tenant_isolation (env : Env) (chClient : Option ClickHouse)
    (literal : Bytes → Option Bytes) (row : TrafficEvent → List (Bytes × Json)) (c : Caller)
    (s : Store) (r : Request) (hch : ∀ ch, chClient = some ch → ch.Selects literal row) :
    Isolated (fun o s => s.rows o) (fun s => handle env chClient c s r) c.orgID s ↔
      r.Confined env chClient literal c.orgID s := by
  cases r with
  | getTunnel id => exact getTunnel_isolated
  | updateTunnel id body => exact updateTunnel_isolated
  | deleteTunnel id => exact deleteTunnel_isolated
  | tunnelLogs id => exact tunnelLogs_isolated hch
  | deleteAPIKey id => exact deleteAPIKey_isolated
  | getMeshNetwork id => exact getMeshNetwork_isolated
  | deleteMeshNetwork id => exact deleteMeshNetwork_isolated
  | createMeshInvite id => exact createMeshInvite_isolated
  | removeMeshNode id nodeID => exact removeMeshNode_isolated

section Samples

def isHexDigit (b : UInt8) : Bool := Numerals.isDigit b || (97 ≤ b && b ≤ 102)

def canonicalUUID (id : Bytes) : Option Bytes :=
  if id.length = 36 ∧ ∀ p ∈ id.zipIdx,
      if p.2 ∈ [8, 13, 18, 23] then p.1 = 45 else isHexDigit p.1 = true then some id else none

def sampleEnv : Env where
  available := true
  uuidIn := canonicalUUID
  inserts _ := true
  now := 1
  formatTime _ := ascii "1970-01-01T00:00:00Z"
  uuidStr := ascii "22222222-2222-4222-8222-222222222222"

def sampleRow (e : TrafficEvent) : List (Bytes × Json) :=
  [(ascii "timestamp", .num e.timestamp), (ascii "tunnel_id", .str e.tunnelID),
    (ascii "connection_id", .str e.connectionID), (ascii "protocol", .str e.protocol),
    (ascii "direction", .str e.direction), (ascii "bytes", .num e.bytes),
    (ascii "method", .str e.method), (ascii "path", .str e.path),
    (ascii "status_code", .num e.statusCode), (ascii "client_ip", .str e.clientIP),
    (ascii "client_country", .str e.clientCountry), (ascii "duration_ms", .num e.durationMs),
    (ascii "error", .str e.error)]

def sampleServer : ClickHouse := fun text events =>
  (canonicalUUID ((text.drop logsSelect.length).takeWhile (· ≠ 39))).map fun u =>
    (newest u events).map fun e => .obj (sampleRow e)

lemma takeWhile_literal {id : Bytes} (h : Plain id) :
    ((ClickHouse.fullQuery (logsQuery id)).drop logsSelect.length).takeWhile (· ≠ 39) = id := by
  have htext : ∃ rest, ClickHouse.fullQuery (logsQuery id) = logsSelect ++ (id ++ 39 :: rest) := by
    rw [ClickHouse.fullQuery]
    split_ifs
    · exact ⟨logsOrder.tail, by rw [logsQuery, List.append_assoc]; rfl⟩
    · exact ⟨logsOrder.tail ++ ascii " FORMAT JSONEachRow", by
        rw [logsQuery, List.append_assoc, List.append_assoc]; rfl⟩
  obtain ⟨rest, htext⟩ := htext
  rw [htext, List.drop_left, List.takeWhile_append_of_pos]
  · simp
  · intro b hb
    simpa using (h b hb).1

lemma sampleServer_selects : sampleServer.Selects canonicalUUID sampleRow where
  answer id events h := by
    rw [sampleServer, takeWhile_literal h]
  connection e := rfl

def sampleID : Bytes := ascii "11111111-1111-4111-8111-111111111111"

def orgA : Bytes := ascii "aaaaaaaa-aaaa-4aaa-8aaa-aaaaaaaaaaaa"

def orgB : Bytes := ascii "bbbbbbbb-bbbb-4bbb-8bbb-bbbbbbbbbbbb"

def userOf (orgID : Bytes) : Caller := ⟨orgID, ascii "u", ascii "192.0.2.1"⟩

def sampleTunnel : TunnelRow :=
  ⟨sampleID, orgB, ascii "web", ascii "web-1", ascii "http", 8080, none, ascii "stopped", 0, 0, 0,
    none⟩

def sampleNetwork : MeshNetworkRecord :=
  ⟨ascii "mesh-1", ascii "default-mesh", ascii "10.42.0.0/16", orgB, 0⟩

def sampleMesh : MeshStore where
  networks := (∅ : Table Bytes MeshNetworkRecord).insert sampleNetwork.id sampleNetwork
  nodes := ∅
  invites := ∅
  under _ _ := ⟨rfl, rfl⟩

def sampleStore : Store where
  tunnels := [sampleTunnel]
  apiKeys := []
  mesh := sampleMesh
  trafficEvents := []
  auditLog := []
  tunnels_keyed := List.nodup_singleton _
  apiKeys_keyed := List.nodup_nil

theorem tenant_isolation_own :
    Isolated (fun o s => s.rows o) (fun s => handle sampleEnv (some sampleServer) (userOf orgB) s
      (.getTunnel sampleID)) orgB sampleStore := by
  apply (tenant_isolation sampleEnv (some sampleServer) canonicalUUID sampleRow (userOf orgB)
    sampleStore (.getTunnel sampleID) _).mpr
  · intro _ u hu
    obtain rfl : sampleID = u := Option.some.inj (by rw [← hu]; decide)
    exact ⟨sampleTunnel, List.mem_singleton_self _, rfl, rfl⟩
  · intro ch hch
    obtain rfl := Option.some.inj hch
    exact sampleServer_selects

theorem tenant_isolation_fails :
    ¬Isolated (fun o s => s.rows o) (fun s => handle sampleEnv none (userOf orgA) s
      (.getTunnel sampleID)) orgA sampleStore ∧
    ¬Isolated (fun o s => s.rows o) (fun s => handle sampleEnv none (userOf orgA) s
      (.deleteTunnel sampleID)) orgA sampleStore ∧
    ¬Isolated (fun o s => s.rows o) (fun s => handle sampleEnv none (userOf orgA) s
      (.deleteMeshNetwork (ascii "mesh-1"))) orgA sampleStore := by
  have htunnels : ∀ t ∈ sampleStore.tunnels, t = sampleTunnel :=
    fun t => List.mem_singleton.mp
  refine ⟨fun h => ?_, fun h => ?_, fun h => ?_⟩
  · obtain ⟨t, ht, _, ho⟩ := getTunnel_isolated.mp h rfl sampleID rfl
    rw [htunnels t ht] at ho
    exact absurd ho (by decide)
  · rcases deleteTunnel_isolated.mp h rfl sampleID rfl _ (List.mem_singleton_self _) rfl with ho | hd
    · exact absurd ho (by decide)
    · cases hd
  · obtain ⟨n, hn, ho⟩ := deleteMeshNetwork_isolated.mp h
    obtain rfl := Option.some.inj ((Finmap.lookup_insert _).symm.trans hn)
    exact absurd ho (by decide)

end Samples

end OmniTun.Api
