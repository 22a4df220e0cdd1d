import OmniTun.Api.MeshAddresses
import OmniTun.Auth.Middleware

/-! What leaving a mesh network asks of the server, and what the server does with it. -/

namespace OmniTun.Control.LeaveMesh

open OmniTun.Api OmniTun.Auth.APIKeys OmniTun.Auth.Middleware OmniTun.Foundation
open OmniTun.Foundation.Numerals

structure HTTPRequest where
  method : Bytes
  path : Bytes
  authorization : Bytes
  body : Option Json

structure APIClient where
  token : Bytes

structure Agent where
  apiClient : Option APIClient

namespace APIClient

def send (c : APIClient) (method : String) (path : Bytes) (body : Option Json) : HTTPRequest where
  method := ascii method
  path := path
  authorization := if c.token ≠ [] then ascii "Bearer " ++ c.token else []
  body := body

def leaveNetwork (c : APIClient) (networkID : Bytes) : HTTPRequest :=
  c.send "DELETE" (ascii "/v1/networks/" ++ networkID) none

end APIClient

namespace Agent

def leaveMesh (a : Agent) (networkID : Bytes) : Option HTTPRequest :=
  a.apiClient.map fun c => c.send "DELETE" (ascii "/v1/networks/" ++ networkID) none

end Agent

inductive Leave
  | network (c : APIClient)
  | mesh (a : Agent)

def Leave.request (networkID : Bytes) : Leave → Option HTTPRequest
  | .network c => some (c.leaveNetwork networkID)
  | .mesh a => a.leaveMesh networkID

def Leave.client : Leave → Option APIClient
  | .network c => some c
  | .mesh a => a.apiClient

def notFound : HTTPError := ⟨ascii "404 page not found", 404⟩

def methodNotAllowed : HTTPError := ⟨[], 405⟩

def networksRoute (r : HTTPRequest) : Except HTTPError MeshRequest :=
  match r.path.splitOn 47 with
  | [] :: v1 :: networks :: rest =>
    if v1 = ascii "v1" ∧ networks = ascii "networks" then
      match rest with
      | [] | [[]] =>
        if r.method = ascii "GET" then .ok .list
        else if r.method = ascii "POST" then .ok (.create r.body)
        else .error methodNotAllowed
      | [networkID] =>
        if r.method = ascii "POST" ∧ networkID = ascii "join" then .ok (.join r.body)
        else if r.method = ascii "GET" then .ok (.get networkID)
        else if r.method = ascii "DELETE" then .ok (.delete networkID)
        else .error methodNotAllowed
      | [networkID, action] =>
        if action ≠ ascii "invite" then .error notFound
        else if r.method = ascii "POST" then .ok (.createInvite networkID)
        else .error methodNotAllowed
      | [networkID, nodes, nodeID] =>
        if nodes ≠ ascii "nodes" then .error notFound
        else if r.method = ascii "DELETE" then .ok (.removeNode networkID nodeID)
        else .error methodNotAllowed
      | _ => .error notFound
    else .error notFound
  | _ => .error notFound

def networkRoles : List Bytes := [ascii "owner", ascii "admin", ascii "editor"]

section

variable (validateAccessToken : Bytes → Except Bytes Claims)

def authorize (r : HTTPRequest) : Except HTTPError AuthContext :=
  (jwtAuthMiddleware validateAccessToken r.authorization).bind (requireRole networkRoles)

def serve (env : MeshEnv) (clientIP : Bytes) (r : HTTPRequest) (s : Store) :
    Except HTTPError Response × Store :=
  match authorize validateAccessToken r with
  | .error err => (.error err, s)
  | .ok ctx =>
    match networksRoute r with
    | .error err => (.error err, s)
    | .ok request =>
      let c : Caller := ⟨ctx.orgID, ctx.userID.getD [], clientIP⟩
      let (response, s') := handleMesh env c s request
      (.ok response, s')

def afterLeave (env : MeshEnv) (clientIP : Bytes) (networkID : Bytes) (leave : Leave) (s : Store) :
    Store :=
  match leave.request networkID with
  | none => s
  | some r => (serve validateAccessToken env clientIP r s).2

def Editor (token : Bytes) : Prop :=
  token ≠ [] ∧ ∃ claims, validateAccessToken token = .ok claims ∧ claims.role ∈ networkRoles

end

def uuidStr (b : Bytes) : Bytes :=
  let set (i : ℕ) (mask bits : UInt8) (b : Bytes) : Bytes := b.modify i fun x => x &&& mask ||| bits
  let b := set 8 0x3f 0x80 (set 6 0x0f 0x40 b)
  hexEncode (b.take 4) ++ [45] ++ hexEncode ((b.drop 4).take 2) ++ [45] ++
    hexEncode ((b.drop 6).take 2) ++ [45] ++ hexEncode ((b.drop 8).take 2) ++ [45] ++
    hexEncode (b.drop 10)

def networkIDOf (b : Bytes) : Bytes := ascii "mesh-" ++ (uuidStr b).take 8

structure Kept (belongs : MeshNodeRecord → Prop) [DecidablePred belongs] (id : Bytes)
    (s s' : Store) : Prop where
  network : s'.mesh.networks.lookup id = s.mesh.networks.lookup id
  invite : s'.mesh.invites.lookup id = s.mesh.invites.lookup id
  nodes : (s'.mesh.nodesOf id).filter (fun n => ¬ belongs n) =
    (s.mesh.nodesOf id).filter fun n => ¬ belongs n

section

variable {validateAccessToken : Bytes → Except Bytes Claims} {env : MeshEnv} {clientIP : Bytes}
  {c : APIClient} {s : Store} {b id : Bytes} {leave : Leave}

lemma slash_not_mem_hexEncode (bs : Bytes) : (47 : UInt8) ∉ hexEncode bs := by
  intro h
  obtain ⟨d, hd, hslash⟩ := hexEncode_mem h
  interval_cases d <;> cases hslash

lemma slash_not_mem_networkIDOf (b : Bytes) : (47 : UInt8) ∉ networkIDOf b := by
  intro h
  rcases List.mem_append.mp h with h | h
  · revert h
    decide
  · have huuid := List.mem_of_mem_take h
    simp only [uuidStr, List.mem_append, List.mem_singleton, slash_not_mem_hexEncode, false_or,
      or_false] at huuid
    revert huuid
    decide

lemma networksRoute_leave (hslash : (47 : UInt8) ∉ id) (hne : id ≠ []) :
    networksRoute (c.leaveNetwork id) = .ok (.delete id) := by
  have hpath : (ascii "/v1/networks/" ++ id).splitOn 47 =
      [[], ascii "v1", ascii "networks", id] := by
    have hsplit : ascii "/v1/networks/" ++ id =
        [] ++ 47 :: (ascii "v1" ++ 47 :: (ascii "networks" ++ 47 :: id)) := rfl
    rw [hsplit, List.splitOn_append_cons_self_of_not_mem (by simp),
      List.splitOn_append_cons_self_of_not_mem (by decide),
      List.splitOn_append_cons_self_of_not_mem (by decide), List.splitOn_eq_singleton hslash]
  obtain ⟨x, xs, rfl⟩ := List.exists_cons_of_ne_nil hne
  have hmethod : ascii "DELETE" ≠ ascii "POST" ∧ ascii "DELETE" ≠ ascii "GET" := by decide
  simp [networksRoute, APIClient.leaveNetwork, APIClient.send, hpath, hmethod]

lemma authorize_send {method : String} {path : Bytes} {body : Option Json} :
    (∃ ctx, authorize validateAccessToken (c.send method path body) = .ok ctx) ↔
      Editor validateAccessToken c.token := by
  by_cases htoken : c.token = []
  · have herror : authorize validateAccessToken (c.send method path body) =
        .error ⟨ascii "missing authorization header", 401⟩ := by
      simp [authorize, APIClient.send, htoken, jwtAuthMiddleware, Except.bind]
    simp [herror, Editor, htoken]
  · have hheader : (c.send method path body).authorization = ascii "Bearer " ++ c.token :=
      if_pos htoken
    rw [authorize, hheader]
    constructor
    · rintro ⟨ctx, hctx⟩
      cases hauth : jwtAuthMiddleware validateAccessToken (ascii "Bearer " ++ c.token) with
      | error err => simp [hauth, Except.bind] at hctx
      | ok ctx' =>
        obtain ⟨claims, hclaims, rfl⟩ := jwtAuthMiddleware_bearer.mp hauth
        rw [hauth] at hctx
        have hrequire : requireRole networkRoles
          ⟨some claims.subject, claims.orgID, some claims.role, none⟩ = .ok ctx := hctx
        obtain ⟨-, role, hrole, hmem⟩ := requireRole_eq_ok.mp hrequire
        obtain rfl := Option.some.inj hrole
        exact ⟨htoken, claims, hclaims, hmem⟩
    · rintro ⟨-, claims, hclaims, hmem⟩
      refine ⟨⟨some claims.subject, claims.orgID, some claims.role, none⟩, ?_⟩
      rw [jwtAuthMiddleware_bearer.mpr ⟨claims, hclaims, rfl⟩]
      have hrequire : requireRole networkRoles
          ⟨some claims.subject, claims.orgID, some claims.role, none⟩ = .ok _ :=
        requireRole_eq_ok.mpr ⟨rfl, _, rfl, hmem⟩
      exact hrequire

lemma request_leave : leave.request id = leave.client.map fun c => c.leaveNetwork id := by
  cases leave <;> rfl

lemma serve_refused {r : HTTPRequest}
    (h : ¬ ∃ ctx, authorize validateAccessToken r = .ok ctx) :
    (serve validateAccessToken env clientIP r s).2 = s := by
  rw [serve]
  cases hauth : authorize validateAccessToken r with
  | error err => rfl
  | ok ctx => exact absurd ⟨ctx, hauth⟩ h

lemma mesh_serve_leave (hslash : (47 : UInt8) ∉ id) (hne : id ≠ [])
    (h : ∃ ctx, authorize validateAccessToken (c.leaveNetwork id) = .ok ctx) :
    (serve validateAccessToken env clientIP (c.leaveNetwork id) s).2.mesh = s.mesh.delete id := by
  obtain ⟨ctx, hctx⟩ := h
  simp only [serve, hctx, networksRoute_leave hslash hne, handleMesh, handleDelete_mesh]

variable {belongs : MeshNodeRecord → Prop} [DecidablePred belongs]

lemma kept_self : Kept belongs id s s := ⟨rfl, rfl, rfl⟩

lemma kept_delete {s' : Store} (h : s'.mesh = s.mesh.delete id) :
    Kept belongs id s s' ↔ s.mesh.networks.lookup id = none := by
  have hnetwork : s'.mesh.networks.lookup id = none := by
    rw [h]
    exact Finmap.lookup_erase id _
  constructor
  · intro hkept
    rw [← hkept.network, hnetwork]
  · intro hnone
    obtain ⟨hnodes, hinvites⟩ := s.mesh.under id hnone
    obtain ⟨hnodes', hinvites'⟩ := s'.mesh.under id hnetwork
    refine ⟨hnetwork.trans hnone.symm, hinvites'.trans hinvites.symm, ?_⟩
    rw [MeshStore.nodesOf, MeshStore.nodesOf, hnodes, hnodes']

end

theorem leave_kept_iff (validateAccessToken : Bytes → Except Bytes Claims) (env : MeshEnv)
    (clientIP b : Bytes) (leave : Leave) (belongs : MeshNodeRecord → Prop) [DecidablePred belongs]
    (s : Store) :
    Kept belongs (networkIDOf b) s
        (afterLeave validateAccessToken env clientIP (networkIDOf b) leave s) ↔
      (∀ c, leave.client = some c → ¬ Editor validateAccessToken c.token) ∨
        s.mesh.networks.lookup (networkIDOf b) = none := by
  rw [afterLeave, request_leave]
  cases leave.client with
  | none => exact iff_of_true kept_self (.inl fun _ hc => by cases hc)
  | some c =>
    simp only [Option.map_some, Option.some.injEq, forall_eq']
    have hsent : (∃ ctx, authorize validateAccessToken (c.leaveNetwork (networkIDOf b)) = .ok ctx) ↔
        Editor validateAccessToken c.token := authorize_send
    by_cases heditor : Editor validateAccessToken c.token
    · have hmesh : (serve validateAccessToken env clientIP (c.leaveNetwork (networkIDOf b)) s).2.mesh =
          s.mesh.delete (networkIDOf b) :=
        mesh_serve_leave (slash_not_mem_networkIDOf b) (by simp [networkIDOf, ascii])
          (hsent.mpr heditor)
      rw [kept_delete hmesh]
      simp [heditor]
    · rw [serve_refused (mt hsent.mp heditor)]
      exact iff_of_true kept_self (.inl heditor)

section Runs

def editorClaims : Claims := ⟨ascii "user", ascii "org", ascii "editor"⟩

def peerStore : Store :=
  { Store.empty with
    mesh := MeshStore.empty.create
      ⟨networkIDOf (List.replicate 16 0), ascii "default-mesh", ascii "10.42.0.0/16", ascii "org", 0⟩ }

theorem leave_kept_fails :
    ¬ Kept (fun _ => False) (networkIDOf (List.replicate 16 0)) peerStore
      (afterLeave (fun _ => .ok editorClaims) (meshEnv "bbbbbbbb-0000") (ascii "10.0.0.1")
        (networkIDOf (List.replicate 16 0)) (.network ⟨ascii "token"⟩) peerStore) := by
  intro h
  have hnone : none = some _ := h.network
  cases hnone

end Runs

end OmniTun.Control.LeaveMesh
