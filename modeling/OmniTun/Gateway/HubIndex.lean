import OmniTun.Gateway.Hub

/-! The hub's index by organisation holds exactly the connected agents, after any sequence of
additions and removals. -/

namespace OmniTun.Gateway.HubIndex

open OmniTun.Foundation

def org (c : AgentConnection) : Option Bytes := if c.orgID = [] then none else some c.orgID

structure Indexed (h : Hub) : Prop where
  keyed : ∀ id c, h.agents.lookup id = some c → c.agentID = id
  grouped : GroupedIndex.Indexed org h.agents h.byOrg

inductive HubOp
  | add (conn : AgentConnection)
  | remove (conn : AgentConnection)
  deriving DecidableEq

def HubOp.apply (h : Hub) : HubOp → Hub
  | .add conn => (h.add conn).2
  | .remove conn => h.remove conn

def after (ops : List HubOp) : Hub := ops.foldl HubOp.apply newHub

def Current (h : Hub) (c : AgentConnection) : Prop := h.get c.agentID = some c

instance (h : Hub) (c : AgentConnection) : Decidable (Current h c) :=
  inferInstanceAs (Decidable (_ = _))

lemma org_eq_some {c : AgentConnection} {o : Bytes} : org c = some o ↔ o ≠ [] ∧ c.orgID = o := by
  simp only [org]
  split_ifs with h
  · simp only [false_iff, not_and, h]
    exact fun ho => Ne.symm ho
  · simp only [Option.some.injEq, iff_and_self]
    rintro rfl
    exact h

section Steps

variable {h : Hub} {c : AgentConnection}

lemma indexed_newHub : Indexed newHub where
  keyed id c hc := by simp [newHub] at hc
  grouped := GroupedIndex.indexed_empty

lemma Indexed.no_org (hi : Indexed h) (id : Bytes) : GroupedIndex.member h.byOrg [] id = none := by
  cases hm : GroupedIndex.member h.byOrg [] id with
  | none => rfl
  | some c => exact absurd rfl (org_eq_some.mp ((hi.grouped [] id c).mp hm).2).1

lemma Indexed.leave (hi : Indexed h) {id : Bytes} (hc : h.agents.lookup id = some c) :
    GroupedIndex.Indexed org (h.agents.erase id) (GroupedIndex.leave h.byOrg c.orgID id) := by
  apply GroupedIndex.indexed_erase hi.grouped hc
  intro o l
  simp only [GroupedIndex.member_leave, org_eq_some]
  by_cases ho : o = []
  -- an agent without organisation has no group to leave
  · subst ho
    simp [hi.no_org]
  · simp [ho, eq_comm]

lemma Indexed.clear (hi : Indexed h) (conn : AgentConnection) : ∃ cleared : Hub,
    (h.add conn).2 =
      { agents := cleared.agents.insert conn.agentID conn
        byOrg :=
          if conn.orgID ≠ [] then GroupedIndex.enter cleared.byOrg conn.orgID conn.agentID conn
          else cleared.byOrg } ∧
      Indexed cleared ∧ cleared.agents.lookup conn.agentID = none := by
  cases he : h.agents.lookup conn.agentID with
  | none => exact ⟨h, by simp only [Hub.add, he], hi, he⟩
  | some e =>
    refine ⟨⟨h.agents.erase conn.agentID, GroupedIndex.leave h.byOrg e.orgID conn.agentID⟩,
      by simp only [Hub.add, he], ⟨?_, hi.leave he⟩, Finmap.lookup_erase _ _⟩
    intro id c hc
    rw [Table.lookup_erase] at hc
    split_ifs at hc
    exact hi.keyed id c hc

lemma Indexed.add (hi : Indexed h) (conn : AgentConnection) : Indexed (h.add conn).2 := by
  obtain ⟨cleared, heq, hcl, hnone⟩ := hi.clear conn
  rw [heq]
  constructor
  · intro id c hc
    rw [Table.lookup_insert] at hc
    split_ifs at hc with hid
    · obtain rfl := Option.some.inj hc
      exact hid.symm
    · exact hcl.keyed id c hc
  · apply GroupedIndex.indexed_insert hcl.grouped hnone
    intro o l
    simp only [org_eq_some]
    by_cases ho : conn.orgID = []
    · simp [ho]
    · simp only [ne_eq, ho, not_false_eq_true, if_true, GroupedIndex.member_enter]
      have hiff : (o = conn.orgID ∧ l = conn.agentID) ↔
          ((o ≠ [] ∧ conn.orgID = o) ∧ l = conn.agentID) := by
        constructor
        · rintro ⟨rfl, hl⟩
          exact ⟨⟨ho, rfl⟩, hl⟩
        · rintro ⟨⟨_, rfl⟩, hl⟩
          exact ⟨rfl, hl⟩
      simp only [hiff, ne_eq]

lemma Indexed.remove (hi : Indexed h) (conn : AgentConnection) : Indexed (h.remove conn) := by
  simp only [Hub.remove]
  split_ifs with hc
  · constructor
    · intro id c hl
      rw [Table.lookup_erase] at hl
      split_ifs at hl
      exact hi.keyed id c hl
    · intro o id c
      rw [GroupedIndex.member_leaveAndDrop]
      exact hi.leave hc o id c
  · exact hi

lemma indexed_after (ops : List HubOp) : Indexed (after ops) := by
  induction ops using List.reverseRecOn with
  | nil => exact indexed_newHub
  | append_singleton ops op ih =>
    rw [after, List.foldl_append, List.foldl_cons, List.foldl_nil]
    cases op with
    | add conn => exact ih.add conn
    | remove conn => exact ih.remove conn

end Steps

section Readers

variable {h : Hub} {o : Bytes} {order : Table.RangeOrder Bytes}

lemma Indexed.member_iff (hi : Indexed h) (ho : o ≠ []) (id : Bytes) (c : AgentConnection) :
    GroupedIndex.member h.byOrg o id = some c ↔ Current h c ∧ c.orgID = o ∧ c.agentID = id := by
  rw [hi.grouped o id c, org_eq_some]
  constructor
  · rintro ⟨hc, _, rfl⟩
    obtain rfl := hi.keyed id c hc
    exact ⟨hc, rfl, rfl⟩
  · rintro ⟨hc, rfl, rfl⟩
    exact ⟨hc, ho, rfl⟩

lemma mem_getAgentsByOrg (hi : Indexed h) (ho : o ≠ []) (c : AgentConnection) :
    c ∈ h.getAgentsByOrg order o ↔ Current h c ∧ c.orgID = o := by
  have hm : c ∈ h.getAgentsByOrg order o ↔ ∃ id, GroupedIndex.member h.byOrg o id = some c := by
    simp only [Hub.getAgentsByOrg, GroupedIndex.member]
    cases h.byOrg.lookup o with
    | none => simp
    | some g => simp [order.mem_entries]
  rw [hm]
  constructor
  · rintro ⟨id, hid⟩
    obtain ⟨hc, horg, _⟩ := (hi.member_iff ho id c).mp hid
    exact ⟨hc, horg⟩
  · rintro ⟨hc, horg⟩
    exact ⟨c.agentID, (hi.member_iff ho _ c).mpr ⟨hc, horg, rfl⟩⟩

lemma nodup_getAgentsByOrg (order : Table.RangeOrder Bytes) (hi : Indexed h) (ho : o ≠ []) :
    (h.getAgentsByOrg order o).Nodup := by
  have hkeys : (h.getAgentsByOrg order o).map AgentConnection.agentID =
      ((h.byOrg.lookup o).map fun g => (order.entries g).map Prod.fst).getD [] := by
    simp only [Hub.getAgentsByOrg]
    cases hg : h.byOrg.lookup o with
    | none => rfl
    | some g =>
      simp only [List.map_map, Option.map_some, Option.getD_some]
      apply List.map_congr_left
      rintro ⟨id, c⟩ hc
      have hm : GroupedIndex.member h.byOrg o id = some c := by
        rw [GroupedIndex.member, hg, Option.bind_some]
        exact (order.mem_entries g id c).mp hc
      exact ((hi.member_iff ho id c).mp hm).2.2
  apply List.Nodup.of_map AgentConnection.agentID
  rw [hkeys]
  cases h.byOrg.lookup o with
  | none => exact List.nodup_nil
  | some g => exact order.nodup_keys g

lemma foldl_update {α β : Type*} [DecidableEq α] (g : α → β → β) (f : α → β) {l : List α}
    (hl : l.Nodup) (x : α) :
    l.foldl (fun f a => Function.update f a (g a (f a))) f x = if x ∈ l then g x (f x) else f x := by
  induction l generalizing f with
  | nil => simp
  | cons a l ih =>
    obtain ⟨ha, hl'⟩ := List.nodup_cons.mp hl
    rw [List.foldl_cons, ih _ hl']
    by_cases hx : x = a
    · subst hx
      simp [ha]
    · simp [hx]

lemma getAgentsByOrg_nil (order : Table.RangeOrder Bytes) (hi : Indexed h) :
    h.getAgentsByOrg order [] = [] := by
  simp only [Hub.getAgentsByOrg]
  cases hg : h.byOrg.lookup [] with
  | none => rfl
  | some g =>
    rw [List.map_eq_nil_iff, List.eq_nil_iff_forall_not_mem]
    rintro ⟨id, c⟩ hc
    have hno := hi.no_org id
    rw [GroupedIndex.member, hg, Option.bind_some, (order.mem_entries g id c).mp hc] at hno
    cases hno

section Turns

variable {pick : Bool} {draw : Draw} {msgType : Bytes} {payload : Payload} {b : Outbox}

lemma broadcastTurn_queues {msg : WSMessage} (hmsg : newMessage draw msgType payload = some msg)
    (hroom : b.queued.length < sendChannelBuffer) (hpick : b.cancelled = false ∨ pick = true) :
    Hub.broadcastTurn pick draw msgType payload b =
      { b with queued := b.queued ++ [msg.marshal] } := by
  rw [Hub.broadcastTurn, hmsg]
  simp only [Outbox.writeMessage]
  rw [if_pos ⟨hroom, hpick⟩]

lemma broadcastTurn_drops (h : newMessage draw msgType payload = none ∨
      sendChannelBuffer ≤ b.queued.length ∨ b.cancelled = true ∧ pick = false) :
    Hub.broadcastTurn pick draw msgType payload b = b := by
  rw [Hub.broadcastTurn]
  cases hmsg : newMessage draw msgType payload with
  | none => rfl
  | some msg =>
    have hno : ¬ (b.queued.length < sendChannelBuffer ∧ (b.cancelled = false ∨ pick = true)) := by
      rintro ⟨hroom, hpick⟩
      rcases h with hnone | hfull | ⟨hcancel, hskip⟩
      · rw [hmsg] at hnone
        cases hnone
      · omega
      · rw [hcancel, hskip] at hpick
        simp at hpick
    simp only [Outbox.writeMessage]
    rw [if_neg hno]
    split_ifs <;> rfl

end Turns

lemma broadcastToOrg_eq (hi : Indexed h) (ho : o ≠ []) (pick : AgentConnection → Bool)
    (draw : AgentConnection → Draw) (boxes : AgentConnection → Outbox) (msgType : Bytes)
    (payload : Payload) (c : AgentConnection) :
    h.broadcastToOrg order pick draw boxes o msgType payload c =
      if Current h c ∧ c.orgID = o then
        Hub.broadcastTurn (pick c) (draw c) msgType payload (boxes c)
      else boxes c := by
  have hturn := foldl_update (fun conn => Hub.broadcastTurn (pick conn) (draw conn) msgType payload)
    boxes (nodup_getAgentsByOrg order hi ho) c
  rw [Hub.broadcastToOrg, hturn]
  simp only [mem_getAgentsByOrg hi ho]

end Readers

/-- The index, the listing and the broadcast of an organisation reach its current connections, each
once, and no other. A broadcast puts one message into a channel that it reaches, unless the message
cannot be made, the channel is full, or the context is cancelled and wins the select. -/
theorem org_index (ops : List HubOp) (o : Bytes) (ho : o ≠ []) :
    (∀ id c, GroupedIndex.member (after ops).byOrg o id = some c ↔
      Current (after ops) c ∧ c.orgID = o ∧ c.agentID = id) ∧
    ∀ order : Table.RangeOrder Bytes,
      ((after ops).getAgentsByOrg order o).Nodup ∧
      (∀ c, c ∈ (after ops).getAgentsByOrg order o ↔ Current (after ops) c ∧ c.orgID = o) ∧
      ∀ pick draw boxes msgType payload c,
        (Current (after ops) c ∧ c.orgID = o →
          (∀ msg, newMessage (draw c) msgType payload = some msg →
            (boxes c).queued.length < sendChannelBuffer →
            (boxes c).cancelled = false ∨ pick c = true →
            (after ops).broadcastToOrg order pick draw boxes o msgType payload c =
              { boxes c with queued := (boxes c).queued ++ [msg.marshal] }) ∧
          (newMessage (draw c) msgType payload = none ∨
              sendChannelBuffer ≤ (boxes c).queued.length ∨
              (boxes c).cancelled = true ∧ pick c = false →
            (after ops).broadcastToOrg order pick draw boxes o msgType payload c = boxes c)) ∧
        (¬ (Current (after ops) c ∧ c.orgID = o) →
          (after ops).broadcastToOrg order pick draw boxes o msgType payload c = boxes c) := by
  have hi := indexed_after ops
  refine ⟨hi.member_iff ho, fun order => ?_⟩
  refine ⟨nodup_getAgentsByOrg order hi ho, mem_getAgentsByOrg hi ho, ?_⟩
  intro pick draw boxes msgType payload c
  rw [broadcastToOrg_eq hi ho]
  constructor
  · intro hc
    rw [if_pos hc]
    exact ⟨fun msg => broadcastTurn_queues, broadcastTurn_drops⟩
  · intro hc
    rw [if_neg hc]

def firstConnection : AgentConnection := ⟨1, ascii "agent", ascii "red", ascii "1.0.0"⟩
def secondConnection : AgentConnection := ⟨2, ascii "agent", ascii "blue", ascii "1.0.0"⟩

theorem org_index_reconnect :
    GroupedIndex.member (after [.add firstConnection, .add secondConnection,
      .remove firstConnection]).byOrg (ascii "blue") (ascii "agent") = some secondConnection ∧
    firstConnection ∉ (after [.add firstConnection, .add secondConnection,
      .remove firstConnection]).getAgentsByOrg .byCode (ascii "red") ∧
    (after [.add firstConnection, .add secondConnection, .remove firstConnection]).broadcastToOrg
        .byCode (fun _ => true) (fun _ => ⟨some [7], ascii "now"⟩) (fun _ => ⟨[], false⟩)
        (ascii "blue") msgServerTunnelUpdate .absent secondConnection =
      ⟨[WSMessage.marshal
          ⟨msgServerTunnelUpdate, Numerals.hexEncode [7], ascii "now", none⟩], false⟩ := by
  have hblue := org_index [.add firstConnection, .add secondConnection, .remove firstConnection]
    (ascii "blue") (by decide)
  have hred := org_index [.add firstConnection, .add secondConnection, .remove firstConnection]
    (ascii "red") (by decide)
  have hcurrent : Current (after [.add firstConnection, .add secondConnection,
      .remove firstConnection]) secondConnection := rfl
  refine ⟨(hblue.1 _ _).mpr ⟨hcurrent, rfl, rfl⟩, ?_, ?_⟩
  · rw [(hred.2 .byCode).2.1]
    decide
  · have hturn := (hblue.2 .byCode).2.2 (fun _ => true) (fun _ => ⟨some [7], ascii "now"⟩)
      (fun _ => ⟨[], false⟩) msgServerTunnelUpdate .absent secondConnection
    exact (hturn.1 ⟨hcurrent, rfl⟩).1 _ rfl (by decide) (.inl rfl)

end OmniTun.Gateway.HubIndex
