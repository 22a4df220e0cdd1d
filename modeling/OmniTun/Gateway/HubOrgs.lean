import OmniTun.Foundation.Transition
import OmniTun.Gateway.HubIndex
import Mathlib.Data.Set.Card

/-! The organisations that the hub counts, against those with a connected agent. -/

namespace OmniTun.Gateway

open OmniTun.Foundation

structure HubStats where
  agentCount : ℕ
  orgCount : ℕ
  agents : Table Bytes (List Bytes)

def Hub.marshalJSON (h : Hub) (order : Table.RangeOrder Bytes) : HubStats where
  agentCount := h.agents.keys.card
  orgCount := h.byOrg.keys.card
  agents := (order.entries h.byOrg).foldl
    (fun agents e => agents.insert e.1 ((order.entries e.2).map Prod.fst)) ∅

namespace HubOrgs

open HubIndex

def HasAgent (h : Hub) (o : Bytes) : Prop := ∃ id c, h.agents.lookup id = some c ∧ c.orgID = o

def OrgsMatch (h : Hub) : Prop :=
  (∀ o, o ≠ [] → (o ∈ h.byOrg ↔ HasAgent h o)) ∧
    ∀ order, (h.marshalJSON order).orgCount = Set.ncard {o | o ≠ [] ∧ HasAgent h o}

def step (h : Hub) (op : HubOp) : Option Hub := some (op.apply h)

/-- The agent comes back under another organisation, and it was the last one of the old. -/
def Strands (h : Hub) : HubOp → Prop
  | .add conn => ∃ e, h.agents.lookup conn.agentID = some e ∧ e.orgID ≠ [] ∧ e.orgID ≠ conn.orgID ∧
      ∀ id c, h.agents.lookup id = some c → c.orgID = e.orgID → id = conn.agentID
  | .remove _ => False

def NoStale (h : Hub) : Prop := ∀ o, ¬ GroupedIndex.Stale h.byOrg o

structure Formed (h : Hub) : Prop where
  indexed : Indexed h
  named : ([] : Bytes) ∉ h.byOrg

variable {h : Hub} {o : Bytes}

lemma Formed.hasAgent_iff (hf : Formed h) (ho : o ≠ []) :
    HasAgent h o ↔ ∃ id c, GroupedIndex.member h.byOrg o id = some c := by
  apply exists_congr
  intro id
  apply exists_congr
  intro c
  rw [hf.indexed.grouped o id c, org_eq_some]
  constructor
  · rintro ⟨hc, rfl⟩
    exact ⟨hc, ho, rfl⟩
  · rintro ⟨hc, _, rfl⟩
    exact ⟨hc, rfl⟩

lemma Formed.orgsMatch_iff (hf : Formed h) : OrgsMatch h ↔ NoStale h := by
  constructor
  · rintro ⟨hmem, _⟩ o hs
    have ho : o ≠ [] := by
      rintro rfl
      exact hf.named hs.mem
    obtain ⟨id, c, hc⟩ := (hf.hasAgent_iff ho).mp ((hmem o ho).mp hs.mem)
    rw [hs.member_eq_none id] at hc
    cases hc
  · intro hs
    have hmem : ∀ o, o ≠ [] → (o ∈ h.byOrg ↔ HasAgent h o) := by
      intro o ho
      rw [hf.hasAgent_iff ho]
      exact GroupedIndex.mem_iff_member (hs o)
    refine ⟨hmem, fun order => ?_⟩
    have hkeys : {o | o ≠ [] ∧ HasAgent h o} = (h.byOrg.keys : Set Bytes) := by
      ext o
      rw [Set.mem_ofPred_eq, Finset.mem_coe, Finmap.mem_keys]
      constructor
      · rintro ⟨ho, ha⟩
        exact (hmem o ho).mpr ha
      · intro ho
        have hne : o ≠ [] := fun hnil => hf.named (hnil ▸ ho)
        exact ⟨hne, (hmem o hne).mp ho⟩
    rw [hkeys, Set.ncard_coe_finset]
    rfl

lemma formed_newHub : Formed newHub where
  indexed := indexed_newHub
  named := Finmap.notMem_empty

lemma noStale_newHub : NoStale newHub := fun _ => GroupedIndex.not_stale_empty

lemma add_some {e conn : AgentConnection} (he : h.agents.lookup conn.agentID = some e) :
    (h.add conn).2.byOrg =
      if conn.orgID ≠ [] then
        GroupedIndex.enter (GroupedIndex.leave h.byOrg e.orgID conn.agentID) conn.orgID
          conn.agentID conn
      else GroupedIndex.leave h.byOrg e.orgID conn.agentID := by
  simp only [Hub.add, he]

lemma add_none {conn : AgentConnection} (he : h.agents.lookup conn.agentID = none) :
    (h.add conn).2.byOrg =
      if conn.orgID ≠ [] then GroupedIndex.enter h.byOrg conn.orgID conn.agentID conn
      else h.byOrg := by
  simp only [Hub.add, he]

lemma Formed.step (hf : Formed h) (op : HubOp) : Formed (op.apply h) := by
  cases op with
  | add conn =>
    refine ⟨hf.indexed.add conn, ?_⟩
    change [] ∉ (h.add conn).2.byOrg
    cases he : h.agents.lookup conn.agentID with
    | none =>
      rw [add_none he]
      split_ifs with ho
      · rw [GroupedIndex.mem_enter, not_or]
        exact ⟨Ne.symm ho, hf.named⟩
      · exact hf.named
    | some e =>
      rw [add_some he]
      split_ifs with ho
      · rw [GroupedIndex.mem_enter, GroupedIndex.mem_leave, not_or]
        exact ⟨Ne.symm ho, hf.named⟩
      · rw [GroupedIndex.mem_leave]
        exact hf.named
  | remove conn =>
    refine ⟨hf.indexed.remove conn, ?_⟩
    change [] ∉ (h.remove conn).byOrg
    simp only [Hub.remove]
    split_ifs
    · exact fun hm => hf.named (GroupedIndex.mem_of_mem_leaveAndDrop hm)
    · exact hf.named

lemma noStale_remove (hs : NoStale h) (conn : AgentConnection) : NoStale (h.remove conn) := by
  intro o
  simp only [Hub.remove]
  split_ifs
  · rw [GroupedIndex.stale_leaveAndDrop]
    exact fun ho => hs o ho.2
  · exact hs o

lemma noStale_enter {groups : Table Bytes (Table Bytes AgentConnection)} {conn : AgentConnection}
    (o : Bytes) : GroupedIndex.Stale
      (if conn.orgID ≠ [] then GroupedIndex.enter groups conn.orgID conn.agentID conn else groups)
      o ↔ ¬ (conn.orgID ≠ [] ∧ o = conn.orgID) ∧ GroupedIndex.Stale groups o := by
  split_ifs with ho
  · rw [GroupedIndex.stale_enter]
    simp [ho]
  · simp [ho]

lemma noStale_add (hf : Formed h) (hs : NoStale h) (conn : AgentConnection) :
    NoStale (h.add conn).2 ↔ ¬ Strands h (.add conn) := by
  cases he : h.agents.lookup conn.agentID with
  | none =>
    have hno : ¬ Strands h (.add conn) := by
      rintro ⟨e, hl, _⟩
      rw [he] at hl
      cases hl
    refine iff_of_true ?_ hno
    intro o
    rw [add_none he, noStale_enter]
    exact fun ho => hs o ho.2
  | some e =>
    have hgroup : e.orgID ≠ [] → (e.orgID ∈ h.byOrg ∧
        (∀ l c, GroupedIndex.member h.byOrg e.orgID l = some c → l = conn.agentID) ↔
        ∀ id c, h.agents.lookup id = some c → c.orgID = e.orgID → id = conn.agentID) := by
      intro ho
      have hmem : e.orgID ∈ h.byOrg := by
        rw [GroupedIndex.mem_iff_member (hs _), ← hf.hasAgent_iff ho]
        exact ⟨conn.agentID, e, he, rfl⟩
      simp only [hmem, true_and, hf.indexed.grouped e.orgID _ _, org_eq_some, ho, ne_eq,
        not_false_eq_true, and_imp]
    have hstale : ∀ o, GroupedIndex.Stale (h.add conn).2.byOrg o ↔
        ¬ (conn.orgID ≠ [] ∧ o = conn.orgID) ∧ o = e.orgID ∧ o ∈ h.byOrg ∧
          ∀ l c, GroupedIndex.member h.byOrg o l = some c → l = conn.agentID := by
      intro o
      rw [add_some he, noStale_enter, GroupedIndex.stale_leave]
      by_cases ho : o = e.orgID
      · rw [if_pos ho]
        simp only [ho, true_and]
      · rw [if_neg ho]
        simp only [ho, hs o, false_and, and_false]
    rw [NoStale, ← not_exists]
    apply not_congr
    constructor
    · rintro ⟨o, ho⟩
      obtain ⟨hnew, rfl, hmem, hlast⟩ := (hstale o).mp ho
      have hne : e.orgID ≠ [] := fun hnil => hf.named (hnil ▸ hmem)
      refine ⟨e, he, hne, ?_, (hgroup hne).mp ⟨hmem, hlast⟩⟩
      intro hsame
      exact hnew ⟨hsame ▸ hne, hsame⟩
    · rintro ⟨e', he', hne, hother, hlast⟩
      obtain rfl : e = e' := Option.some.inj (he.symm.trans he')
      obtain ⟨hmem, hmembers⟩ := (hgroup hne).mpr hlast
      exact ⟨e.orgID, (hstale e.orgID).mpr ⟨fun hsame => hother hsame.2, rfl, hmem, hmembers⟩⟩

lemma noStale_step (hf : Formed h) (hs : NoStale h) (op : HubOp) :
    NoStale (op.apply h) ↔ ¬ Strands h op := by
  cases op with
  | add conn => exact noStale_add hf hs conn
  | remove conn => exact iff_of_true (noStale_remove hs conn) id

theorem orgs_match_iff (ops : List HubOp) :
    Transition.Always step OrgsMatch newHub ops ↔
      Transition.Guarded step (fun h op => ¬ Strands h op) newHub ops := by
  apply Transition.always_iff_guarded (formed_newHub.orgsMatch_iff.mpr noStale_newHub) formed_newHub
  intro h op t hm hf ht
  obtain rfl : op.apply h = t := Option.some.inj ht
  have hnext := hf.step op
  refine ⟨?_, fun _ => hnext⟩
  rw [hnext.orgsMatch_iff]
  exact noStale_step hf (hf.orgsMatch_iff.mp hm) op

theorem moved_agent_keeps_org :
    ¬ ∀ ops : List HubOp, Transition.Always step OrgsMatch newHub ops := by
  intro hall
  have hm := (hall [.add firstConnection, .add secondConnection]).last rfl
  obtain ⟨id, c, hc, ho⟩ := (hm.1 (ascii "red") (by decide)).mp (by decide)
  have hagents : Finmap.lookup id (((newHub.agents.insert (ascii "agent") firstConnection).erase
      (ascii "agent")).insert (ascii "agent") secondConnection) = some c := hc
  rw [Table.lookup_insert, Table.lookup_erase] at hagents
  by_cases hid : id = ascii "agent"
  · rw [if_pos hid] at hagents
    obtain rfl := Option.some.inj hagents
    exact absurd ho (by decide)
  · rw [if_neg hid, if_neg hid, Table.lookup_insert, if_neg hid] at hagents
    exact absurd hagents (by simp [newHub])

end HubOrgs

end OmniTun.Gateway
