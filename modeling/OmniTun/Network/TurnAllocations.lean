import OmniTun.Foundation.Transition
import OmniTun.Network.Turn

/-! The allocations of the users over whole runs of the relay. -/

namespace OmniTun.Network.Turn

open OmniTun.Foundation Transition

inductive Op (UDPAddr : Type)
  | createAllocation (order : Table.RangeOrder Bytes) (username : Bytes)
    (random : Except Bytes (Fin 8 → UInt8)) (createdAt now : ℤ)
  | registerPeer (allocID : Bytes) (peer : UDPAddr) (now : ℤ)
  | sendTo (allocID data : Bytes) (peer : UDPAddr) (written : Except Bytes ℕ) (now : ℤ)
  | removeAllocation (allocID : Bytes)
  | cleanupExpired (order : Table.RangeOrder Bytes) (now : ℤ)
  | handleIncomingData (order : Table.RangeOrder Bytes) (data : Bytes) (remote : UDPAddr) (now : ℤ)
  | stop (closeErr : Option Bytes)

variable {UDPAddr : Type} {net : Addressing UDPAddr}

namespace Relay

def apply (t : Relay net) : Op UDPAddr → Relay net
  | .createAllocation order username random createdAt now =>
    (t.createAllocation order username random createdAt now).2
  | .registerPeer allocID peer now => (t.registerPeer allocID peer now).2
  | .sendTo allocID data peer written now => (t.sendTo allocID data peer written now).2.2
  | .removeAllocation allocID => (t.removeAllocation allocID).2
  | .cleanupExpired order now => t.cleanupExpired order now
  | .handleIncomingData order data remote now => (t.handleIncomingData order data remote now).2
  | .stop closeErr => (t.stop closeErr).2

def activity (t : Relay net) : Op UDPAddr → Option (Bytes × ℤ)
  | .createAllocation order username random createdAt now =>
    (t.createAllocation order username random createdAt now).1.1.map fun a => (a.id, now)
  | .registerPeer allocID peer now =>
    (t.registerPeer allocID peer now).1.toOption.map fun _ => (allocID, now)
  | .sendTo allocID data peer written now =>
    if (t.sendTo allocID data peer written now).1 = none then some (allocID, now) else none
  | _ => none

end Relay

def Op.isStop : Op UDPAddr → Bool
  | .stop _ => true
  | _ => false

/-- The relay, with what its callers have seen of it: the activities, the latest first, and whether
it has been stopped. -/
structure Observed (net : Addressing UDPAddr) where
  relay : Relay net
  activities : List (Bytes × ℤ)
  stopped : Bool

namespace Observed

def lastActivity (h : Observed net) (id : Bytes) : Option ℤ :=
  (h.activities.find? fun e => e.1 = id).map Prod.snd

def apply (h : Observed net) (op : Op UDPAddr) : Observed net where
  relay := h.relay.apply op
  activities := (h.relay.activity op).toList ++ h.activities
  stopped := h.stopped || op.isStop

def step (h : Observed net) (op : Op UDPAddr) : Option (Observed net) := some (h.apply op)

def fresh (net : Addressing UDPAddr) (started : Bool) : Observed net where
  relay := if started then Relay.newTURNRelay.start else Relay.newTURNRelay
  activities := []
  stopped := false

end Observed

def UniqueUsers (allocations : Allocations net) : Prop :=
  ∀ id id' a a', allocations.lookup id = some a → allocations.lookup id' = some a' →
    a.username = a'.username → id = id'

structure WellKept (h : Observed net) : Prop where
  unique : UniqueUsers h.relay.allocations
  stopped : h.stopped = true → h.relay.allocations = ∅

def Serves (h : Observed net) : Op UDPAddr → Prop
  | .createAllocation order username random createdAt now =>
    ∀ id a, h.relay.allocations.lookup id = some a → a.username = username →
      h.relay.createAllocation order username random createdAt now =
        ((some (a.renewed now), some .allocationExists),
          { h.relay with allocations := h.relay.allocations.insert id (a.renewed now) })
  | .cleanupExpired order now =>
    ∀ id a, (h.relay.cleanupExpired order now).allocations.lookup id = some a ↔
      h.relay.allocations.lookup id = some a ∧
        ∃ last, h.lastActivity id = some last ∧ now - last ≤ allocTTL
  | _ => True

/-- The socket does not close, and the relay keeps what it holds. -/
def Strands (h : Observed net) : Op UDPAddr → Prop
  | .stop closeErr => h.relay.closed = false ∧ h.relay.conn = true ∧ closeErr ≠ none ∧
      h.relay.allocations ≠ ∅
  | _ => False

/-! What an operation makes of the table. -/

inductive Change (old new : Allocations net) : Option (Bytes × ℤ) → Prop
  | dropped (h : ∀ id a, new.lookup id = some a → old.lookup id = some a) : Change old new none
  | touched {id : Bytes} {a a' : Allocation net} (h : old.lookup id = some a)
    (hnew : new = old.insert id a') (hid : a'.id = a.id) (husername : a'.username = a.username)
    (hclient : a'.clientAddr = a.clientAddr) : Change old new (some (id, a'.lastActive))
  | created {a : Allocation net} (h : ∀ id b, old.lookup id = some b → b.username ≠ a.username)
    (hnew : new = old.insert a.id a) (hclient : a.clientAddr = none) :
    Change old new (some (a.id, a.lastActive))

lemma Change.refl (allocations : Allocations net) : Change allocations allocations none :=
  .dropped fun _ _ h => h

structure Recorded (h : Observed net) : Prop where
  id_eq : ∀ id a, h.relay.allocations.lookup id = some a → a.id = id
  clientless : ∀ id a, h.relay.allocations.lookup id = some a → a.clientAddr = none
  lastActive : ∀ id a, h.relay.allocations.lookup id = some a →
    h.lastActivity id = some a.lastActive
  stopped : h.stopped = h.relay.closed

section Operations

variable {t : Relay net} {order : Table.RangeOrder Bytes}

lemma find_username {username id : Bytes} {a : Allocation net} (hu : UniqueUsers t.allocations)
    (ha : t.allocations.lookup id = some a) (hname : a.username = username) :
    (order.entries t.allocations).find? (fun e => e.2.username = username) = some (id, a) := by
  cases hfind : (order.entries t.allocations).find? fun e => e.2.username = username with
  | none =>
    have hmem := (order.mem_entries t.allocations id a).mpr ha
    have hnot := List.find?_eq_none.mp hfind (id, a) hmem
    exact absurd hname (by simpa using hnot)
  | some e =>
    obtain ⟨id', a'⟩ := e
    have ha' := (order.mem_entries t.allocations id' a').mp (List.mem_of_find?_eq_some hfind)
    have hname' : a'.username = username := by simpa using List.find?_some hfind
    obtain rfl := hu id' id a' a ha' ha (hname'.trans hname.symm)
    rw [ha] at ha'
    rw [Option.some.inj ha']

lemma createAllocation_existing {username id : Bytes} {a : Allocation net}
    (random : Except Bytes (Fin 8 → UInt8)) (createdAt now : ℤ) (hu : UniqueUsers t.allocations)
    (hopen : t.closed = false) (ha : t.allocations.lookup id = some a)
    (hname : a.username = username) :
    t.createAllocation order username random createdAt now =
      ((some (a.renewed now), some .allocationExists),
        { t with allocations := t.allocations.insert id (a.renewed now) }) := by
  unfold Relay.createAllocation
  rw [find_username hu ha hname, hopen]
  rfl

lemma createAllocation_change {username : Bytes} {random : Except Bytes (Fin 8 → UInt8)}
    {createdAt now : ℤ} (hid : ∀ id a, t.allocations.lookup id = some a → a.id = id) :
    Change t.allocations
      (t.createAllocation order username random createdAt now).2.allocations
      ((t.createAllocation order username random createdAt now).1.1.map fun a => (a.id, now)) := by
  unfold Relay.createAllocation
  split_ifs
  · exact .refl _
  cases hfind : (order.entries t.allocations).find? fun e => e.2.username = username with
  | some e =>
    obtain ⟨id, a⟩ := e
    have ha := (order.mem_entries t.allocations id a).mp (List.mem_of_find?_eq_some hfind)
    have hrenewed : (a.renewed now).id = id := hid id a ha
    have htouched : Change t.allocations (t.allocations.insert id (a.renewed now))
        (some (id, (a.renewed now).lastActive)) := .touched ha rfl rfl rfl rfl
    rw [← hrenewed] at htouched ⊢
    exact htouched
  | none =>
    cases random with
    | error err => exact .refl _
    | ok idBytes =>
      have hother : ∀ id b, t.allocations.lookup id = some b → b.username ≠ username := by
        intro id b hb
        have hmem := (order.mem_entries t.allocations id b).mpr hb
        simpa using List.find?_eq_none.mp hfind (id, b) hmem
      let alloc : Allocation net :=
        .new (Numerals.hexEncode (List.ofFn idBytes)) username createdAt now
      exact .created (a := alloc) hother rfl rfl

lemma registerPeer_change {allocID : Bytes} {peer : UDPAddr} {now : ℤ} :
    Change t.allocations (t.registerPeer allocID peer now).2.allocations
      ((t.registerPeer allocID peer now).1.toOption.map fun _ => (allocID, now)) := by
  cases h : t.allocations.lookup allocID with
  | none =>
    simp only [Relay.registerPeer, Turn.registerPeer, h]
    exact .refl _
  | some a =>
    have htouched : Change t.allocations
        (t.allocations.insert allocID (a.registerPeer peer now))
        (some (allocID, (a.registerPeer peer now).lastActive)) := .touched h rfl rfl rfl rfl
    simp only [Relay.registerPeer, Turn.registerPeer, h]
    exact htouched

lemma sendTo_change {allocID data : Bytes} {peer : UDPAddr} {written : Except Bytes ℕ} {now : ℤ} :
    Change t.allocations (t.sendTo allocID data peer written now).2.2.allocations
      (if (t.sendTo allocID data peer written now).1 = none then some (allocID, now)
        else none) := by
  cases h : t.allocations.lookup allocID with
  | none =>
    simp only [Relay.sendTo, h]
    exact .refl _
  | some a =>
    cases hconn : t.conn with
    | false =>
      simp only [Relay.sendTo, h, hconn]
      exact .refl _
    | true =>
      cases written with
      | error err =>
        simp only [Relay.sendTo, h, hconn]
        exact .refl _
      | ok n =>
        have htouched : Change t.allocations (t.allocations.insert allocID (a.sent n now))
            (some (allocID, (a.sent n now).lastActive)) := .touched h rfl rfl rfl rfl
        simp only [Relay.sendTo, h, hconn]
        exact htouched

lemma removeAllocation_change {allocID : Bytes} :
    Change t.allocations (t.removeAllocation allocID).2.allocations none := by
  rw [Relay.removeAllocation]
  split_ifs
  · exact .refl _
  cases t.allocations.lookup allocID with
  | none => exact .refl _
  | some a =>
    apply Change.dropped
    intro id b hb
    rw [Table.lookup_erase] at hb
    split_ifs at hb
    exact hb

lemma stop_change {closeErr : Option Bytes} :
    Change t.allocations (t.stop closeErr).2.allocations none := by
  unfold Relay.stop
  split_ifs
  · exact .refl _
  split
  · exact .refl _
  · exact .dropped fun id a h => by simp at h

lemma expired_iff {now last : ℤ} : allocTTL < sub now last ↔ allocTTL < now - last := by
  simp only [allocTTL, sub]
  omega

lemma lookup_foldl_erase {expired : Bytes × Allocation net → Prop} [DecidablePred expired]
    (es : List (Bytes × Allocation net)) (allocations : Allocations net) (id : Bytes)
    (a : Allocation net) :
    (es.foldl (fun m e => if expired e then m.erase e.1 else m) allocations).lookup id = some a ↔
      allocations.lookup id = some a ∧ ∀ e ∈ es, e.1 = id → ¬ expired e := by
  induction es generalizing allocations with
  | nil => simp
  | cons e es ih =>
    rw [List.foldl_cons, ih, List.forall_mem_cons]
    split_ifs with he
    · rw [Table.lookup_erase]
      split_ifs with hid
      · simp [he, hid]
      · simp [Ne.symm hid]
    · simp [he]

lemma lookup_cleanupExpired {now : ℤ} {id : Bytes} {a : Allocation net} :
    (t.cleanupExpired order now).allocations.lookup id = some a ↔
      t.allocations.lookup id = some a ∧ now - a.lastActive ≤ allocTTL := by
  rw [Relay.cleanupExpired, lookup_foldl_erase]
  apply and_congr_right
  intro ha
  constructor
  · intro hall
    have hkept := hall (id, a) ((order.mem_entries _ id a).mpr ha) rfl
    rwa [expired_iff, not_lt] at hkept
  · rintro hkept ⟨id', a'⟩ hmem rfl
    have ha' := (order.mem_entries _ _ _).mp hmem
    rw [ha] at ha'
    rw [← Option.some.inj ha', expired_iff, not_lt]
    exact hkept

lemma handleEntries_clientless {now : ℤ} {data : Bytes} {remote : UDPAddr}
    {es : List (Bytes × Allocation net)} (h : ∀ e ∈ es, e.2.clientAddr = none) :
    handleEntries now data remote t.allocations es = ([], t.allocations) := by
  induction es with
  | nil => rfl
  | cons e es ih =>
    obtain ⟨id, a⟩ := e
    obtain ⟨hclient, hrest⟩ := List.forall_mem_cons.mp h
    have hhas : a.hasClient remote = false := by
      rw [Allocation.hasClient, hclient]
      rfl
    dsimp only at hclient
    rw [handleEntries, ih hrest, hclient, hhas]
    simp

lemma handleIncomingData_clientless {now : ℤ} {data : Bytes} {remote : UDPAddr}
    (h : ∀ id a, t.allocations.lookup id = some a → a.clientAddr = none) :
    t.handleIncomingData order data remote now = ([], t) := by
  have hentries : ∀ e ∈ order.entries t.allocations, e.2.clientAddr = none := by
    rintro ⟨id, a⟩ he
    exact h id a ((order.mem_entries _ id a).mp he)
  rw [Relay.handleIncomingData, Turn.handleIncomingData, handleEntries_clientless hentries]

lemma apply_change {h : Observed net} (hr : Recorded h) (op : Op UDPAddr) :
    Change h.relay.allocations (h.apply op).relay.allocations (h.relay.activity op) := by
  cases op with
  | createAllocation order username random createdAt now => exact createAllocation_change hr.id_eq
  | registerPeer allocID peer now => exact registerPeer_change
  | sendTo allocID data peer written now => exact sendTo_change
  | removeAllocation allocID => exact removeAllocation_change
  | cleanupExpired order now =>
    apply Change.dropped
    intro id a ha
    exact (lookup_cleanupExpired.mp ha).1
  | handleIncomingData order data remote now =>
    apply Change.dropped
    intro id a ha
    rwa [Observed.apply, Relay.apply, handleIncomingData_clientless hr.clientless] at ha
  | stop closeErr => exact stop_change

lemma apply_closed (h : Observed net) (op : Op UDPAddr) :
    (h.apply op).relay.closed = (h.relay.closed || op.isStop) := by
  cases op with
  | createAllocation order username random createdAt now =>
    simp only [Observed.apply, Relay.apply, Relay.createAllocation, Op.isStop, Bool.or_false]
    split_ifs
    · rfl
    · split
      · rfl
      · split <;> rfl
  | registerPeer allocID peer now =>
    simp only [Observed.apply, Relay.apply, Relay.registerPeer, Op.isStop, Bool.or_false]
    split <;> rfl
  | sendTo allocID data peer written now =>
    simp only [Observed.apply, Relay.apply, Relay.sendTo, Op.isStop, Bool.or_false]
    split
    · rfl
    · split_ifs
      · split <;> rfl
      · rfl
  | removeAllocation allocID =>
    simp only [Observed.apply, Relay.apply, Relay.removeAllocation, Op.isStop, Bool.or_false]
    split_ifs
    · rfl
    · split <;> rfl
  | cleanupExpired order now => simp [Observed.apply, Relay.apply, Relay.cleanupExpired, Op.isStop]
  | handleIncomingData order data remote now =>
    simp [Observed.apply, Relay.apply, Relay.handleIncomingData, Op.isStop]
  | stop closeErr =>
    simp only [Observed.apply, Relay.apply, Relay.stop, Op.isStop, Bool.or_true]
    split_ifs with hclosed
    · exact hclosed
    · split <;> rfl

end Operations

/-! What a change keeps. -/

lemma Change.unique {old new : Allocations net} {r : Option (Bytes × ℤ)} (h : Change old new r)
    (hu : UniqueUsers old) : UniqueUsers new := by
  intro id id' a a' ha ha' hname
  cases h with
  | dropped hold => exact hu id id' a a' (hold id a ha) (hold id' a' ha') hname
  | @touched k b b' hb hnew hid husername hclient =>
    have hsame : ∀ i c, new.lookup i = some c → ∃ d, old.lookup i = some d ∧
        d.username = c.username := by
      intro i c hc
      rw [hnew, Table.lookup_insert] at hc
      split_ifs at hc with hi
      · exact ⟨b, hi ▸ hb, by rw [← Option.some.inj hc, husername]⟩
      · exact ⟨c, hc, rfl⟩
    obtain ⟨d, hd, hdname⟩ := hsame id a ha
    obtain ⟨d', hd', hdname'⟩ := hsame id' a' ha'
    exact hu id id' d d' hd hd' (by rw [hdname, hdname', hname])
  | @created b hother hnew hclient =>
    rw [hnew, Table.lookup_insert] at ha ha'
    split_ifs at ha ha' with hid hid' hid'
    · rw [hid, hid']
    · exact absurd (Option.some.inj ha ▸ hname).symm (hother id' a' ha')
    · exact absurd (Option.some.inj ha' ▸ hname) (hother id a ha)
    · exact hu id id' a a' ha ha' hname

lemma lastActivity_cons {h : Observed net} {op : Op UDPAddr} {id : Bytes} {now : ℤ} (k : Bytes)
    (hop : h.relay.activity op = some (id, now)) :
    (h.apply op).lastActivity k = if id = k then some now else h.lastActivity k := by
  simp only [Observed.lastActivity, Observed.apply, hop, Option.toList_some, List.singleton_append,
    List.find?_cons]
  by_cases hk : id = k
  · simp [hk]
  · simp [hk]

lemma lastActivity_none {h : Observed net} {op : Op UDPAddr} (k : Bytes)
    (hop : h.relay.activity op = none) : (h.apply op).lastActivity k = h.lastActivity k := by
  simp only [Observed.lastActivity, Observed.apply, hop, Option.toList_none, List.nil_append]

lemma Recorded.apply {h : Observed net} (hr : Recorded h) (op : Op UDPAddr) :
    Recorded (h.apply op) := by
  have hstopped : (h.apply op).stopped = (h.apply op).relay.closed := by
    rw [apply_closed, ← hr.stopped]
    rfl
  have hchange := apply_change hr op
  generalize hnew : (h.apply op).relay.allocations = new at hchange
  generalize hop : h.relay.activity op = r at hchange
  suffices hentry : ∀ id a, new.lookup id = some a → a.id = id ∧ a.clientAddr = none ∧
      (h.apply op).lastActivity id = some a.lastActive by
    rw [← hnew] at hentry
    exact ⟨fun id a ha => (hentry id a ha).1, fun id a ha => (hentry id a ha).2.1,
      fun id a ha => (hentry id a ha).2.2, hstopped⟩
  intro id a ha
  cases hchange with
  | dropped hold =>
    have hold' := hold id a ha
    rw [lastActivity_none id hop]
    exact ⟨hr.id_eq id a hold', hr.clientless id a hold', hr.lastActive id a hold'⟩
  | @touched k b b' hb hins hid husername hclient =>
    rw [lastActivity_cons id hop]
    rw [hins, Table.lookup_insert] at ha
    split_ifs at ha with hk
    · obtain rfl := Option.some.inj ha
      rw [if_pos hk.symm, hid, hclient, hk]
      exact ⟨hr.id_eq k b hb, hr.clientless k b hb, rfl⟩
    · rw [if_neg (Ne.symm hk)]
      exact ⟨hr.id_eq id a ha, hr.clientless id a ha, hr.lastActive id a ha⟩
  | @created b hother hins hclient =>
    rw [lastActivity_cons id hop]
    rw [hins, Table.lookup_insert] at ha
    split_ifs at ha with hk
    · obtain rfl := Option.some.inj ha
      rw [if_pos hk.symm]
      exact ⟨hk.symm, hclient, rfl⟩
    · rw [if_neg (Ne.symm hk)]
      exact ⟨hr.id_eq id a ha, hr.clientless id a ha, hr.lastActive id a ha⟩

lemma serves {h : Observed net} (hr : Recorded h) (hw : WellKept h) (op : Op UDPAddr) :
    Serves h op := by
  cases op with
  | createAllocation order username random createdAt now =>
    intro id a ha hname
    have hopen : h.relay.closed = false := by
      rw [← hr.stopped, ← Bool.not_eq_true]
      intro hstopped
      rw [hw.stopped hstopped] at ha
      simp at ha
    exact createAllocation_existing random createdAt now hw.unique hopen ha hname
  | cleanupExpired order now =>
    intro id a
    rw [lookup_cleanupExpired]
    apply and_congr_right
    intro ha
    rw [hr.lastActive id a ha]
    simp
  | _ => trivial

lemma empty_of_change {new : Allocations net} {r : Option (Bytes × ℤ)}
    (h : Change (∅ : Allocations net) new r) (hr : r = none) : new = ∅ := by
  subst hr
  cases h with
  | dropped hold =>
    apply Finmap.ext_lookup
    intro id
    cases ha : new.lookup id with
    | none => simp
    | some a =>
      have hnone := hold id a ha
      simp at hnone

lemma activity_closed {t : Relay net} (hclosed : t.closed = true) (hempty : t.allocations = ∅)
    (op : Op UDPAddr) : t.activity op = none := by
  cases op with
  | createAllocation order username random createdAt now =>
    simp [Relay.activity, Relay.createAllocation, hclosed]
  | registerPeer allocID peer now =>
    simp [Relay.activity, Relay.registerPeer, Turn.registerPeer, hempty, Except.toOption]
  | sendTo allocID data peer written now => simp [Relay.activity, Relay.sendTo, hempty]
  | _ => rfl

lemma stop_empty_iff {h : Observed net} {closeErr : Option Bytes}
    (hempty : h.relay.closed = true → h.relay.allocations = ∅) :
    (h.relay.stop closeErr).2.allocations = ∅ ↔ ¬ Strands h (.stop closeErr) := by
  unfold Strands Relay.stop
  cases hclosed : h.relay.closed with
  | true => simpa using hempty hclosed
  | false =>
    cases hconn : h.relay.conn with
    | false => simp
    | true =>
      cases closeErr with
      | none => simp
      | some err => simp

lemma wellKept_apply_iff {h : Observed net} (hr : Recorded h) (hw : WellKept h) (op : Op UDPAddr) :
    WellKept (h.apply op) ↔ ¬ Strands h op := by
  have hchange := apply_change hr op
  have hunique := hchange.unique hw.unique
  have hempty : h.relay.closed = true → h.relay.allocations = ∅ := by
    rw [← hr.stopped]
    exact hw.stopped
  have hstays : h.stopped = true → (h.apply op).relay.allocations = ∅ := by
    intro hstopped
    have hnone := hw.stopped hstopped
    rw [hnone] at hchange
    rw [hr.stopped] at hstopped
    exact empty_of_change hchange (activity_closed hstopped hnone op)
  suffices hiff : ((h.apply op).stopped = true → (h.apply op).relay.allocations = ∅) ↔
      ¬ Strands h op from
    ⟨fun hw' => hiff.mp hw'.stopped, fun hs => ⟨hunique, hiff.mpr hs⟩⟩
  cases op with
  | stop closeErr =>
    rw [← stop_empty_iff hempty]
    simp [Observed.apply, Op.isStop, Relay.apply]
  | _ =>
    apply iff_of_true _ id
    simpa [Observed.apply, Op.isStop] using hstays

lemma lookup_fresh (net : Addressing UDPAddr) (started : Bool) (id : Bytes) (a : Allocation net) :
    (Observed.fresh net started).relay.allocations.lookup id ≠ some a := by
  have hempty : (Observed.fresh net started).relay.allocations = ∅ := by cases started <;> rfl
  simp [hempty]

lemma recorded_fresh (started : Bool) : Recorded (Observed.fresh net started) where
  id_eq id a h := absurd h (lookup_fresh net started id a)
  clientless id a h := absurd h (lookup_fresh net started id a)
  lastActive id a h := absurd h (lookup_fresh net started id a)
  stopped := by cases started <;> rfl

lemma wellKept_fresh (started : Bool) : WellKept (Observed.fresh net started) where
  unique id _ a _ h := absurd h (lookup_fresh net started id a)
  stopped h := by cases h

/-- In every run, the users have one allocation each, the operations serve them and a stopped relay
is empty, if and only if no `Stop` fails on a socket while the relay holds allocations. -/
theorem allocations_kept_iff (net : Addressing UDPAddr) (started : Bool) (ops : List (Op UDPAddr)) :
    Always Observed.step WellKept (Observed.fresh net started) ops ∧
        Guarded Observed.step Serves (Observed.fresh net started) ops ↔
      Guarded Observed.step (fun h op => ¬ Strands h op) (Observed.fresh net started) ops := by
  apply always_and_guarded_iff_of_invariant (wellKept_fresh started) (recorded_fresh started)
  intro h op h' hw hr hstep
  obtain rfl := Option.some.inj hstep
  refine ⟨hr.apply op, ?_⟩
  rw [wellKept_apply_iff hr hw op]
  exact and_iff_left (serves hr hw op)

lemma createAllocation_empty {t : Relay net} {order : Table.RangeOrder Bytes}
    (username : Bytes) (idBytes : Fin 8 → UInt8) (createdAt now : ℤ) (hopen : t.closed = false)
    (hempty : t.allocations = ∅) :
    (t.createAllocation order username (.ok idBytes) createdAt now).2 =
      { t with
        allocations := t.allocations.insert (Numerals.hexEncode (List.ofFn idBytes))
          (.new (Numerals.hexEncode (List.ofFn idBytes)) username createdAt now) } := by
  unfold Relay.createAllocation
  rw [hopen, hempty, order.entries_empty]
  rfl

lemma stop_failed {t : Relay net} {err : Bytes} (hopen : t.closed = false)
    (hconn : t.conn = true) :
    t.stop (some err) = (some (.close err), { t with closed := true }) := by
  unfold Relay.stop
  rw [hopen, hconn]
  rfl

theorem stop_strands :
    ¬ (Always Observed.step WellKept (Observed.fresh plainText true)
        [.createAllocation .byCode (ascii "ann") (.ok fun _ => 7) 0 0,
          .stop (some (ascii "close: input/output error"))] ∧
      Guarded Observed.step Serves (Observed.fresh plainText true)
        [.createAllocation .byCode (ascii "ann") (.ok fun _ => 7) 0 0,
          .stop (some (ascii "close: input/output error"))]) := by
  rintro ⟨halways, -⟩
  have hlast := (((halways.2 _ rfl).2 _ rfl).head).stopped rfl
  simp only [Observed.apply, Relay.apply, Observed.fresh, if_true] at hlast
  rw [createAllocation_empty _ _ _ _ rfl rfl] at hlast
  rw [stop_failed rfl rfl] at hlast
  have hentry := congrArg (Finmap.lookup (Numerals.hexEncode (List.ofFn fun _ : Fin 8 => 7))) hlast
  rw [Finmap.lookup_insert, Finmap.lookup_empty] at hentry
  cases hentry

end OmniTun.Network.Turn
