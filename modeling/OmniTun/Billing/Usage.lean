import Mathlib.Algebra.BigOperators.Group.Multiset.Basic
import Mathlib.Algebra.Order.Ring.Int
import OmniTun.Foundation.Transition
import OmniTun.Foundation.Transport

/-! Bandwidth accounting: the hourly aggregation of the tunnels' byte counters and what is read of it. -/

namespace OmniTun.Billing

open OmniTun.Foundation Transport Transition

def bytesPerGB : ℕ := 1073741824

structure BillingPlan where
  maxTunnels : ℕ
  maxBandwidthGB : ℕ
  deriving DecidableEq, Repr

def freePlan : BillingPlan := ⟨1, 1⟩

def plans (plan : Bytes) : Option BillingPlan :=
  [(ascii "free", freePlan), (ascii "pro", ⟨10, 100⟩), (ascii "team", ⟨50, 500⟩),
    (ascii "business", ⟨999999, 5120⟩)].lookup plan

/-- Nanoseconds; a time counts them from the zero time. -/
def hour : ℤ := 3600000000000

def truncate (t d : ℤ) : ℤ := t - t % d

structure TunnelRow where
  organizationID : Bytes
  bytesInTotal : ℕ
  bytesOutTotal : ℕ
  deleted : Bool
  deriving DecidableEq

structure UsageRecord where
  organizationID : Bytes
  metric : Bytes
  quantity : ℕ
  periodStart : ℤ
  periodEnd : ℤ
  deriving DecidableEq

/-- Bytes that a tunnel of the organisation transferred, and the period in which they were first
aggregated. -/
structure Transfer where
  organizationID : Bytes
  bytes : ℕ
  aggregatedIn : Option ℤ
  deriving DecidableEq

def bytesOf (p : Transfer → Bool) (ts : List Transfer) : ℕ := ((ts.filter p).map Transfer.bytes).sum

namespace Transfer

def counted (orgID : Bytes) (periodStart : ℤ) (t : Transfer) : Bool :=
  t.organizationID = orgID && t.aggregatedIn.any (periodStart ≤ ·)

def waiting (orgID : Bytes) (t : Transfer) : Bool :=
  t.organizationID = orgID && t.aggregatedIn.isNone

end Transfer

structure Accounts where
  now : ℤ
  tunnels : List TunnelRow
  usageRecords : Multiset UsageRecord
  transfers : List Transfer

structure OrgUsage where
  plan : Bytes
  tunnelsUsed : ℕ
  tunnelsLimit : ℕ
  bandwidthBytes : ℕ
  bandwidthLimit : ℕ
  periodStart : ℤ
  periodEnd : ℤ
  deriving DecidableEq

/-- What the database answers beside the rows: the organisation's plan, and which queries fail. -/
structure Queries where
  plan : Option Bytes
  countFails : Bool
  sumFails : Bool

/-- Whether the counters cannot be read, and for whom no record can be written. -/
structure Aggregation where
  queryFails : Bool
  dropped : Bytes → Bool

namespace Accounts

variable (s : Accounts)

def live (orgID : Bytes) : List TunnelRow :=
  s.tunnels.filter fun t => t.organizationID = orgID ∧ t.deleted = false

def totalBytes (orgID : Bytes) : ℕ :=
  ((s.live orgID).map TunnelRow.bytesInTotal).sum + ((s.live orgID).map TunnelRow.bytesOutTotal).sum

def liveOrgs : Multiset Bytes :=
  Multiset.dedup ((s.tunnels.filter fun t => t.deleted = false).map TunnelRow.organizationID)

def bandwidth (orgID : Bytes) (periodStart : ℤ) : ℕ :=
  ((s.usageRecords.filter fun r => r.organizationID = orgID ∧ r.metric = ascii "bandwidth" ∧
    periodStart ≤ r.periodStart).map UsageRecord.quantity).sum

def getCurrentUsage (q : Queries) (orgID : Bytes) : OrgUsage :=
  let plan := q.plan.getD (ascii "free")
  let p := (plans plan).getD freePlan
  let periodStart := truncate s.now (30 * 24 * hour)
  { plan := plan
    tunnelsUsed := if q.countFails then 0 else (s.live orgID).length
    tunnelsLimit := p.maxTunnels
    bandwidthBytes := if q.sumFails then 0 else s.bandwidth orgID periodStart
    bandwidthLimit := p.maxBandwidthGB * bytesPerGB
    periodStart := periodStart
    periodEnd := periodStart + 30 * 24 * hour }

def hourlyRecord (orgID : Bytes) : UsageRecord where
  organizationID := orgID
  metric := ascii "bandwidth"
  quantity := s.totalBytes orgID
  periodStart := truncate s.now hour
  periodEnd := truncate s.now hour + hour

def aggregateHourlyUsage (a : Aggregation) : Accounts :=
  if a.queryFails then s
  else
    { s with usageRecords := s.usageRecords +
        (s.liveOrgs.filter fun orgID => a.dropped orgID = false).map s.hourlyRecord }

def transferred (orgID : Bytes) (periodStart : ℤ) : ℕ :=
  bytesOf (Transfer.counted orgID periodStart) s.transfers

def pending (orgID : Bytes) : ℕ := bytesOf (Transfer.waiting orgID) s.transfers

end Accounts

def Transfer.aggregate (a : Aggregation) (period : ℤ) (t : Transfer) : Transfer :=
  if a.queryFails = false ∧ a.dropped t.organizationID = false then
    { t with aggregatedIn := t.aggregatedIn.or (some period) }
  else t

def TunnelRow.count (bytesIn bytesOut : ℕ) (t : TunnelRow) : TunnelRow :=
  { t with bytesInTotal := t.bytesInTotal + bytesIn, bytesOutTotal := t.bytesOutTotal + bytesOut }

inductive Op
  | create (organizationID : Bytes)
  | transfer (tunnel : ℕ) (bytesIn bytesOut : ℕ)
  | delete (tunnel : ℕ)
  | aggregate (a : Aggregation)
  | pass (time : ℕ)

def step (s : Accounts) : Op → Option Accounts
  | .create orgID => some { s with tunnels := s.tunnels ++ [⟨orgID, 0, 0, false⟩] }
  | .transfer tunnel bytesIn bytesOut => s.tunnels[tunnel]?.map fun t =>
      { s with
        tunnels := s.tunnels.modify tunnel (TunnelRow.count bytesIn bytesOut)
        transfers := s.transfers ++ [⟨t.organizationID, bytesIn + bytesOut, none⟩] }
  | .delete tunnel => some
      { s with tunnels := s.tunnels.modify tunnel fun t => { t with deleted := true } }
  | .aggregate a => some
      { s.aggregateHourlyUsage a with
        transfers := s.transfers.map (Transfer.aggregate a (truncate s.now hour)) }
  | .pass time => some { s with now := s.now + time }

def start (now : ℤ) : Accounts := ⟨now, [], 0, []⟩

/-- Each transferred byte of the period is on the organisation's usage, once. -/
def BandwidthExact (s : Accounts) : Prop :=
  ∀ q orgID, q.sumFails = false → (s.getCurrentUsage q orgID).bandwidthBytes =
    s.transferred orgID (s.getCurrentUsage q orgID).periodStart

/-- The counters of the live tunnels stand at what was transferred since the last aggregation. -/
def Incremental (s : Accounts) : Op → Prop
  | .aggregate a => a.queryFails = false → ∀ orgID, a.dropped orgID = false →
      s.totalBytes orgID = s.pending orgID
  | _ => True

def Balanced (s : Accounts) : Prop :=
  ∀ orgID periodStart, s.bandwidth orgID periodStart = s.transferred orgID periodStart

section Sums

variable {s : Accounts} {a : Aggregation} {orgID : Bytes} {periodStart : ℤ}

lemma truncate_le (t : ℤ) : truncate t (30 * 24 * hour) ≤ truncate t hour := by
  simp only [truncate, hour]
  omega

lemma sum_filter_eq {κ : Type*} [DecidableEq κ] {ks : Multiset κ} (h : ks.Nodup) (f : κ → ℕ) (k : κ) :
    ((ks.filter (· = k)).map f).sum = if k ∈ ks then f k else 0 := by
  rw [Multiset.filter_eq', Multiset.map_replicate, Multiset.sum_replicate,
    Multiset.count_eq_of_nodup h]
  split_ifs <;> simp

lemma totalBytes_of_not_mem (h : orgID ∉ s.liveOrgs) : s.totalBytes orgID = 0 := by
  have hlive : s.live orgID = [] := by
    apply List.filter_eq_nil_iff.mpr
    intro t ht hp
    obtain ⟨horg, hdeleted⟩ : t.organizationID = orgID ∧ t.deleted = false := by simpa using hp
    apply h
    apply Multiset.mem_dedup.mpr
    apply Multiset.mem_coe.mpr
    exact List.mem_map.mpr ⟨t, List.mem_filter.mpr ⟨ht, by simpa using hdeleted⟩, horg⟩
  simp [Accounts.totalBytes, hlive]

lemma bandwidth_aggregate (ha : a.queryFails = false) :
    (s.aggregateHourlyUsage a).bandwidth orgID periodStart = s.bandwidth orgID periodStart +
      if a.dropped orgID = false ∧ periodStart ≤ truncate s.now hour then s.totalBytes orgID
      else 0 := by
  have hrecords : (s.aggregateHourlyUsage a).usageRecords = s.usageRecords +
      (s.liveOrgs.filter fun o => a.dropped o = false).map s.hourlyRecord := by
    simp [Accounts.aggregateHourlyUsage, ha]
  have hnodup : (s.liveOrgs.filter fun o => a.dropped o = false).Nodup :=
    (Multiset.nodup_dedup _).filter _
  simp only [Accounts.bandwidth, hrecords, Multiset.filter_add, Multiset.map_add, Multiset.sum_add]
  congr 1
  rw [Multiset.filter_map, Multiset.map_map]
  have hvalue : ∀ o, (s.hourlyRecord o).quantity = s.totalBytes o := fun _ => rfl
  by_cases hstart : periodStart ≤ truncate s.now hour
  · have hselect : ∀ o ∈ s.liveOrgs.filter fun o => a.dropped o = false,
        ((fun r : UsageRecord => r.organizationID = orgID ∧ r.metric = ascii "bandwidth" ∧
          periodStart ≤ r.periodStart) ∘ s.hourlyRecord) o ↔ o = orgID := by
      intro o _
      simp [Accounts.hourlyRecord, hstart]
    rw [Multiset.filter_congr hselect]
    refine (sum_filter_eq hnodup s.totalBytes orgID).trans ?_
    by_cases hlive : orgID ∈ s.liveOrgs
    · simp [hlive, hstart]
    · simp [hlive, totalBytes_of_not_mem hlive]
  · have hselect : ∀ o ∈ s.liveOrgs.filter fun o => a.dropped o = false,
        ¬ ((fun r : UsageRecord => r.organizationID = orgID ∧ r.metric = ascii "bandwidth" ∧
          periodStart ≤ r.periodStart) ∘ s.hourlyRecord) o := by
      intro o _
      simp [Accounts.hourlyRecord, hstart]
    rw [Multiset.filter_eq_nil.mpr hselect]
    simp [hstart]

@[simp] lemma bytesOf_nil (p : Transfer → Bool) : bytesOf p [] = 0 := rfl

@[simp] lemma bytesOf_cons (p : Transfer → Bool) (t : Transfer) (ts : List Transfer) :
    bytesOf p (t :: ts) = (if p t then t.bytes else 0) + bytesOf p ts := by
  cases h : p t <;> simp [bytesOf, h]

lemma bytesOf_append (p : Transfer → Bool) (ts us : List Transfer) :
    bytesOf p (ts ++ us) = bytesOf p ts + bytesOf p us := by
  simp [bytesOf]

lemma counted_aggregate (ha : a.queryFails = false) (period : ℤ) (t : Transfer) :
    (if (t.aggregate a period).counted orgID periodStart then (t.aggregate a period).bytes else 0) =
      (if t.counted orgID periodStart then t.bytes else 0) +
        if a.dropped orgID = false ∧ periodStart ≤ period then
          if t.waiting orgID then t.bytes else 0
        else 0 := by
  by_cases horg : t.organizationID = orgID
  · subst horg
    cases hdrop : a.dropped t.organizationID <;> cases hin : t.aggregatedIn <;>
      simp [Transfer.aggregate, Transfer.counted, Transfer.waiting, ha, hdrop, hin]
  · have horg' : (t.aggregate a period).organizationID ≠ orgID := by
      simp only [Transfer.aggregate]
      split_ifs <;> exact horg
    simp [Transfer.counted, Transfer.waiting, horg, horg']

lemma transferred_aggregate (ha : a.queryFails = false) (period : ℤ) (ts : List Transfer) :
    bytesOf (Transfer.counted orgID periodStart) (ts.map (Transfer.aggregate a period)) =
      bytesOf (Transfer.counted orgID periodStart) ts +
        if a.dropped orgID = false ∧ periodStart ≤ period then bytesOf (Transfer.waiting orgID) ts
        else 0 := by
  induction ts with
  | nil => simp
  | cons t ts ih =>
    simp only [List.map_cons, bytesOf_cons, counted_aggregate ha, ih]
    split_ifs <;> omega

lemma counted_append (ts : List Transfer) (o : Bytes) (n : ℕ) :
    bytesOf (Transfer.counted orgID periodStart) (ts ++ [⟨o, n, none⟩]) =
      bytesOf (Transfer.counted orgID periodStart) ts := by
  simp [bytesOf_append, Transfer.counted]

end Sums

section Runs

variable {s t : Accounts} {op : Op}

lemma exact_of_balanced (h : Balanced s) : BandwidthExact s := by
  intro q orgID hq
  simp only [Accounts.getCurrentUsage, hq]
  exact h orgID _

lemma balanced_step (h : Balanced s) (hs : step s op = some t) :
    (BandwidthExact t ↔ Incremental s op) ∧ (BandwidthExact t → Balanced t) := by
  have hplain : Balanced t → Incremental s op →
      (BandwidthExact t ↔ Incremental s op) ∧ (BandwidthExact t → Balanced t) :=
    fun hb hi => ⟨iff_of_true (exact_of_balanced hb) hi, fun _ => hb⟩
  cases op with
  | create orgID =>
    obtain rfl := Option.some.inj hs
    exact hplain h trivial
  | transfer tunnel bytesIn bytesOut =>
    obtain ⟨row, -, rfl⟩ := Option.map_eq_some_iff.mp hs
    refine hplain (fun orgID periodStart => ?_) trivial
    exact (h orgID periodStart).trans (counted_append s.transfers _ _).symm
  | delete tunnel =>
    obtain rfl := Option.some.inj hs
    exact hplain h trivial
  | pass time =>
    obtain rfl := Option.some.inj hs
    exact hplain h trivial
  | aggregate a =>
    let t' := { s.aggregateHourlyUsage a with
      transfers := s.transfers.map (Transfer.aggregate a (truncate s.now hour)) }
    obtain rfl : t' = t := Option.some.inj hs
    cases ha : a.queryFails with
    | true =>
      have hskip : Transfer.aggregate a (truncate s.now hour) = id := by
        funext tr
        simp [Transfer.aggregate, ha]
      have hsame : t' = s := by simp [t', hskip, Accounts.aggregateHourlyUsage, ha]
      exact hplain (hsame ▸ h) (by simp [Incremental, ha])
    | false =>
      have hsums : ∀ orgID periodStart, t'.bandwidth orgID periodStart =
          t'.transferred orgID periodStart ↔ (a.dropped orgID = false →
            periodStart ≤ truncate s.now hour → s.totalBytes orgID = s.pending orgID) := by
        intro orgID periodStart
        have hbandwidth : t'.bandwidth orgID periodStart = _ := bandwidth_aggregate ha
        have htransferred : t'.transferred orgID periodStart = _ :=
          transferred_aggregate ha (truncate s.now hour) s.transfers
        have hbefore := h orgID periodStart
        rw [hbandwidth, htransferred, hbefore]
        simp only [Accounts.transferred, Accounts.pending]
        split_ifs with hcounted
        · simp [hcounted]
        · simp only [true_iff]
          exact fun hd hp => absurd ⟨hd, hp⟩ hcounted
      have hnow : t'.now = s.now := by simp [t', Accounts.aggregateHourlyUsage, ha]
      have hcounters : BandwidthExact t' → Incremental s (.aggregate a) := by
        intro hexact _ orgID hd
        have hcurrent := hexact ⟨none, false, false⟩ orgID rfl
        exact (hsums orgID _).mp hcurrent hd (hnow ▸ truncate_le s.now)
      have hbalanced : Incremental s (.aggregate a) → Balanced t' :=
        fun hi orgID periodStart => (hsums orgID periodStart).mpr fun hd _ => hi ha orgID hd
      exact ⟨⟨hcounters, fun hi => exact_of_balanced (hbalanced hi)⟩,
        fun hexact => hbalanced (hcounters hexact)⟩

end Runs

theorem bandwidth_exact_iff (now : ℤ) (ops : List Op) :
    Always step BandwidthExact (start now) ops ↔ Guarded step Incremental (start now) ops := by
  have hstart : Balanced (start now) := by
    intro orgID periodStart
    simp [Accounts.bandwidth, Accounts.transferred, start]
  apply always_iff_guarded (exact_of_balanced hstart) hstart
  intro s op t _ h hs
  exact balanced_step h hs

theorem bandwidth_exact_fails :
    ∃ s, run step (start 0) [.create (ascii "org"), .transfer 0 4 6,
        .aggregate ⟨false, fun _ => false⟩, .aggregate ⟨false, fun _ => false⟩] = some s ∧
      (s.getCurrentUsage ⟨none, false, false⟩ (ascii "org")).bandwidthBytes = 20 ∧
      ¬ BandwidthExact s := by
  have hsums : ∀ s : Accounts, s.bandwidth (ascii "org") (truncate s.now (30 * 24 * hour)) = 20 →
      s.transferred (ascii "org") (truncate s.now (30 * 24 * hour)) = 10 → ¬ BandwidthExact s := by
    intro s hb ht hexact
    have heq : s.bandwidth _ _ = s.transferred _ _ := hexact ⟨none, false, false⟩ (ascii "org") rfl
    exact absurd (hb.symm.trans (heq.trans ht)) (by decide)
  exact ⟨_, rfl, by decide, hsums _ (by decide) (by decide)⟩

end OmniTun.Billing
