import Mathlib.Algebra.Order.Ring.Int
import Mathlib.Data.List.Induction
import OmniTun.Control.AgentClient

/-! The waits of `reconnectLoop` between failed dials. Durations are in nanoseconds, and wrap around
as 64-bit integers do. -/

namespace OmniTun.Control.Backoff

open OmniTun.Foundation Transition AgentClient

def second : ℤ := 10 ^ 9

def maxBackoff : ℤ := 60 * second

def wrap (n : ℤ) : ℤ := n.bmod (2 ^ 64)

/-- A quarter of the milliseconds. A double holds numbers of this size exactly. -/
def jitterMs (backoff : ℤ) : ℤ := (backoff.tdiv (10 ^ 6)).tdiv 4

def jitterBound (backoff : ℤ) : ℤ := wrap (jitterMs backoff * 2 + 1)

/-- A number below the bound, which `draw` picks; without any such number it panics. -/
def randInt (max draw : ℤ) : Option ℤ := if 0 < max then some (draw % max) else none

def actualBackoff (backoff draw : ℤ) : Option ℤ :=
  (randInt (jitterBound backoff) draw).map fun jitter =>
    wrap (backoff + wrap (wrap (jitter - jitterMs backoff) * 10 ^ 6))

def nextBackoff (backoff : ℤ) : ℤ := min (wrap (backoff * 2)) maxBackoff

structure Dialer where
  client : Client
  backoff : ℤ
  wait : ℤ

inductive DialerOp
  | loop (op : Op) (draw : ℤ)
  | disconnect

def Dialer.reconnectLoop (d : Dialer) (e : Event) (draw : ℤ) : Option Dialer :=
  match d.client.reconnectLoop e with
  | none => none
  | some client =>
    match d.client.reconnect, e with
    | .dialed, .go => some { d with client := client, backoff := second }
    | .dialing, .fail =>
      (actualBackoff d.backoff draw).map fun wait => { d with client := client, wait := wait }
    | .backingOff, .go => some { d with client := client, backoff := nextBackoff d.backoff }
    | _, _ => some { d with client := client }

def step (d : Dialer) : DialerOp → Option Dialer
  | .loop (.reconnect e) draw => d.reconnectLoop e draw
  | .loop op _ => (AgentClient.step d.client op).map fun client => { d with client := client }
  | .disconnect => d.client.disconnectStep.map fun client => { d with client := client }

def start : Dialer := ⟨connect, second, 0⟩

/-- How many dials have failed since the last success. -/
def failures (ops : List DialerOp) : ℕ :=
  ops.foldl (fun n op => match op with
    | .loop (.reconnect .fail) _ => n + 1
    | .loop (.reconnect .ok) _ => 0
    | _ => n) 0

def base (n : ℕ) : ℤ := min (2 ^ n * second) (60 * second)

section Arithmetic

lemma wrap_of_lt {n : ℤ} (hl : -2 ^ 63 ≤ n) (hu : n < 2 ^ 63) : wrap n = n := by
  apply Int.bmod_eq_of_le
  · omega
  · omega

lemma base_range (n : ℕ) : second ≤ base n ∧ base n ≤ 60 * second := by
  have hpow : (1 : ℤ) ≤ 2 ^ n := one_le_pow₀ (by decide)
  simp only [base, second]
  omega

lemma base_dvd (n : ℕ) : (4 * 10 ^ 6 : ℤ) ∣ base n := by
  have hsecond : (4 * 10 ^ 6 : ℤ) ∣ second := by decide
  rcases min_choice (2 ^ n * second) (60 * second) with h | h
  · rw [base, h]
    exact hsecond.mul_left _
  · rw [base, h]
    exact hsecond.mul_left _

lemma base_zero : base 0 = second := by decide

lemma nextBackoff_base (n : ℕ) : nextBackoff (base n) = base (n + 1) := by
  obtain ⟨hl, hu⟩ := base_range n
  have hwrap : wrap (base n * 2) = base n * 2 := by
    simp only [second] at hl hu
    apply wrap_of_lt
    · omega
    · omega
  rw [nextBackoff, hwrap]
  simp only [base, maxBackoff, second, pow_succ]
  omega

lemma jitterMs_base (n : ℕ) : 4 * 10 ^ 6 * jitterMs (base n) = base n := by
  obtain ⟨k, hk⟩ := base_dvd n
  obtain ⟨hl, -⟩ := base_range n
  simp only [second] at hl
  have hms : (base n).tdiv (10 ^ 6) = 4 * k := by
    rw [Int.tdiv_eq_ediv_of_nonneg (by omega)]
    omega
  have hjitter : jitterMs (base n) = k := by
    rw [jitterMs, hms, Int.tdiv_eq_ediv_of_nonneg (by omega)]
    omega
  rw [hjitter, hk]

lemma jitterBound_base (n : ℕ) : jitterBound (base n) = jitterMs (base n) * 2 + 1 := by
  have hjitter := jitterMs_base n
  obtain ⟨hl, hu⟩ := base_range n
  simp only [second] at hl hu
  apply wrap_of_lt
  · omega
  · omega

lemma jitterBound_pos (n : ℕ) : 1 ≤ jitterBound (base n) := by
  have hjitter := jitterMs_base n
  obtain ⟨hl, -⟩ := base_range n
  simp only [second] at hl
  rw [jitterBound_base]
  omega

lemma actualBackoff_base (n : ℕ) (draw : ℤ) : ∃ wait, actualBackoff (base n) draw = some wait ∧
    3 * base n ≤ 4 * wait ∧ 4 * wait ≤ 5 * base n ∧ (10 ^ 6 : ℤ) ∣ wait := by
  have hjitter := jitterMs_base n
  have hbound := jitterBound_base n
  have hpos := jitterBound_pos n
  obtain ⟨hl, hu⟩ := base_range n
  simp only [second] at hl hu
  obtain ⟨hdl, hdu⟩ : 0 ≤ draw % jitterBound (base n) ∧
      draw % jitterBound (base n) < jitterBound (base n) :=
    ⟨Int.emod_nonneg _ (by omega), Int.emod_lt_of_pos _ (by omega)⟩
  rw [actualBackoff, randInt, if_pos (by omega), Option.map_some]
  generalize draw % jitterBound (base n) = jitter at hdl hdu
  have hoffset : wrap (jitter - jitterMs (base n)) = jitter - jitterMs (base n) := by
    apply wrap_of_lt
    · omega
    · omega
  have hduration : wrap ((jitter - jitterMs (base n)) * 10 ^ 6) =
      (jitter - jitterMs (base n)) * 10 ^ 6 := by
    apply wrap_of_lt
    · omega
    · omega
  have hsum : wrap (base n + (jitter - jitterMs (base n)) * 10 ^ 6) =
      base n + (jitter - jitterMs (base n)) * 10 ^ 6 := by
    apply wrap_of_lt
    · omega
    · omega
  rw [hoffset, hduration, hsum]
  refine ⟨_, rfl, by omega, by omega, ?_⟩
  have hwhole : (10 ^ 6 : ℤ) ∣ base n := Dvd.dvd.trans (by decide) (base_dvd n)
  exact Int.dvd_add hwhole (Int.dvd_mul_left _ _)

end Arithmetic

section Steps

def Follows (n : ℕ) (d : Dialer) : Prop :=
  match d.client.reconnect with
  | .backingOff => ∃ m, n = m + 1 ∧ d.backoff = base m
  | .dialed => n = 0
  | .stopped => True
  | .waiting | .taken _ | .redialing | .dialing => d.backoff = base n

def count (n : ℕ) : DialerOp → ℕ
  | .loop (.reconnect .fail) _ => n + 1
  | .loop (.reconnect .ok) _ => 0
  | _ => n

variable {s t : Client} {d d' : Dialer} {e : Event} {n : ℕ} {draw : ℤ}

lemma failures_concat (ops : List DialerOp) (op : DialerOp) :
    failures (ops ++ [op]) = count (failures ops) op := by
  rw [failures, List.foldl_append]
  rfl

lemma heartbeatLoop_reconnect (h : s.heartbeatLoop e = some t) : t.reconnect = s.reconnect := by
  rcases heartbeatLoop_cases h with ⟨_, _, rfl, _⟩ | ⟨_, _, _, _, _, rfl⟩ | ⟨_, _, rfl⟩ |
    ⟨_, _, _, rfl⟩ <;> rfl

lemma messageLoop_reconnect (h : s.messageLoop e = some t) : t.reconnect = s.reconnect := by
  rcases messageLoop_cases h with ⟨_, _, rfl, _⟩ | ⟨_, _, _, rfl⟩ | ⟨_, _, _, rfl⟩ |
    ⟨_, _, _, rfl⟩ <;> rfl

lemma disconnectStep_reconnect (h : s.disconnectStep = some t) : t.reconnect = s.reconnect := by
  unfold Client.disconnectStep at h
  split at h
  · split_ifs at h <;> exact Option.some.inj h ▸ rfl
  · split_ifs at h
    exact Option.some.inj h ▸ rfl
  · split_ifs at h
    exact Option.some.inj h ▸ rfl

lemma Follows.congr (h : Follows n d) (hr : t.reconnect = d.client.reconnect) :
    Follows n { d with client := t } := by
  unfold Follows at h ⊢
  rw [hr]
  exact h

lemma Follows.reconnectLoop (h : Follows n d) (hs : d.reconnectLoop e draw = some d') :
    Follows (count n (.loop (.reconnect e) draw)) d' := by
  unfold Dialer.reconnectLoop at hs
  split at hs
  case h_1 => cases hs
  case h_2 client hclient =>
    unfold Follows at h
    cases hr : d.client.reconnect <;> cases e <;>
      simp only [hr, Client.reconnectLoop, reduceCtorEq] at h hclient hs
    case waiting.go =>
      obtain rfl := Option.some.inj hs
      split at hclient
      · cases hclient
      · obtain rfl := Option.some.inj hclient
        exact h
    case waiting.quit =>
      obtain rfl := Option.some.inj hs
      split_ifs at hclient
      obtain rfl := Option.some.inj hclient
      trivial
    case taken.go =>
      obtain rfl := Option.some.inj hs
      split_ifs at hclient
      obtain rfl := Option.some.inj hclient
      exact h
    case redialing.go =>
      obtain rfl := Option.some.inj hs
      split_ifs at hclient
      · obtain rfl := Option.some.inj hclient
        trivial
      · obtain rfl := Option.some.inj hclient
        exact h
    case dialing.ok =>
      obtain rfl := Option.some.inj hs
      obtain rfl := Option.some.inj hclient
      exact rfl
    case dialing.fail =>
      obtain ⟨wait, -, rfl⟩ := Option.map_eq_some_iff.mp hs
      obtain rfl := Option.some.inj hclient
      exact ⟨n, rfl, h⟩
    case dialed.go =>
      obtain rfl := Option.some.inj hs
      split_ifs at hclient
      obtain rfl := Option.some.inj hclient
      subst h
      exact base_zero.symm
    case backingOff.go =>
      obtain rfl := Option.some.inj hs
      obtain rfl := Option.some.inj hclient
      obtain ⟨m, rfl, hm⟩ := h
      change nextBackoff d.backoff = base (m + 1)
      rw [hm, nextBackoff_base]
    case backingOff.quit =>
      obtain rfl := Option.some.inj hs
      split_ifs at hclient
      obtain rfl := Option.some.inj hclient
      trivial

lemma Follows.step {op : DialerOp} (h : Follows n d) (hs : step d op = some d') :
    Follows (count n op) d' := by
  cases op with
  | loop op draw =>
    cases op with
    | heartbeat e =>
      obtain ⟨t, ht, rfl⟩ := Option.map_eq_some_iff.mp hs
      exact h.congr (heartbeatLoop_reconnect ht)
    | message e =>
      obtain ⟨t, ht, rfl⟩ := Option.map_eq_some_iff.mp hs
      exact h.congr (messageLoop_reconnect ht)
    | reconnect e => exact h.reconnectLoop hs
  | disconnect =>
    obtain ⟨t, ht, rfl⟩ := Option.map_eq_some_iff.mp hs
    exact h.congr (disconnectStep_reconnect ht)

lemma follows_run (ops : List DialerOp) (hr : run step start ops = some d) :
    Follows (failures ops) d := by
  induction ops using List.reverseRecOn generalizing d with
  | nil =>
    obtain rfl := Option.some.inj hr
    exact base_zero.symm
  | append_singleton ops op ih =>
    rw [run_concat] at hr
    obtain ⟨d₀, hd₀, hs⟩ := Option.bind_eq_some_iff.mp hr
    rw [failures_concat]
    exact (ih hd₀).step hs

end Steps

/-- What a run has made of the variable, and the wait that the loop computes if the dial fails; `n`
dials have failed before it since the last success. -/
structure Bounded (n : ℕ) (d : Dialer) : Prop where
  backoff : d.client.reconnect ∈ [.waiting, .redialing, .dialing] → d.backoff = base n
  bound : d.client.reconnect = .dialing → 1 ≤ jitterBound d.backoff
  wait : d.client.reconnect = .dialing → ∀ draw, ∃ d',
    step d (.loop (.reconnect .fail) draw) = some d' ∧
      3 * base n ≤ 4 * d'.wait ∧ 4 * d'.wait ≤ 5 * base n ∧ (10 ^ 6 : ℤ) ∣ d'.wait ∧ 0 < d'.wait
  success : d.client.reconnect = .dialed → ∀ draw d',
    step d (.loop (.reconnect .go) draw) = some d' →
      d'.client.reconnect = .waiting ∧ d'.backoff = second

/-- What is counted are the failures before the dial that is under way: after none the wait is about a
second. -/
theorem backoff_bounded (ops : List DialerOp) (d : Dialer) (hr : run step start ops = some d) :
    Bounded (failures ops) d := by
  have h := follows_run ops hr
  have hdialing : d.client.reconnect = .dialing → d.backoff = base (failures ops) := by
    intro hd
    simpa only [Follows, hd] using h
  constructor
  · intro hd
    unfold Follows at h
    rcases List.mem_cons.mp hd with hd | hd
    · simpa only [hd] using h
    · rcases List.mem_cons.mp hd with hd | hd
      · simpa only [hd] using h
      · simpa only [List.mem_singleton.mp hd] using h
  · intro hd
    rw [hdialing hd]
    exact jitterBound_pos _
  · intro hd draw
    obtain ⟨wait, hwait, hl, hu, hdvd⟩ := actualBackoff_base (failures ops) draw
    have hbase := (base_range (failures ops)).1
    simp only [second] at hbase
    have hpos : 0 < wait := by omega
    refine ⟨{ d with client := { d.client with reconnect := .backingOff }, wait := wait }, ?_, hl, hu,
      hdvd, hpos⟩
    simp only [step, Dialer.reconnectLoop, Client.reconnectLoop, hd, hdialing hd, hwait,
      Option.map_some]
  · intro hd draw d' hs
    simp only [step, Dialer.reconnectLoop] at hs
    split at hs
    case h_1 => cases hs
    case h_2 client hclient =>
      simp only [hd] at hs
      obtain rfl := Option.some.inj hs
      simp only [Client.reconnectLoop, hd] at hclient
      split_ifs at hclient
      obtain rfl := Option.some.inj hclient
      exact ⟨rfl, rfl⟩

def failedDial : List DialerOp :=
  [.loop (.message .go) 0, .loop (.message .go) 0, .loop (.message .fail) 0,
    .loop (.message .go) 0, .loop (.message .go) 0, .loop (.reconnect .go) 0,
    .loop (.reconnect .go) 0, .loop (.reconnect .go) 0, .loop (.reconnect .fail) 17,
    .loop (.reconnect .go) 0, .loop (.reconnect .go) 0]

theorem backoff_bounded_second : ∃ d, run step start failedDial = some d ∧
    d.client.reconnect = .dialing ∧ Bounded 1 d :=
  ⟨_, rfl, rfl, backoff_bounded failedDial _ rfl⟩

end OmniTun.Control.Backoff
