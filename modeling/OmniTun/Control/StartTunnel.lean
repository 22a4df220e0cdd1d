import OmniTun.Api.Store
import OmniTun.Control.Establish
import OmniTun.Relay.Handshake

/-! The start of a tunnel: the REST handler, the API client that decodes its answer, and the command
that connects to the relay with it. -/

namespace OmniTun.Control.StartTunnel

open OmniTun.Foundation OmniTun.Api OmniTun.Relay OmniTun.Protocol

def handleStartTunnel (_tunnelID : Bytes) : Response :=
  ⟨200, jsonObj [("relay_address", .str (ascii "localhost:4443")), ("status", .str (ascii "active"))]⟩

def reportsActive (r : Response) : Prop :=
  r.status = 200 ∧ (r.body.fields.bind fun fs => Json.stringField fs (ascii "status")) =
    some (ascii "active")

structure StartTunnelResponse where
  message : Bytes
  relayAddress : Bytes
  tunnelToken : Bytes
  deriving DecidableEq

def StartTunnelResponse.unmarshal (body : Json) : Option StartTunnelResponse := do
  let fs ← body.fields
  let message ← Json.stringField fs (ascii "message")
  let relayAddress ← Json.stringField fs (ascii "relay_address")
  let tunnelToken ← Json.stringField fs (ascii "tunnel_token")
  return ⟨message, relayAddress, tunnelToken⟩

structure APIError where
  code : Bytes
  message : Bytes
  deriving DecidableEq

def APIError.unmarshal (body : Json) : Option APIError := do
  let fs ← body.fields
  let code ← Json.stringField fs (ascii "code")
  let message ← Json.stringField fs (ascii "message")
  return ⟨code, message⟩

inductive ClientError
  | request
  | status (status : ℕ) (err : APIError)
  | body (status : ℕ) (body : Json)
  | unmarshal

def clientDo {α : Type*} (unmarshal : Json → Option α) (exchange : Option Response) :
    Except ClientError α :=
  match exchange with
  | none => .error .request
  | some r =>
    if 400 ≤ r.status then
      match (APIError.unmarshal r.body).filter fun err => err.message ≠ [] with
      | some err => .error (.status r.status err)
      | none => .error (.body r.status r.body)
    else
      match unmarshal r.body with
      | none => .error .unmarshal
      | some result => .ok result

def startTunnel (exchange : Option Response) : Except ClientError StartTunnelResponse :=
  clientDo StartTunnelResponse.unmarshal exchange

def maxRetries : ℕ := 3

def startAttempts (exchange : ℕ → Option Response) (attempt : ℕ) :
    ℕ → Except ClientError StartTunnelResponse
  | 0 => startTunnel (exchange attempt)
  | n + 1 =>
    match startTunnel (exchange attempt) with
    | .ok resp => .ok resp
    | .error _ => startAttempts exchange (attempt + 1) n

def sliceTo (s : Bytes) (n : ℕ) : Option Bytes := if n ≤ s.length then some (s.take n) else none

variable {κ σ : Type*}

def newTunnelConnection (tunnelID token : Bytes) : TunnelConnection κ σ :=
  ⟨tunnelID, token, none, none⟩

inductive Outcome (κ σ : Type*)
  | createFailed (err : ClientError)
  | startFailed (err : ClientError)
  | panicked
  | establish (relayAddr : Bytes) (tc : TunnelConnection κ σ)

def runHTTP (created : Except ClientError Bytes) (exchange : ℕ → Option Response) : Outcome κ σ :=
  match created with
  | .error err => .createFailed err
  | .ok tunnelID =>
    match sliceTo tunnelID 8 with
    | none => .panicked
    | some _ =>
      match startAttempts exchange 1 (maxRetries - 1) with
      | .error err => .startFailed err
      | .ok resp =>
        match sliceTo resp.tunnelToken 8 with
        | none => .panicked
        | some _ => .establish resp.relayAddress (newTunnelConnection tunnelID resp.tunnelToken)

/-- The client gets an address and a token with which the relay lets the tunnel connect. -/
def TokenAgrees (κ σ : Type*) (mac : Bytes → Bytes → Bytes) (v : TokenValidator) (now : ℤ)
    (tunnelID : Bytes) : Prop :=
  ∃ resp, startTunnel (some (handleStartTunnel tunnelID)) = .ok resp ∧ resp.relayAddress ≠ [] ∧
    v.validate mac now resp.tunnelToken = .ok tunnelID ∧
    authorize mac v now
      (newTunnelConnection tunnelID resp.tunnelToken : TunnelConnection κ σ).connectFrame =
        .ok tunnelID

def answers (tunnelID : Bytes) (answered : ℕ → Bool) (attempt : ℕ) : Option Response :=
  if answered attempt then some (handleStartTunnel tunnelID) else none

def SlicesInRange (κ σ : Type*) (tunnelID : Bytes) : Prop :=
  ∀ answered, runHTTP (.ok tunnelID) (answers tunnelID answered) ≠ (.panicked : Outcome κ σ)

section

variable {tunnelID : Bytes} {answered : ℕ → Bool}

lemma startTunnel_handled : startTunnel (some (handleStartTunnel tunnelID)) =
    .ok ⟨[], ascii "localhost:4443", []⟩ := rfl

lemma startTunnel_answers (attempt : ℕ) : startTunnel (answers tunnelID answered attempt) =
    if answered attempt then .ok ⟨[], ascii "localhost:4443", []⟩ else .error .request := by
  rw [answers]
  split_ifs
  · exact startTunnel_handled
  · rfl

lemma startAttempts_answers (tunnelID : Bytes) (answered : ℕ → Bool) (attempt n : ℕ) :
    (∃ k, attempt ≤ k ∧ k ≤ attempt + n ∧ answered k = true) ∧
        startAttempts (answers tunnelID answered) attempt n =
          .ok ⟨[], ascii "localhost:4443", []⟩ ∨
      (∀ k, attempt ≤ k → k ≤ attempt + n → answered k = false) ∧
        startAttempts (answers tunnelID answered) attempt n = .error .request := by
  induction n generalizing attempt with
  | zero =>
    cases h : answered attempt with
    | true => exact .inl ⟨⟨attempt, le_rfl, le_rfl, h⟩, by simp [startAttempts, startTunnel_answers, h]⟩
    | false =>
      refine .inr ⟨fun k hl hu => ?_, by simp [startAttempts, startTunnel_answers, h]⟩
      obtain rfl : k = attempt := by omega
      exact h
  | succ n ih =>
    have hsucc : startAttempts (answers tunnelID answered) attempt (n + 1) =
        if answered attempt then .ok ⟨[], ascii "localhost:4443", []⟩
        else startAttempts (answers tunnelID answered) (attempt + 1) n := by
      simp only [startAttempts, startTunnel_answers]
      split_ifs <;> rfl
    cases h : answered attempt with
    | true => exact .inl ⟨⟨attempt, le_rfl, by omega, h⟩, by simp [hsucc, h]⟩
    | false =>
      simp only [hsucc, h, Bool.false_eq_true, if_false]
      rcases ih (attempt + 1) with ⟨⟨k, hl, hu, hk⟩, heq⟩ | ⟨hnone, heq⟩
      · exact .inl ⟨⟨k, by omega, by omega, hk⟩, heq⟩
      · refine .inr ⟨fun k hl hu => ?_, heq⟩
        by_cases hk : k = attempt
        · exact hk ▸ h
        · exact hnone k (by omega) (by omega)

lemma runHTTP_panicked_iff :
    runHTTP (.ok tunnelID) (answers tunnelID answered) = (.panicked : Outcome κ σ) ↔
      tunnelID.length < 8 ∨ ∃ k, 1 ≤ k ∧ k ≤ maxRetries ∧ answered k = true := by
  by_cases hid : 8 ≤ tunnelID.length
  · have hshort : ¬ tunnelID.length < 8 := by omega
    simp only [runHTTP, sliceTo, if_pos hid, hshort, false_or]
    rcases startAttempts_answers tunnelID answered 1 2 with ⟨⟨k, hk⟩, heq⟩ | ⟨hnone, heq⟩
    · have hslice : ¬ 8 ≤ ([] : Bytes).length := by decide
      simp only [maxRetries, Nat.reduceSub, heq, if_neg hslice, true_iff]
      exact ⟨k, hk⟩
    · simp only [maxRetries, Nat.reduceSub, heq, reduceCtorEq, false_iff]
      rintro ⟨k, hl, hu, hk⟩
      simp [hnone k hl hu] at hk
  · simp only [runHTTP, sliceTo, if_neg hid, true_iff]
    exact .inl (by omega)

lemma not_tokenAgrees (mac : Bytes → Bytes → Bytes) (v : TokenValidator) (now : ℤ) :
    ¬ TokenAgrees κ σ mac v now tunnelID := by
  rintro ⟨resp, hresp, -, hvalid, -⟩
  obtain rfl := Except.ok.inj (startTunnel_handled.symm.trans hresp)
  simp [TokenValidator.validate] at hvalid

lemma not_slicesInRange : ¬ SlicesInRange κ σ tunnelID := by
  intro h
  exact h (fun _ => true) (runHTTP_panicked_iff.mpr (.inr ⟨1, le_rfl, by decide, rfl⟩))

end

theorem start_tunnel_never_agrees (mac : Bytes → Bytes → Bytes) (v : TokenValidator) (now : ℤ)
    (tunnelID : Bytes) : reportsActive (handleStartTunnel tunnelID) ∧
      ¬ TokenAgrees κ σ mac v now tunnelID ∧ ¬ SlicesInRange κ σ tunnelID :=
  ⟨⟨rfl, rfl⟩, not_tokenAgrees mac v now, not_slicesInRange⟩

theorem start_tunnel_agreement_fails :
    ¬ (reportsActive (handleStartTunnel (ascii "tunnel-1")) →
      TokenAgrees Unit Unit (fun _ _ => []) (newTokenValidator (ascii "secret") 0) 0
        (ascii "tunnel-1") ∧ SlicesInRange Unit Unit (ascii "tunnel-1")) := by
  intro h
  obtain ⟨-, hslices⟩ := h ⟨rfl, rfl⟩
  exact not_slicesInRange hslices

end OmniTun.Control.StartTunnel
