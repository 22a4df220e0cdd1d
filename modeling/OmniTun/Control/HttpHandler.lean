import OmniTun.Control.Messages
import OmniTun.Control.StartTunnel

/-! What the command that exposes a local HTTP service does with the server's messages. -/

namespace OmniTun.Control.HttpHandler

open OmniTun.Foundation StartTunnel

def red (s : String) : Bytes := ascii "\x1b[31m" ++ s.toUTF8.toList ++ ascii "\x1b[0m"

def yellow (s : String) : Bytes := ascii "\x1b[33m" ++ s.toUTF8.toList ++ ascii "\x1b[0m"

def dim (s : String) : Bytes := ascii "\x1b[2m" ++ s.toUTF8.toList ++ ascii "\x1b[0m"

structure HttpTunnelHandler (τ : Type*) where
  tunnelID : Bytes
  tunnelConn : Option τ

/-- The process with what it has printed, or after a run-time panic. -/
inductive Process (τ : Type*)
  | running (h : HttpTunnelHandler τ) (printed : List Bytes)
  | panicked

section

variable {τ : Type*} (close : τ → τ) (establish : TunnelStartAck → Option Bytes)

def Process.exec (p : Process τ) (f : HttpTunnelHandler τ → List Bytes → Process τ) : Process τ :=
  match p with
  | .running h printed => f h printed
  | .panicked => .panicked

def onTunnelStartAck (p : Process τ) (msg : TunnelStartAck) : Process τ :=
  p.exec fun h printed =>
    if h.tunnelConn.isSome then .running h printed
    else
      match establish msg with
      | some err =>
        .running h (printed ++ [red "✗" ++ ascii " Failed to establish data channel: " ++ err])
      | none => .running h printed

def onTunnelStopCmd (p : Process τ) (msg : TunnelStopCmd) : Process τ :=
  p.exec fun h printed =>
    match sliceTo msg.tunnelID 8 with
    | none => .panicked
    | some id =>
      .running { h with tunnelConn := h.tunnelConn.map close }
        (printed ++ [yellow "!" ++ ascii " Tunnel " ++ id ++ ascii " stop command received"])

def onTunnelConfig (p : Process τ) (msg : TunnelConfig) : Process τ :=
  p.exec fun h printed =>
    match sliceTo msg.tunnelID 8 with
    | none => .panicked
    | some id =>
      .running h
        (printed ++ [dim "→" ++ ascii " Tunnel " ++ id ++ ascii " config update received"])

def onTunnelUpdate (p : Process τ) (msg : TunnelUpdate) : Process τ :=
  p.exec fun h printed =>
    match sliceTo msg.tunnelID 8 with
    | none => .panicked
    | some id =>
      .running h (printed ++ [dim "→" ++ ascii " Tunnel " ++ id ++ ascii " update received"])

def onShutdown (p : Process τ) (msg : ShutdownMessage) : Process τ :=
  p.exec fun h printed =>
    .running h (printed ++ [red "✗" ++ ascii " Server shutdown: " ++ msg.reason])

/-- `establish` gives the text of the error with which the data channel fails, if it does. -/
def httpTunnelHandler : MessageHandler (Process τ) where
  onTunnelStartAck := onTunnelStartAck establish
  onTunnelStopCmd := onTunnelStopCmd close
  onTunnelConfig := onTunnelConfig
  onTunnelUpdate := onTunnelUpdate
  onShutdown := onShutdown

end

def slicedID (j : Json) : Option Bytes := do
  let type ← messageType j
  if type = msgTunnelStopCmd then (TunnelStopCmd.unmarshal j).map TunnelStopCmd.tunnelID
  else if type = msgTunnelConfig then (TunnelConfig.unmarshal j).map TunnelConfig.tunnelID
  else if type = msgTunnelUpdate then (TunnelUpdate.unmarshal j).map TunnelUpdate.tunnelID
  else none

def Sliceable (j : Json) : Prop := ∀ id, slicedID j = some id → 8 ≤ id.length

section Steps

variable {τ : Type*} {close : τ → τ} {establish : TunnelStartAck → Option Bytes}
  {h : HttpTunnelHandler τ} {printed : List Bytes} {raw : Option Json} {j : Json}

lemma sliceTo_eq_none {s : Bytes} {n : ℕ} : sliceTo s n = none ↔ s.length < n := by
  simp [sliceTo]

lemma not_sliceable : ¬ Sliceable j ↔ ∃ id, slicedID j = some id ∧ id.length < 8 := by
  simp [Sliceable]

lemma startAck_runs (msg : TunnelStartAck) :
    onTunnelStartAck establish (.running h printed) msg ≠ .panicked := by
  simp only [onTunnelStartAck, Process.exec]
  split_ifs
  · simp
  · cases establish msg <;> simp

lemma stopCmd_panics_iff (msg : TunnelStopCmd) :
    onTunnelStopCmd close (.running h printed) msg = .panicked ↔ msg.tunnelID.length < 8 := by
  rw [← sliceTo_eq_none]
  cases hs : sliceTo msg.tunnelID 8 <;> simp [onTunnelStopCmd, Process.exec, hs]

lemma config_panics_iff (msg : TunnelConfig) :
    onTunnelConfig (.running h printed) msg = .panicked ↔ msg.tunnelID.length < 8 := by
  rw [← sliceTo_eq_none]
  cases hs : sliceTo msg.tunnelID 8 <;> simp [onTunnelConfig, Process.exec, hs]

lemma update_panics_iff (msg : TunnelUpdate) :
    onTunnelUpdate (.running h printed) msg = .panicked ↔ msg.tunnelID.length < 8 := by
  rw [← sliceTo_eq_none]
  cases hs : sliceTo msg.tunnelID 8 <;> simp [onTunnelUpdate, Process.exec, hs]

lemma call_panics_iff {α : Type*} {handler : MessageHandler (Process τ)}
    {on : MessageHandler (Process τ) → Process τ → α → Process τ} {id : α → Bytes}
    (hon : ∀ m, on handler (.running h printed) m = .panicked ↔ (id m).length < 8)
    (msg : Option α) : call (some handler) (.running h printed) on msg = .panicked ↔
      ∃ i, msg.map id = some i ∧ i.length < 8 := by
  cases msg with
  | none => simp [call]
  | some m => simp [call, hon]

lemma handle_panics_iff : handleMessage (some (httpTunnelHandler close establish))
    (.running h printed) raw = .panicked ↔ ∃ j, raw = some j ∧ ¬ Sliceable j := by
  cases raw with
  | none => simp [handleMessage]
  | some j =>
    simp only [handleMessage, Option.some.injEq, exists_eq_left', not_sliceable, slicedID]
    cases messageType j with
    | none => simp
    | some type =>
      simp only [Option.bind_eq_bind, Option.bind_some]
      by_cases hack : type = msgTunnelStartAck
      · subst hack
        have hne : msgTunnelStartAck ≠ msgTunnelStopCmd ∧ msgTunnelStartAck ≠ msgTunnelConfig ∧
            msgTunnelStartAck ≠ msgTunnelUpdate := by decide
        simp only [if_pos, if_neg hne.1, if_neg hne.2.1, if_neg hne.2.2]
        cases TunnelStartAck.unmarshal j with
        | none => simp [call]
        | some msg =>
          have hrun : onTunnelStartAck establish (.running h printed) msg ≠ .panicked :=
            startAck_runs msg
          simp [call, httpTunnelHandler, hrun]
      · rw [if_neg hack]
        by_cases hstop : type = msgTunnelStopCmd
        · simp only [if_pos hstop]
          exact call_panics_iff stopCmd_panics_iff _
        · simp only [if_neg hstop]
          by_cases hconfig : type = msgTunnelConfig
          · simp only [if_pos hconfig]
            exact call_panics_iff config_panics_iff _
          · simp only [if_neg hconfig]
            by_cases hupdate : type = msgTunnelUpdate
            · simp only [if_pos hupdate]
              exact call_panics_iff update_panics_iff _
            · simp only [if_neg hupdate]
              split_ifs
              · cases ShutdownMessage.unmarshal j <;>
                  simp [call, httpTunnelHandler, onShutdown, Process.exec]
              · simp

lemma call_panicked {α : Type*} {handler : MessageHandler (Process τ)}
    {on : MessageHandler (Process τ) → Process τ → α → Process τ}
    (hon : ∀ m, on handler .panicked m = .panicked) (msg : Option α) :
    call (some handler) .panicked on msg = .panicked := by
  cases msg with
  | none => rfl
  | some m => exact hon m

lemma handle_panicked : handleMessage (some (httpTunnelHandler close establish)) .panicked raw =
    .panicked := by
  cases raw with
  | none => rfl
  | some j =>
    simp only [handleMessage]
    cases messageType j with
    | none => rfl
    | some type =>
      simp only
      split_ifs
      · exact call_panicked (fun _ => rfl) _
      · exact call_panicked (fun _ => rfl) _
      · exact call_panicked (fun _ => rfl) _
      · exact call_panicked (fun _ => rfl) _
      · exact call_panicked (fun _ => rfl) _
      · rfl

lemma loop_panicked (raws : List (Option Json)) :
    messageLoop (some (httpTunnelHandler close establish)) .panicked raws = .panicked := by
  induction raws with
  | nil => rfl
  | cons raw raws ih => rwa [messageLoop, List.foldl_cons, handle_panicked]

end Steps

theorem agent_survives_iff {τ : Type*} (close : τ → τ) (establish : TunnelStartAck → Option Bytes)
    (json : Bytes → Option Json) (h : HttpTunnelHandler τ) (printed : List Bytes)
    (raws : List Bytes) :
    messageLoop (some (httpTunnelHandler close establish)) (.running h printed) (raws.map json) ≠
        .panicked ↔
      ∀ raw ∈ raws, ∀ j, json raw = some j → Sliceable j := by
  induction raws generalizing h printed with
  | nil => simp [messageLoop]
  | cons raw raws ih =>
    rw [List.map_cons, messageLoop, List.foldl_cons, ← messageLoop, List.forall_mem_cons]
    have hstep : handleMessage (some (httpTunnelHandler close establish)) (.running h printed)
        (json raw) = .panicked ↔ ∃ j, json raw = some j ∧ ¬ Sliceable j := handle_panics_iff
    cases hp : handleMessage (some (httpTunnelHandler close establish)) (.running h printed)
      (json raw) with
    | running h' printed' =>
      have hraw : ∀ j, json raw = some j → Sliceable j := by
        intro j hj
        by_contra hs
        simp [hstep.mpr ⟨j, hj, hs⟩] at hp
      rw [ih]
      exact ⟨fun hrest => ⟨hraw, hrest⟩, And.right⟩
    | panicked =>
      obtain ⟨j, hj, hs⟩ := hstep.mp hp
      rw [loop_panicked]
      exact ⟨fun hne => absurd rfl hne, fun hall => absurd (hall.1 j hj) hs⟩

def stopText : Bytes := ascii "\x7b\"type\":\"server.tunnel.stop_cmd\"\x7d"

def stopMessage : Json := .obj [(ascii "type", .str msgTunnelStopCmd)]

theorem agent_survives_fails :
    messageLoop (some (httpTunnelHandler (fun _ : Bool => true) fun _ => none))
        (.running ⟨ascii "t1", some false⟩ [])
        ([stopText].map fun text => if text = stopText then some stopMessage else none) =
      .panicked := by
  rfl

end OmniTun.Control.HttpHandler
