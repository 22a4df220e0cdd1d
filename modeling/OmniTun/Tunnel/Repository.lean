import OmniTun.Foundation.Numerals
import OmniTun.Foundation.Table
import OmniTun.Foundation.Transport

/-! The records of the tunnel service, the transitions of a tunnel's status, and its errors. -/

namespace OmniTun.Tunnel

open OmniTun.Foundation OmniTun.Foundation.Numerals

inductive TunnelStatus
  | stopped
  | starting
  | active
  | error
  deriving DecidableEq, Repr

def TunnelStatus.string : TunnelStatus → Bytes
  | .stopped => ascii "stopped"
  | .starting => ascii "starting"
  | .active => ascii "active"
  | .error => ascii "error"

def validTransitions : TunnelStatus → List TunnelStatus
  | .stopped => [.starting, .error]
  | .starting => [.active, .error]
  | .active => [.stopped, .error]
  | .error => [.stopped, .starting]

def validateTransition (source target : TunnelStatus) : Except Bytes Unit :=
  if target ∈ validTransitions source then .ok ()
  else .error (ascii "invalid status transition: " ++ source.string ++ ascii " -> " ++ target.string)

lemma validateTransition_eq_ok {source target : TunnelStatus} :
    validateTransition source target = .ok () ↔ target ∈ validTransitions source := by
  simp only [validateTransition]
  split_ifs with h <;> simp [h]

/-- Times are in nanoseconds. -/
structure Tunnel where
  id : Bytes
  name : Bytes
  slug : Bytes
  workspaceID : Bytes
  protocol : Bytes
  localPort : ℤ
  localHost : Bytes
  customDomain : Bytes
  region : Bytes
  tlsMode : Bytes
  authMode : Bytes
  status : TunnelStatus
  relayID : Bytes
  createdAt : ℤ
  updatedAt : ℤ
  deriving DecidableEq

structure RelayNode where
  id : Bytes
  region : Bytes
  hostname : Bytes
  port : ℤ
  activeTunnels : ℤ
  capacity : ℤ
  deriving DecidableEq

def RelayNode.address (r : RelayNode) : Bytes := r.hostname ++ ascii ":" ++ intNumeral r.port

inductive Code
  | invalidArgument
  | notFound
  | failedPrecondition
  | resourceExhausted
  | unavailable
  | internal
  deriving DecidableEq, Repr

structure RpcError where
  code : Code
  message : Bytes
  deriving DecidableEq

def errTunnelNotFound : RpcError := ⟨.notFound, ascii "tunnel not found"⟩

def required (field : Bytes) : RpcError := ⟨.invalidArgument, field ++ ascii " is required"⟩

structure TunnelEvent where
  eventType : Bytes
  tunnel : Tunnel
  deriving DecidableEq

end OmniTun.Tunnel
