import OmniTun.Control.Messages
import OmniTun.Gateway.Auth

/-! The hello message of the agent, as the gateway reads it. -/

namespace OmniTun.Gateway.Hello

open OmniTun.Foundation OmniTun.Control

variable (mac : Bytes → Bytes → Bytes) (json : Bytes → Option Json) (isTime : Bytes → Bool)
  (a : AuthManager) (now : ℤ) (cfg : AgentClientConfig)

/-- A hello with good credentials of the agent is accepted as what it says, and one with a token that
is rejected is rejected. -/
def Agrees : Prop :=
  (∀ orgID, a.authenticateAgent mac json now cfg.token = .ok (cfg.agentID, orgID) →
    a.performHelloHandshake mac json isTime now (some cfg.hello) =
      .ok ⟨cfg.agentID, orgID, cfg.version, [], []⟩) ∧
  ∀ err, a.authenticateAgent mac json now cfg.token = .error err →
    ∃ err', a.performHelloHandshake mac json isTime now (some cfg.hello) = .error err'

lemma parse_hello : parseMessage isTime (some cfg.hello) =
    some ⟨Gateway.msgAgentHello, [], [], none⟩ := by
  rfl

lemma handshake_hello : a.performHelloHandshake mac json isTime now (some cfg.hello) =
    .error (.auth (unauthorized "missing token")) := by
  simp only [AuthManager.performHelloHandshake, parse_hello]
  rfl

theorem hello_agreement : Agrees mac json isTime a now cfg ↔
    ¬ ∃ orgID, a.authenticateAgent mac json now cfg.token = .ok (cfg.agentID, orgID) := by
  simp only [Agrees, handshake_hello]
  constructor
  · rintro ⟨h, _⟩ ⟨orgID, hok⟩
    cases h orgID hok
  · intro h
    exact ⟨fun orgID hok => absurd ⟨orgID, hok⟩ h, fun _ _ => ⟨_, rfl⟩⟩

def oneKey : AuthManager where
  jwtSecret := ascii "secret"
  keyValidator := some fun key =>
    if key = ascii "ak_1" then .ok (ascii "agent", ascii "red") else .error (ascii "unknown key")

def exampleConfig : AgentClientConfig := ⟨ascii "agent", ascii "ak_1", ascii "1.0.0"⟩

theorem hello_agreement_fails :
    oneKey.authenticateAgent (fun _ _ => []) (fun _ => none) 0 exampleConfig.token =
      .ok (exampleConfig.agentID, ascii "red") ∧
    oneKey.performHelloHandshake (fun _ _ => []) (fun _ => none) (fun _ => true) 0
      (some exampleConfig.hello) = .error (.auth (unauthorized "missing token")) ∧
    ¬ Agrees (fun _ _ => []) (fun _ => none) (fun _ => true) oneKey 0 exampleConfig := by
  refine ⟨rfl, rfl, ?_⟩
  rintro ⟨h, _⟩
  cases h (ascii "red") rfl

end OmniTun.Gateway.Hello
