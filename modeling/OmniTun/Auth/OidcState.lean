import OmniTun.Auth.Service
import OmniTun.Foundation.Base64
import OmniTun.Foundation.Transition
import OmniTun.Relay.Token

/-! The state of an OIDC login, which a signed cookie carries to the callback. -/

namespace OmniTun.Auth.OidcState

open OmniTun.Foundation Transition
open OmniTun.Relay (splitLast dot splitLast_append eq_append_of_splitLast splitLast_of_mem)

structure OIDCProvider where
  clientID : Bytes
  clientSecret : Bytes
  redirectURL : Bytes
  discoveryURL : Bytes

namespace OIDCProvider

def isMock (p : OIDCProvider) : Prop := p.discoveryURL = [] ∨ ascii "mock://" <+: p.discoveryURL

instance (p : OIDCProvider) : Decidable p.isMock := by unfold isMock; infer_instance

def isConfigured (p : OIDCProvider) : Prop :=
  p.isMock ∨ p.clientID ≠ [] ∧ p.clientSecret ≠ [] ∧ p.discoveryURL ≠ [] ∧ p.redirectURL ≠ []

instance (p : OIDCProvider) : Decidable p.isConfigured := by unfold isConfigured; infer_instance

end OIDCProvider

structure Config where
  provider : OIDCProvider
  jwtSecret : Bytes
  tokenExpiry : ℤ

structure SetCookie where
  name : Bytes
  value : Bytes
  maxAge : ℤ
  deriving DecidableEq

inductive Answer
  | error (err : AppError)
  | redirect (location : Bytes)
  deriving DecidableEq

structure Response where
  cookies : List SetCookie
  answer : Answer
  deriving DecidableEq

structure Request where
  query : List (Bytes × Bytes)
  cookies : List (Bytes × Bytes)
  deriving DecidableEq

namespace Request

variable (r : Request)

def get (name : Bytes) : Bytes := ((r.query.find? fun q => q.1 = name).map Prod.snd).getD []

def cookie (name : Bytes) : Option Bytes := (r.cookies.find? fun c => c.1 = name).map Prod.snd

def code : Bytes := r.get (ascii "code")

def state : Bytes := r.get (ascii "state")

def stateCookie : Option Bytes := r.cookie (ascii "oidc_state")

end Request

def Response.error (cookies : List SetCookie) (status : ℕ) (code : String) (message : Bytes) :
    Response :=
  ⟨cookies, .error ⟨ascii code, message, status⟩⟩

def generateOIDCState (draw : Option (Vector UInt8 32)) : Option Bytes :=
  draw.map fun b => Base64.encodeToString b.toList

section

variable (hmacSHA256 : Bytes → Bytes → Vector UInt8 32) (cfg : Config)

def signOIDCState (state secret : Bytes) : Bytes :=
  Base64.encodeToString (hmacSHA256 secret state).toList

def verifyOIDCState (state signature secret : Bytes) : Bool :=
  signature = signOIDCState hmacSHA256 state secret

def loginCookie (state : Bytes) : Bytes :=
  state ++ [dot] ++ signOIDCState hmacSHA256 state cfg.jwtSecret

/-- `authCodeURL` is what the provider makes of the state. -/
def handleOIDCLogin (draw : Option (Vector UInt8 32)) (authCodeURL : Bytes → Except Bytes Bytes) :
    Response :=
  if ¬ cfg.provider.isConfigured then
    .error [] 400 "oidc_not_configured" (ascii "OIDC is not configured")
  else
    match generateOIDCState draw with
    | none => .error [] 500 "internal_error" (ascii "failed to generate state")
    | some state =>
      let cookies := [⟨ascii "oidc_state", loginCookie hmacSHA256 cfg state, 600⟩]
      match authCodeURL state with
      | .error err =>
        .error cookies 500 "internal_error" (ascii "failed to build auth URL: " ++ err)
      | .ok url => ⟨cookies, .redirect url⟩

def stateMismatch (r : Request) : Bool :=
  match r.stateCookie with
  | none => false
  | some value =>
    match splitLast value dot with
    | [expectedState, signature] =>
      expectedState ≠ r.state ∨
        verifyOIDCState hmacSHA256 expectedState signature cfg.jwtSecret = false
    | _ => false

def oidcErrorMessage (r : Request) : Bytes :=
  if r.get (ascii "error_description") ≠ [] then r.get (ascii "error_description")
  else if r.get (ascii "error") ≠ [] then r.get (ascii "error")
  else ascii "no authorization code received"

structure Callback where
  response : Response
  exchanged : Option Bytes

/-- `handleCallback` exchanges a code for an access token and a refresh token. -/
def handleOIDCCallback (r : Request) (handleCallback : Bytes → Except Bytes (Bytes × Bytes)) :
    Callback :=
  if r.code = [] then ⟨.error [] 400 "oidc_error" (oidcErrorMessage r), none⟩
  else if stateMismatch hmacSHA256 cfg r then
    ⟨.error [] 400 "invalid_state" (ascii "OIDC state mismatch"), none⟩
  else
    let cleared : SetCookie := ⟨ascii "oidc_state", [], -1⟩
    match handleCallback r.code with
    | .error err => ⟨.error [cleared] 401 "oidc_auth_failed" err, some r.code⟩
    | .ok (accessToken, refreshToken) =>
      ⟨⟨[cleared, ⟨ascii "access_token", accessToken, cfg.tokenExpiry⟩],
        .redirect (ascii "/?token=" ++ accessToken ++ ascii "&refresh_token=" ++ refreshToken)⟩,
        some r.code⟩

end

inductive Event
  | login (draw : Option (Vector UInt8 32)) (authCodeURL : Bytes → Except Bytes Bytes)
  | callback (r : Request) (handleCallback : Bytes → Except Bytes (Bytes × Bytes))

structure Exchange where
  request : Request
  issued : List Bytes

/-- The cookies that logins have set, and the callbacks whose code was exchanged with the cookies
there were at that time. -/
structure State where
  issued : List Bytes
  exchanges : List Exchange

def CarriesIssued (issued : List Bytes) (r : Request) : Prop :=
  ∃ value ∈ issued, r.stateCookie = some value ∧
    ∃ signature, splitLast value dot = [r.state, signature]

def Safe (s : State) : Prop := ∀ e ∈ s.exchanges, CarriesIssued e.issued e.request

section Runs

variable (hmacSHA256 : Bytes → Bytes → Vector UInt8 32) (cfg : Config)

def step (s : State) : Event → Option State
  | .login draw authCodeURL =>
    let cookies := (handleOIDCLogin hmacSHA256 cfg draw authCodeURL).cookies
    some { s with issued := cookies.map SetCookie.value ++ s.issued }
  | .callback r handleCallback =>
    match (handleOIDCCallback hmacSHA256 cfg r handleCallback).exchanged with
    | none => some s
    | some _ => some { s with exchanges := ⟨r, s.issued⟩ :: s.exchanges }

/-- The ideal of the signature: it verifies only for states that a login has put into a cookie. -/
def Unforged (s : State) : Event → Prop
  | .login _ _ => True
  | .callback r _ => ∀ value state signature, r.stateCookie = some value →
      splitLast value dot = [state, signature] →
        verifyOIDCState hmacSHA256 state signature cfg.jwtSecret = true →
          ∃ value' ∈ s.issued, ∃ signature', splitLast value' dot = [state, signature']

end Runs

def Checked (_ : State) : Event → Prop
  | .login _ _ => True
  | .callback r _ => r.code = [] ∨ ∃ value, r.stateCookie = some value ∧ dot ∈ value

section Steps

variable {hmacSHA256 : Bytes → Bytes → Vector UInt8 32} {cfg : Config} {r : Request}
  {handleCallback : Bytes → Except Bytes (Bytes × Bytes)} {state : Bytes} {s t : State}

lemma dot_not_mem_signOIDCState (state secret : Bytes) :
    dot ∉ signOIDCState hmacSHA256 state secret :=
  Base64.dot_not_mem_encodeToString _

lemma splitLast_loginCookie : splitLast (loginCookie hmacSHA256 cfg state) dot =
    [state, signOIDCState hmacSHA256 state cfg.jwtSecret] :=
  splitLast_append (dot_not_mem_signOIDCState state cfg.jwtSecret)

lemma dot_mem_of_splitLast {value a b : Bytes} (h : splitLast value dot = [a, b]) :
    dot ∈ value := by
  simp [eq_append_of_splitLast h]

lemma mem_handleOIDCLogin_cookies {draw : Option (Vector UInt8 32)}
    {authCodeURL : Bytes → Except Bytes Bytes} {c : SetCookie}
    (h : c ∈ (handleOIDCLogin hmacSHA256 cfg draw authCodeURL).cookies) :
    ∃ state, c.value = loginCookie hmacSHA256 cfg state := by
  unfold handleOIDCLogin at h
  split_ifs at h with hc
  · cases hs : generateOIDCState draw with
    | none => simp [hs, Response.error] at h
    | some state =>
      cases hu : authCodeURL state <;>
      · simp only [hs, hu, Response.error, List.mem_singleton] at h
        exact ⟨state, by rw [h]⟩
  · simp [Response.error] at h

lemma exchanged_eq_some {code : Bytes} :
    (handleOIDCCallback hmacSHA256 cfg r handleCallback).exchanged = some code ↔
      r.code = code ∧ code ≠ [] ∧ stateMismatch hmacSHA256 cfg r = false := by
  unfold handleOIDCCallback
  split_ifs with hcode hmis
  · exact ⟨nofun, fun h => absurd (h.1.symm.trans hcode) h.2.1⟩
  · exact ⟨nofun, fun h => absurd (hmis.symm.trans h.2.2) (by decide)⟩
  · have hfalse : stateMismatch hmacSHA256 cfg r = false := by simpa using hmis
    have hiff : some r.code = some code ↔
        r.code = code ∧ code ≠ [] ∧ stateMismatch hmacSHA256 cfg r = false :=
      ⟨fun h => ⟨Option.some.inj h, Option.some.inj h ▸ hcode, hfalse⟩, fun h => congrArg some h.1⟩
    cases handleCallback r.code <;> exact hiff

lemma stateMismatch_split {value a b : Bytes} (hv : r.stateCookie = some value)
    (h : splitLast value dot = [a, b]) : stateMismatch hmacSHA256 cfg r = false ↔
      a = r.state ∧ verifyOIDCState hmacSHA256 a b cfg.jwtSecret = true := by
  simp [stateMismatch, hv, h]

lemma checked_of_mismatch (h : stateMismatch hmacSHA256 cfg r = true) :
    ∃ value, r.stateCookie = some value ∧ dot ∈ value := by
  unfold stateMismatch at h
  split at h
  · cases h
  · rename_i value hv
    split at h
    · rename_i hs
      exact ⟨value, hv, dot_mem_of_splitLast hs⟩
    · cases h

def Genuine (hmacSHA256 : Bytes → Bytes → Vector UInt8 32) (cfg : Config) (s : State) : Prop :=
  ∀ value ∈ s.issued, ∃ state, value = loginCookie hmacSHA256 cfg state

lemma genuine_step {e : Event} (hs : Genuine hmacSHA256 cfg s)
    (h : step hmacSHA256 cfg s e = some t) : Genuine hmacSHA256 cfg t := by
  cases e with
  | login draw authCodeURL =>
    obtain rfl := Option.some.inj h
    intro value hmem
    rcases List.mem_append.mp hmem with hmem | hmem
    · obtain ⟨c, hc, rfl⟩ := List.mem_map.mp hmem
      exact mem_handleOIDCLogin_cookies hc
    · exact hs value hmem
  | callback r handleCallback =>
    simp only [step] at h
    split at h <;> cases h <;> exact hs

lemma carries_iff_checked (hs : Genuine hmacSHA256 cfg s)
    (hu : Unforged hmacSHA256 cfg s (.callback r handleCallback)) (hcode : r.code ≠ [])
    (hmatch : stateMismatch hmacSHA256 cfg r = false) :
    CarriesIssued s.issued r ↔ Checked s (.callback r handleCallback) := by
  constructor
  · rintro ⟨value, -, hv, signature, hsplit⟩
    exact .inr ⟨value, hv, dot_mem_of_splitLast hsplit⟩
  · rintro (hnil | ⟨value, hv, hdot⟩)
    · exact absurd hnil hcode
    · obtain ⟨a, b, hsplit⟩ := splitLast_of_mem hdot
      obtain ⟨ha, hverify⟩ := (stateMismatch_split hv hsplit).mp hmatch
      obtain ⟨value', hmem, signature', hsplit'⟩ := hu value a b hv hsplit hverify
      obtain ⟨state, rfl⟩ := hs value' hmem
      rw [splitLast_loginCookie] at hsplit'
      obtain ⟨rfl, -⟩ := List.cons.inj hsplit'
      -- the signature of a state is determined by it, so the cookie is the one that was issued
      have hvalue : value = loginCookie hmacSHA256 cfg state := by
        have hb : b = signOIDCState hmacSHA256 state cfg.jwtSecret := of_decide_eq_true hverify
        rw [eq_append_of_splitLast hsplit, hb, loginCookie]
      exact ⟨value, hvalue ▸ hmem, hv, b, ha ▸ hsplit⟩

lemma safe_step_iff {e : Event} (hs : Safe s) (hg : Genuine hmacSHA256 cfg s)
    (hu : Unforged hmacSHA256 cfg s e) (h : step hmacSHA256 cfg s e = some t) :
    Safe t ↔ Checked s e := by
  cases e with
  | login draw authCodeURL =>
    obtain rfl := Option.some.inj h
    exact ⟨fun _ => trivial, fun _ => hs⟩
  | callback r handleCallback =>
    simp only [step] at h
    cases hex : (handleOIDCCallback hmacSHA256 cfg r handleCallback).exchanged with
    | none =>
      rw [hex] at h
      obtain rfl := Option.some.inj h
      refine ⟨fun _ => ?_, fun _ => hs⟩
      by_cases hcode : r.code = []
      · exact .inl hcode
      · cases hmis : stateMismatch hmacSHA256 cfg r with
        | true => exact .inr (checked_of_mismatch hmis)
        | false =>
          rw [exchanged_eq_some.mpr ⟨Eq.refl r.code, hcode, hmis⟩] at hex
          cases hex
    | some code =>
      rw [hex] at h
      obtain rfl := Option.some.inj h
      obtain ⟨rfl, hcode, hmatch⟩ := exchanged_eq_some.mp hex
      rw [← carries_iff_checked hg hu hcode hmatch]
      constructor
      · exact fun h => h ⟨r, s.issued⟩ List.mem_cons_self
      · intro h e he
        rcases List.mem_cons.mp he with rfl | he
        · exact h
        · exact hs e he

theorem oidc_callback_state_iff (hmacSHA256 : Bytes → Bytes → Vector UInt8 32) (cfg : Config)
    (events : List Event)
    (hunforged : Guarded (step hmacSHA256 cfg) (Unforged hmacSHA256 cfg) ⟨[], []⟩ events) :
    Always (step hmacSHA256 cfg) Safe ⟨[], []⟩ events ↔
      Guarded (step hmacSHA256 cfg) Checked ⟨[], []⟩ events := by
  apply always_iff_guarded_of_guarded (Q := Genuine hmacSHA256 cfg)
  · exact fun e he => absurd he List.not_mem_nil
  · exact fun value hmem => absurd hmem List.not_mem_nil
  · exact hunforged
  · exact fun s e t hs hg hu h => ⟨safe_step_iff hs hg hu h, fun _ => genuine_step hg h⟩

end Steps

section Examples

def mock : Config := ⟨⟨[], [], ascii "/cb", []⟩, ascii "secret", 3600⟩

def zeros : Vector UInt8 32 := Vector.replicate 32 0

def login : Event := .login (some zeros) fun state => .ok (ascii "/cb?state=" ++ state)

def returning : Event :=
  .callback
    ⟨[(ascii "code", ascii "__mock_oidc_code__"),
        (ascii "state", Base64.encodeToString zeros.toList)],
      [(ascii "oidc_state", loginCookie (fun _ _ => zeros) mock
        (Base64.encodeToString zeros.toList))]⟩
    fun _ => .ok (ascii "access", ascii "refresh")

def foreign : Event :=
  .callback ⟨[(ascii "code", ascii "__mock_oidc_code__")], []⟩
    fun _ => .ok (ascii "access", ascii "refresh")

theorem oidc_callback_state_returning :
    Always (step (fun _ _ => zeros) mock) Safe ⟨[], []⟩ [login, returning] := by
  apply (oidc_callback_state_iff (fun _ _ => zeros) mock [login, returning] ?_).mpr
  · refine .cons rfl trivial ?_
    exact .cons rfl (.inr ⟨_, rfl, by decide +kernel⟩) trivial
  · refine .cons rfl trivial ?_
    refine .cons rfl ?_ trivial
    rintro value state signature ⟨rfl⟩ hsplit -
    exact ⟨_, List.mem_cons_self, signature, hsplit⟩

theorem oidc_callback_state_fails :
    ¬ Always (step (fun _ _ => zeros) mock) Safe ⟨[], []⟩ [foreign] := by
  intro h
  obtain ⟨value, hmem, -⟩ := (h.last rfl) _ List.mem_cons_self
  cases hmem

end Examples

end OmniTun.Auth.OidcState
