import Mathlib.Logic.Function.Basic
import OmniTun.Foundation.Transition

/-! The web client's API requests: an answer of 401 makes a request refresh the access token, and
those that come while a refresh runs wait for it. Each `await` is a point where others may run. -/

namespace OmniTun.Web.ApiClient

open Foundation.Transition

variable {ι Token : Type} [DecidableEq ι]

inductive Promise (Token : Type)
  | answering (refresh : Token)
  | reading
  | resolved (result : Option Token)
  deriving DecidableEq

def Promise.Pending : Promise Token → Prop
  | .resolved _ => False
  | _ => True

inductive Stage (Token : Type)
  | idle
  | fetching
  | creating (p : ℕ)
  | created (p : ℕ) (result : Option Token)
  | waiting (p : ℕ)
  | retrying
  | done
  deriving DecidableEq

/-- A request, the `Authorization` of each of its fetches and the refresh that it waited for. -/
structure Request (Token : Type) where
  stage : Stage Token
  sent : List (Option Token)
  joined : Option ℕ
  deriving DecidableEq

inductive Event (Token : Type)
  | refreshSent (refresh : Token)
  | refreshed (refresh : Token)
  deriving DecidableEq

/-- A page: the client's fields, the local storage, and the traffic of `/v1/auth/refresh`, latest
first. A token that is missing or empty is `none`. -/
structure Page (ι Token : Type) where
  token : Option Token
  accessToken : Option Token
  refreshToken : Option Token
  refreshPromise : Option ℕ
  promises : List (Promise Token)
  requests : ι → Request Token
  log : List (Event Token)

inductive RefreshAnswer
  -- the server may have refreshed all the same
  | lost (refreshed : Bool)
  | refused
  | ok

structure TokenPair (Token : Type) where
  accessToken : Option Token
  refreshToken : Option Token

inductive Action (ι Token : Type)
  | start (i : ι)
  | respond (i : ι) (status : ℕ)
  | reject (i : ι)
  | answer (p : ℕ) (a : RefreshAnswer)
  | body (p : ℕ) (data : Option (TokenPair Token))
  | settle (i : ι)
  | resume (i : ι)

namespace Page

def loaded (accessToken refreshToken : Option Token) : Page ι Token where
  token := accessToken
  accessToken := accessToken
  refreshToken := refreshToken
  refreshPromise := none
  promises := []
  requests _ := { stage := .idle, sent := [], joined := none }
  log := []

variable (s : Page ι Token)

def setToken (token : Token) : Page ι Token :=
  { s with token := some token, accessToken := some token }

def clearToken : Page ι Token := { s with token := none, accessToken := none }

def setRequest (i : ι) (r : Request Token) : Page ι Token :=
  { s with requests := Function.update s.requests i r }

def setPromise (p : ℕ) (promise : Promise Token) : Page ι Token :=
  { s with promises := s.promises.set p promise }

def record (e : Event Token) : Page ι Token := { s with log := e :: s.log }

def doRefresh : Page ι Token :=
  match s.refreshToken with
  | none => { s with promises := s.promises ++ [.resolved none] }
  | some refresh =>
    { s with
      promises := s.promises ++ [.answering refresh]
      log := .refreshSent refresh :: s.log }

def refresh (i : ι) : Page ι Token :=
  let r := s.requests i
  match s.refreshPromise with
  | some p => s.setRequest i { r with stage := .waiting p, joined := some p }
  | none =>
    let p := s.promises.length
    { s.doRefresh with refreshPromise := some p }.setRequest i
      { r with stage := .creating p, joined := some p }

def finish (i : ι) : Page ι Token := s.setRequest i { s.requests i with stage := .done }

def proceed (i : ι) : Option Token → Page ι Token
  | none => s.finish i
  | some newToken =>
    let r := s.requests i
    s.setRequest i { r with stage := .retrying, sent := r.sent ++ [some newToken] }

def resolve (p : ℕ) (result : Option Token) : Page ι Token := s.setPromise p (.resolved result)

def answer (p : ℕ) (refresh : Token) : RefreshAnswer → Page ι Token
  | .lost false => s.clearToken.resolve p none
  | .lost true => (s.record (.refreshed refresh)).clearToken.resolve p none
  | .refused => s.clearToken.resolve p none
  | .ok => (s.record (.refreshed refresh)).setPromise p .reading

def body (p : ℕ) : Option (TokenPair Token) → Page ι Token
  | none => s.clearToken.resolve p none
  | some data =>
    let s := match data.accessToken with
      | none => s
      | some token => s.setToken token
    let s := match data.refreshToken with
      | none => s
      | some refresh => { s with refreshToken := some refresh }
    s.resolve p data.accessToken

end Page

def step (s : Page ι Token) : Action ι Token → Option (Page ι Token)
  | .start i =>
    match (s.requests i).stage with
    | .idle =>
      let token := s.token.or s.accessToken
      some ({ s with token := token }.setRequest i
        { stage := .fetching, sent := [token], joined := none })
    | _ => none
  | .respond i status =>
    match (s.requests i).stage with
    | .fetching => some (if status = 401 ∧ s.token.isSome then s.refresh i else s.finish i)
    | .retrying => some (s.finish i)
    | _ => none
  | .reject i =>
    match (s.requests i).stage with
    | .fetching | .retrying => some (s.finish i)
    | _ => none
  | .answer p a =>
    match s.promises[p]? with
    | some (.answering refresh) => some (s.answer p refresh a)
    | _ => none
  | .body p data =>
    match s.promises[p]? with
    | some .reading => some (s.body p data)
    | _ => none
  | .settle i =>
    match (s.requests i).stage with
    | .creating p =>
      match s.promises[p]? with
      | some (.resolved result) =>
        some ({ s with refreshPromise := none }.setRequest i
          { s.requests i with stage := .created p result })
      | _ => none
    | _ => none
  | .resume i =>
    match (s.requests i).stage with
    | .created _ result => some (s.proceed i result)
    | .waiting p =>
      match s.promises[p]? with
      | some (.resolved result) => some (s.proceed i result)
      | _ => none
    | _ => none

/-- A successful refresh brings a refresh token that has not been used up. -/
def Fresh (s : Page ι Token) : Action ι Token → Prop
  | .body _ (some data) => ∃ r, data.refreshToken = some r ∧ .refreshed r ∉ s.log
  | _ => True

instance Fresh.decidable [DecidableEq Token] (s : Page ι Token) :
    ∀ a, Decidable (Fresh s a)
  | .body _ (some { accessToken := _, refreshToken := some r }) =>
    decidable_of_iff (.refreshed r ∉ s.log) (by simp [Fresh])
  | .body _ (some { accessToken := _, refreshToken := none }) => isFalse (by simp [Fresh])
  | .body _ none | .start _ | .respond _ _ | .reject _ | .answer _ _ | .settle _ | .resume _ =>
    isTrue trivial

inductive Change (s : Page ι Token) : Page ι Token → Prop
  | starts (i : ι) : (s.requests i).stage = .idle →
      Change s ({ s with token := s.token.or s.accessToken }.setRequest i
        { stage := .fetching, sent := [s.token.or s.accessToken], joined := none })
  | finishes (i : ι) : (s.requests i).stage = .fetching ∨ (s.requests i).stage = .retrying →
      Change s (s.finish i)
  | refreshes (i : ι) : (s.requests i).stage = .fetching → s.token.isSome → Change s (s.refresh i)
  | answers (p : ℕ) (refresh : Token) (a : RefreshAnswer) :
      s.promises[p]? = some (.answering refresh) → Change s (s.answer p refresh a)
  | reads (p : ℕ) (data : Option (TokenPair Token)) :
      s.promises[p]? = some .reading → Fresh s (.body p data) → Change s (s.body p data)
  | settles (i : ι) (p : ℕ) (result : Option Token) : (s.requests i).stage = .creating p →
      s.promises[p]? = some (.resolved result) →
      Change s ({ s with refreshPromise := none }.setRequest i
        { s.requests i with stage := .created p result })
  | proceeds (i : ι) (p : ℕ) (result : Option Token) :
      (s.requests i).stage = .created p result ∨
        ((s.requests i).stage = .waiting p ∧ s.promises[p]? = some (.resolved result)) →
      Change s (s.proceed i result)

lemma step_change {s t : Page ι Token} {a : Action ι Token} (hf : Fresh s a)
    (h : step s a = some t) : Change s t := by
  cases a with
  | start i =>
    simp only [step] at h
    split at h
    · next hi =>
      obtain rfl := Option.some.inj h
      exact .starts i hi
    · cases h
  | respond i status =>
    simp only [step] at h
    split at h
    · next hi =>
      obtain rfl := Option.some.inj h
      split_ifs with hc
      · exact .refreshes i hi hc.2
      · exact .finishes i (.inl hi)
    · next hi =>
      obtain rfl := Option.some.inj h
      exact .finishes i (.inr hi)
    · cases h
  | reject i =>
    simp only [step] at h
    split at h
    · next hi =>
      obtain rfl := Option.some.inj h
      exact .finishes i (.inl hi)
    · next hi =>
      obtain rfl := Option.some.inj h
      exact .finishes i (.inr hi)
    · cases h
  | answer p a =>
    simp only [step] at h
    split at h
    · next hp =>
      obtain rfl := Option.some.inj h
      exact .answers p _ a hp
    · cases h
  | body p data =>
    simp only [step] at h
    split at h
    · next hp =>
      obtain rfl := Option.some.inj h
      exact .reads p data hp hf
    · cases h
  | settle i =>
    simp only [step] at h
    split at h
    · next hi =>
      split at h
      · next hp =>
        obtain rfl := Option.some.inj h
        exact .settles i _ _ hi hp
      · cases h
    · cases h
  | resume i =>
    simp only [step] at h
    split at h
    · next hi =>
      obtain rfl := Option.some.inj h
      exact .proceeds i _ _ (.inl hi)
    · next hi =>
      split at h
      · next hp =>
        obtain rfl := Option.some.inj h
        exact .proceeds i _ _ (.inr ⟨hi, hp⟩)
      · cases h
    · cases h

end OmniTun.Web.ApiClient
