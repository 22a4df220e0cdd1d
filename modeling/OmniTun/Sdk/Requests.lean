import OmniTun.Foundation.Json
import OmniTun.Foundation.Numerals

/-! The requests of the SDKs in Go and Python: what they send again after a failed attempt and what
they make of the last answer. -/

namespace OmniTun.Sdk

open OmniTun.Foundation OmniTun.Foundation.Numerals

/-- What a caller asks for. An encoded body is never empty. -/
structure Call where
  method : Bytes
  url : Bytes
  body : Option { raw : Bytes // raw ≠ [] }

structure Attempt where
  method : Bytes
  url : Bytes
  body : Bytes
  deriving DecidableEq

/-- An answer; `json` is `none` where the body is no JSON text. -/
structure Answer where
  status : ℕ
  reason : Bytes
  json : Option Json
  status_range : 200 ≤ status ∧ status ≤ 599

/-- How an attempt ends: connecting or sending fails, or the request is sent and the connection is
then closed, reset or too slow to give an answer, or there is one. -/
inductive Outcome
  | sendError
  | answerError
  | answer (a : Answer)

inductive LastError
  | transport
  | rateLimited
  | serverError (status : ℕ)

inductive Result
  | value (j : Json)
  | nothing
  | apiError (code message : Bytes)
  | decodeError
  | attributeError
  | raised
  | failed (last : Option LastError)

def Result.IsError : Result → Prop
  | .value _ | .nothing => False
  | _ => True

def defaultRetries : ℕ := 3

def Call.raw (c : Call) : Bytes := (c.body.map Subtype.val).getD []

def Call.send (c : Call) (body : Bytes) : Attempt := ⟨c.method, c.url, body⟩

def later (outcomes : ℕ → Outcome) : ℕ → Outcome := fun k => outcomes (k + 1)

def sending (a : Attempt) (r : List Attempt × Result) : List Attempt × Result := (a :: r.1, r.2)

/-! The SDK in Go. -/

namespace Go

def readDetails : Json → Option Unit
  | .obj _ => some ()
  | _ => none

def decodeAPIError (j : Json) : Option (Bytes × Bytes) := do
  let fs ← j.fields
  let code ← Json.stringField fs (ascii "code")
  let message ← Json.stringField fs (ascii "message")
  let _ ← Json.field readDetails () fs (ascii "details")
  return (code, message)

def apiError (a : Answer) : Result :=
  match a.json.bind decodeAPIError with
  | some (code, message) => .apiError code message
  | none =>
    .apiError (ascii "HTTP_" ++ natNumeral a.status) (natNumeral a.status ++ ascii " " ++ a.reason)

def conclude (wantsResult : Bool) (a : Answer) : Result :=
  if 400 ≤ a.status then apiError a
  else if wantsResult ∧ a.status ≠ 204 then
    match a.json with
    | some j => .value j
    | none => .decodeError
  else .nothing

/-- The attempts that are left. `reader` is what is left of the body, and a transport reads it to
its end. -/
def attempts (c : Call) (wantsResult : Bool) :
    ℕ → Bytes → Option LastError → (ℕ → Outcome) → List Attempt × Result
  | 0, _, last, _ => ([], .failed last)
  | n + 1, reader, _, outcomes =>
    match outcomes 0 with
    | .sendError | .answerError =>
      sending (c.send reader) (attempts c wantsResult n [] (some .transport) (later outcomes))
    | .answer a =>
      if a.status = 429 then
        sending (c.send reader) (attempts c wantsResult n [] (some .rateLimited) (later outcomes))
      else if 500 ≤ a.status then
        sending (c.send reader)
          (attempts c wantsResult n [] (some (.serverError a.status)) (later outcomes))
      else ([c.send reader], conclude wantsResult a)

def request (c : Call) (wantsResult : Bool) (outcomes : ℕ → Outcome) : List Attempt × Result :=
  attempts c wantsResult defaultRetries c.raw none outcomes

end Go

/-! The SDK in Python. -/

namespace Python

inductive Opened
  | response (a : Answer)
  | httpError (a : Answer)
  | urlError
  | raised

/-- Only what fails up to the end of sending is made a `URLError`: an error in reading the answer is
raised as the exception that it is. -/
def urlopen : Outcome → Opened
  | .sendError => .urlError
  | .answerError => .raised
  | .answer a => if 400 ≤ a.status then .httpError a else .response a

lemma urlopen_response {o : Outcome} {a : Answer} (h : urlopen o = .response a) : a.status < 400 := by
  cases o with
  | sendError | answerError => cases h
  | answer b =>
    simp only [urlopen] at h
    split_ifs at h with hb
    obtain rfl := Opened.response.inj h
    omega

def httpErrorText (a : Answer) : Bytes :=
  ascii "HTTP Error " ++ natNumeral a.status ++ ascii ": " ++ a.reason

/-- The error that is raised with the code and message of the body is caught by the handler around
it, as one that the body is no JSON is. -/
def httpError (a : Answer) : Result :=
  match a.json with
  | none | some (.obj _) => .apiError (ascii "HTTP_" ++ natNumeral a.status) (httpErrorText a)
  | some _ => .attributeError

/-- The branches for a status of 400 and above are left out: none gets here. -/
def response (a : Answer) : Result :=
  if a.status = 204 then .nothing
  else
    match a.json with
    | some j => .value j
    | none => .decodeError

def upper (method : Bytes) : Bytes := method.map fun c => if 97 ≤ c ∧ c ≤ 122 then c - 32 else c

def send (c : Call) : Attempt := ⟨upper c.method, c.url, c.raw⟩

def attempts (c : Call) : ℕ → Option LastError → (ℕ → Outcome) → List Attempt × Result
  | 0, last, _ => ([], .failed last)
  | n + 1, _, outcomes =>
    match urlopen (outcomes 0) with
    | .response a => ([send c], response a)
    | .httpError a => ([send c], httpError a)
    | .urlError => sending (send c) (attempts c n (some .transport) (later outcomes))
    -- Neither of the two handlers is for it.
    | .raised => ([send c], .raised)

def request (c : Call) (outcomes : ℕ → Outcome) : List Attempt × Result :=
  attempts c defaultRetries none outcomes

end Python

end OmniTun.Sdk
