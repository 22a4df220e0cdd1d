import OmniTun.Api.Store
import OmniTun.Sdk.Requests

/-! The retry policy that the SDKs are to follow, and what they make of it. -/

namespace OmniTun.Sdk

open OmniTun.Foundation OmniTun.Foundation.Numerals

def retryable : Outcome → Bool
  | .sendError | .answerError => true
  | .answer a => a.status = 429 ∨ 500 ≤ a.status

/-- How many attempts are made, `n` at most, and the answer that ends them. -/
def policy : ℕ → (ℕ → Outcome) → ℕ × Option Answer
  | 0, _ => (0, none)
  | n + 1, outcomes =>
    match outcomes 0 with
    | .sendError | .answerError => let r := policy n (later outcomes); (r.1 + 1, r.2)
    | .answer a =>
      if retryable (.answer a) then let r := policy n (later outcomes); (r.1 + 1, r.2)
      else (1, some a)

def errorFields (fs : List (Bytes × Json)) : Option (Bytes × Bytes) :=
  match Json.get fs (ascii "code"), Json.get fs (ascii "message") with
  | some (.str code), some (.str message) => some (code, message)
  | _, _ => none

/-- The code and message in the body of an error: inside `error`, as the server writes them, or
without it. -/
def serverError : Json → Option (Bytes × Bytes)
  | .obj fs =>
    match Json.get fs (ascii "error") with
    | some (.obj es) => errorFields es
    | _ => errorFields fs
  | _ => none

/-- What a result has to be after the last answer; where there is none, every outcome was to be
retried. -/
def Decides (wantsResult : Bool) : Option Answer → Result → Prop
  | none, r => r.IsError
  | some a, r =>
    if a.status < 300 then
      if wantsResult ∧ a.status ≠ 204 then ∀ j, a.json = some j → r = .value j else r = .nothing
    else if 400 ≤ a.status then
      r.IsError ∧ ∀ j code message, a.json = some j → serverError j = some (code, message) →
        r = .apiError code message
    else True

def Follows (complete : Attempt) (wantsResult : Bool) (outcomes : ℕ → Outcome)
    (r : List Attempt × Result) : Prop :=
  r.1 = List.replicate (policy defaultRetries outcomes).1 complete ∧
    Decides wantsResult (policy defaultRetries outcomes).2 r.2

variable {n : ℕ} {outcomes : ℕ → Outcome}

lemma retryable_answer (a : Answer) :
    retryable (.answer a) = false ↔ a.status ≠ 429 ∧ a.status < 500 := by
  simp [retryable]

lemma retry_or_stop (o : Outcome) :
    retryable o = true ∨ ∃ a, o = .answer a ∧ retryable (.answer a) = false := by
  cases o with
  | sendError | answerError => exact .inl rfl
  | answer a =>
    cases h : retryable (.answer a) with
    | true => exact .inl rfl
    | false => exact .inr ⟨a, rfl, h⟩

lemma policy_retry (h : retryable (outcomes 0) = true) :
    policy (n + 1) outcomes =
      ((policy n (later outcomes)).1 + 1, (policy n (later outcomes)).2) := by
  rw [policy]
  cases ho : outcomes 0 with
  | sendError | answerError => rfl
  | answer a => simp only [← ho, h, if_true]

lemma policy_stop {a : Answer} (ho : outcomes 0 = .answer a) (h : retryable (.answer a) = false) :
    policy (n + 1) outcomes = (1, some a) := by
  rw [policy]
  simp only [ho, h, Bool.false_eq_true, if_false]

lemma policy_pos : 0 < (policy (n + 1) outcomes).1 := by
  rcases retry_or_stop (outcomes 0) with hr | ⟨a, ho, ha⟩
  · rw [policy_retry hr]
    omega
  · rw [policy_stop ho ha]
    omega

lemma policy_one : (policy (n + 2) outcomes).1 = 1 ↔ retryable (outcomes 0) = false := by
  rcases retry_or_stop (outcomes 0) with hr | ⟨a, ho, ha⟩
  · have hpos : 0 < (policy (n + 1) (later outcomes)).1 := policy_pos
    rw [policy_retry hr, hr]
    simp
    omega
  · rw [policy_stop ho ha, ho, ha]
    simp

def ErrorCarried (fields : Answer → Json → Bytes × Bytes → Prop) (a : Answer) : Prop :=
  400 ≤ a.status → ∀ j code message, a.json = some j → serverError j = some (code, message) →
    fields a j (code, message)

def ErrorsCarried (fields : Answer → Json → Bytes × Bytes → Prop) (outcomes : ℕ → Outcome) : Prop :=
  ∀ a, (policy defaultRetries outcomes).2 = some a → ErrorCarried fields a

namespace Go

variable {c : Call} {wantsResult : Bool} {reader : Bytes} {last : Option LastError}

lemma attempts_retry (h : retryable (outcomes 0) = true) : ∃ last',
    attempts c wantsResult (n + 1) reader last outcomes =
      sending (c.send reader) (attempts c wantsResult n [] last' (later outcomes)) := by
  rw [attempts]
  cases ho : outcomes 0 with
  | sendError | answerError => exact ⟨_, rfl⟩
  | answer a =>
    by_cases h429 : a.status = 429
    · exact ⟨some .rateLimited, by simp [h429]⟩
    · have h500 : 500 ≤ a.status := by simpa [ho, retryable, h429] using h
      exact ⟨some (.serverError a.status), by simp [h429, h500]⟩

lemma attempts_stop {a : Answer} (ho : outcomes 0 = .answer a)
    (h : retryable (.answer a) = false) :
    attempts c wantsResult (n + 1) reader last outcomes =
      ([c.send reader], conclude wantsResult a) := by
  obtain ⟨h429, h500⟩ := (retryable_answer a).mp h
  rw [attempts]
  simp only [ho, h429, if_false]
  rw [if_neg (by omega)]

def sends (c : Call) (reader : Bytes) (count : ℕ) : List Attempt :=
  (List.replicate count (c.send [])).set 0 (c.send reader)

lemma sends_nil (count : ℕ) : sends c [] count = List.replicate count (c.send []) := by
  cases count <;> rfl

lemma sends_succ (count : ℕ) : sends c reader (count + 1) = c.send reader :: sends c [] count := by
  rw [sends_nil]
  rfl

lemma attempts_eq : ∃ last', attempts c wantsResult n reader last outcomes =
    (sends c reader (policy n outcomes).1,
      match (policy n outcomes).2 with
      | none => .failed last'
      | some a => conclude wantsResult a) := by
  induction n generalizing reader last outcomes with
  | zero => exact ⟨last, rfl⟩
  | succ n ih =>
    rcases retry_or_stop (outcomes 0) with hr | ⟨a, ho, ha⟩
    · obtain ⟨last₁, hstep⟩ : ∃ last', attempts c wantsResult (n + 1) reader last outcomes =
          sending (c.send reader) (attempts c wantsResult n [] last' (later outcomes)) :=
        attempts_retry hr
      obtain ⟨last₂, hrest⟩ := @ih (later outcomes) [] last₁
      refine ⟨last₂, ?_⟩
      rw [hstep, hrest, policy_retry hr, sends_succ]
      rfl
    · refine ⟨last, ?_⟩
      rw [attempts_stop ho ha, policy_stop ho ha]
      rfl

def Fields (a : Answer) (j : Json) (p : Bytes × Bytes) : Prop :=
  decodeAPIError j = some p ∨
    (decodeAPIError j = none ∧
      p = (ascii "HTTP_" ++ natNumeral a.status, natNumeral a.status ++ ascii " " ++ a.reason))

lemma apiError_iff {a : Answer} {j : Json} (hj : a.json = some j) (code message : Bytes) :
    apiError a = .apiError code message ↔ Fields a j (code, message) := by
  rw [apiError, hj, Option.bind_some, Fields]
  cases decodeAPIError j with
  | none => simp [eq_comm]
  | some p => simp [Prod.ext_iff]

lemma sends_complete (c : Call) {count : ℕ} (h : 0 < count) :
    sends c c.raw count = List.replicate count (c.send c.raw) ↔ c.body = none ∨ count = 1 := by
  obtain ⟨k, rfl⟩ := Nat.exists_eq_succ_of_ne_zero h.ne'
  rw [Nat.succ_eq_add_one, sends_succ, sends_nil, List.replicate_succ]
  cases k with
  | zero => simp
  | succ k =>
    have hsend : c.send [] = c.send c.raw ↔ c.body = none := by
      cases hb : c.body with
      | none => simp [Call.raw, hb]
      | some raw => simp [Call.raw, Call.send, hb, raw.2.symm]
    simp [hsend]

lemma apiError_isError (a : Answer) : (apiError a).IsError := by
  rw [apiError]
  split <;> trivial

lemma conclude_decides (wantsResult : Bool) (a : Answer) :
    Decides wantsResult (some a) (conclude wantsResult a) ↔ ErrorCarried Fields a := by
  rw [Decides, conclude, ErrorCarried]
  by_cases hhigh : 400 ≤ a.status
  · have hlow : ¬ a.status < 300 := by omega
    simp only [hlow, hhigh, if_true, if_false, apiError_isError, true_and, forall_const]
    refine forall₅_congr fun j code message hj _ => apiError_iff hj code message
  · simp only [hhigh, if_false, false_implies, iff_true]
    split_ifs with hlow hwants
    · intro j hj
      rw [hj]
    · rfl

lemma request_follows_iff (c : Call) (wantsResult : Bool) (outcomes : ℕ → Outcome) :
    Follows (c.send c.raw) wantsResult outcomes (request c wantsResult outcomes) ↔
      (c.body = none ∨ retryable (outcomes 0) = false) ∧ ErrorsCarried Fields outcomes := by
  obtain ⟨last, hrequest⟩ : ∃ last', attempts c wantsResult defaultRetries c.raw none outcomes =
      (sends c c.raw (policy defaultRetries outcomes).1,
        match (policy defaultRetries outcomes).2 with
        | none => .failed last'
        | some a => conclude wantsResult a) := attempts_eq
  have hone : (policy defaultRetries outcomes).1 = 1 ↔ retryable (outcomes 0) = false := policy_one
  have hpos : 0 < (policy defaultRetries outcomes).1 := policy_pos
  rw [request, hrequest, Follows, sends_complete c hpos, hone]
  apply and_congr_right'
  cases ha : (policy defaultRetries outcomes).2 with
  | none => simp [ErrorsCarried, Decides, Result.IsError, ha]
  | some a => simp [ErrorsCarried, ha, conclude_decides]

end Go

namespace Python

variable {c : Call} {last : Option LastError}

def Fields (a : Answer) (_ : Json) (p : Bytes × Bytes) : Prop :=
  p = (ascii "HTTP_" ++ natNumeral a.status, httpErrorText a)

def answered : ℕ → (ℕ → Outcome) → ℕ × Option (Option Answer)
  | 0, _ => (0, none)
  | n + 1, outcomes =>
    match outcomes 0 with
    | .sendError => ((answered n (later outcomes)).1 + 1, (answered n (later outcomes)).2)
    | .answerError => (1, some none)
    | .answer a => (1, some (some a))

def conclude (a : Answer) : Result := if 400 ≤ a.status then httpError a else response a

def ending (last : Option LastError) : Option (Option Answer) → Result
  | none => .failed last
  | some none => .raised
  | some (some a) => conclude a

lemma answered_sendError (ho : outcomes 0 = .sendError) : answered (n + 1) outcomes =
    ((answered n (later outcomes)).1 + 1, (answered n (later outcomes)).2) := by
  simp only [answered, ho]

lemma answered_once (ho : outcomes 0 ≠ .sendError) : (answered (n + 1) outcomes).1 = 1 := by
  cases h : outcomes 0 with
  | sendError => exact absurd h ho
  | answerError | answer a => simp only [answered, h]

lemma policy_sendError (ho : outcomes 0 = .sendError) : policy (n + 1) outcomes =
    ((policy n (later outcomes)).1 + 1, (policy n (later outcomes)).2) :=
  policy_retry (by rw [ho]; rfl)

lemma attempts_eq : ∃ last', attempts c n last outcomes =
    (List.replicate (answered n outcomes).1 (send c), ending last' (answered n outcomes).2) := by
  induction n generalizing last outcomes with
  | zero => exact ⟨last, rfl⟩
  | succ n ih =>
    cases ho : outcomes 0 with
    | sendError =>
      obtain ⟨last', hrest⟩ := @ih (later outcomes) (some .transport)
      refine ⟨last', ?_⟩
      rw [answered_sendError ho]
      simp only [attempts, ho, urlopen, hrest]
      rfl
    | answerError =>
      refine ⟨last, ?_⟩
      simp [attempts, answered, ho, urlopen, ending]
    | answer a =>
      refine ⟨last, ?_⟩
      by_cases hhigh : 400 ≤ a.status
      · simp [attempts, answered, ho, urlopen, ending, conclude, hhigh]
      · simp [attempts, answered, ho, urlopen, ending, conclude, hhigh]

lemma answered_iff : (answered n outcomes).1 = (policy n outcomes).1 ↔
    ∀ k, k + 1 < (policy n outcomes).1 → outcomes k = .sendError := by
  induction n generalizing outcomes with
  | zero => simp [answered, policy]
  | succ n ih =>
    by_cases ho : outcomes 0 = .sendError
    · rw [answered_sendError ho, policy_sendError ho, Nat.add_right_cancel_iff, ih]
      constructor
      · intro h k hk
        cases k with
        | zero => exact ho
        | succ k => exact h k (by simpa using hk)
      · intro h k hk
        exact h (k + 1) (by simpa using hk)
    · have hpos : 0 < (policy (n + 1) outcomes).1 := policy_pos
      rw [answered_once ho]
      constructor
      · intro h k hk
        omega
      · intro h
        by_contra hne
        exact ho (h 0 (by omega))

lemma answered_last (h : (answered n outcomes).1 = (policy n outcomes).1) :
    (∃ a, (policy n outcomes).2 = some a ∧ (answered n outcomes).2 = some (some a)) ∨
      (policy n outcomes).2 = none ∧
        ∀ a, (answered n outcomes).2 = some (some a) → retryable (.answer a) = true := by
  induction n generalizing outcomes with
  | zero => exact .inr ⟨rfl, fun a ha => by cases ha⟩
  | succ n ih =>
    by_cases ho : outcomes 0 = .sendError
    · rw [answered_sendError ho, policy_sendError ho] at h
      rw [answered_sendError ho, policy_sendError ho]
      exact ih (Nat.add_right_cancel h)
    · rcases retry_or_stop (outcomes 0) with hr | ⟨a, ha, hstop⟩
      · -- The one attempt is the policy's only one, so none is left for it.
        rw [answered_once ho, policy_retry hr] at h
        cases n with
        | zero =>
          rw [policy_retry hr]
          refine .inr ⟨rfl, fun a ha => ?_⟩
          cases hfirst : outcomes 0 with
          | sendError => exact absurd hfirst ho
          | answerError => simp [answered, hfirst] at ha
          | answer b =>
            simp only [answered, hfirst, Option.some.injEq] at ha
            rw [← ha, ← hfirst, hr]
        | succ n =>
          have hpos : 0 < (policy (n + 1) (later outcomes)).1 := policy_pos
          simp only at h
          omega
      · exact .inl ⟨a, by rw [policy_stop ha hstop], by simp only [answered, ha]⟩

lemma httpError_isError (a : Answer) : (httpError a).IsError := by
  rw [httpError]
  split <;> trivial

lemma serverError_obj {j : Json} {p : Bytes × Bytes} (h : serverError j = some p) :
    ∃ fs, j = .obj fs := by
  cases j with
  | obj fs => exact ⟨fs, rfl⟩
  | null | bool _ | num _ | real _ | str _ | arr _ => cases h

lemma conclude_decides (a : Answer) :
    Decides true (some a) (conclude a) ↔ ErrorCarried Fields a := by
  rw [Decides, conclude, ErrorCarried]
  by_cases hhigh : 400 ≤ a.status
  · have hlow : ¬ a.status < 300 := by omega
    simp only [hlow, hhigh, if_true, if_false, httpError_isError, true_and, forall_const]
    refine forall₅_congr fun j code message hj hs => ?_
    obtain ⟨fs, rfl⟩ := serverError_obj hs
    simp [httpError, hj, Fields, eq_comm]
  · simp only [hhigh, if_false, false_implies, iff_true, response, true_and]
    by_cases hempty : a.status = 204
    · simp [hempty]
    · simp only [hempty, ne_eq, not_false_eq_true, if_true, if_false]
      split_ifs
      intro j hj
      rw [hj]

lemma request_follows_iff (c : Call) (outcomes : ℕ → Outcome) :
    Follows (send c) true outcomes (request c outcomes) ↔
      (∀ k, k + 1 < (policy defaultRetries outcomes).1 → outcomes k = .sendError) ∧
        ErrorsCarried Fields outcomes := by
  obtain ⟨last, hrequest⟩ : ∃ last', attempts c defaultRetries none outcomes =
      (List.replicate (answered defaultRetries outcomes).1 (send c),
        ending last' (answered defaultRetries outcomes).2) := attempts_eq
  rw [request, hrequest, Follows, List.replicate_left_inj, answered_iff]
  apply and_congr_right
  intro hsame
  rcases answered_last (answered_iff.mpr hsame) with ⟨a, hpolicy, hanswered⟩ | ⟨hpolicy, hanswered⟩
  · simp [ErrorsCarried, hpolicy, hanswered, ending, conclude_decides]
  · have herror : (ending last (answered defaultRetries outcomes).2).IsError := by
      rcases ha : (answered defaultRetries outcomes).2 with _ | _ | a
      · trivial
      · trivial
      · have hhigh : 400 ≤ a.status := by
          have hretry := hanswered a ha
          simp only [retryable, decide_eq_true_eq] at hretry
          omega
        simp only [ending, conclude, hhigh, if_true, httpError_isError]
    simp [ErrorsCarried, hpolicy, Decides, herror]

end Python

lemma respondError_lost (status : ℕ) (code message : String) :
    serverError (Api.respondError status code message).body = some (ascii code, ascii message) ∧
      Go.decodeAPIError (Api.respondError status code message).body = some ([], []) := by
  constructor
  · simp [Api.respondError, Api.jsonObj, serverError, errorFields, Json.get, ascii]
  · have hcode : Json.named [(ascii "error", Json.obj [(ascii "code", .str (ascii code)),
        (ascii "message", .str (ascii message))])] (ascii "code") = [] := by
      simp [Json.named, Json.foldName, ascii]
    have hmessage : Json.named [(ascii "error", Json.obj [(ascii "code", .str (ascii code)),
        (ascii "message", .str (ascii message))])] (ascii "message") = [] := by
      simp [Json.named, Json.foldName, ascii]
    have hdetails : Json.named [(ascii "error", Json.obj [(ascii "code", .str (ascii code)),
        (ascii "message", .str (ascii message))])] (ascii "details") = [] := by
      simp [Json.named, Json.foldName, ascii]
    simp [Go.decodeAPIError, Api.respondError, Api.jsonObj, Json.fields, Json.stringField,
      Json.field, hcode, hmessage, hdetails]

/-- Both SDKs follow the policy for a call if and only if the first answer ends it or it has no body
for Go to lose, what is to be retried are errors of connecting and sending, the only ones that
Python tries again after, and an error has the code and the message where Go looks and those that
Python makes up. -/
theorem requests_follow_iff (c : Call) (wantsResult : Bool) (outcomes : ℕ → Outcome) :
    (Follows (c.send c.raw) wantsResult outcomes (Go.request c wantsResult outcomes) ∧
        Follows (Python.send c) true outcomes (Python.request c outcomes)) ↔
      ((c.body = none ∨ retryable (outcomes 0) = false) ∧ ErrorsCarried Go.Fields outcomes) ∧
        (∀ k, k + 1 < (policy defaultRetries outcomes).1 → outcomes k = .sendError) ∧
          ErrorsCarried Python.Fields outcomes :=
  and_congr (Go.request_follows_iff c wantsResult outcomes) (Python.request_follows_iff c outcomes)

def createTunnel : Call where
  method := ascii "POST"
  url := ascii "/v1/tunnels"
  body := some ⟨ascii "{}", by simp [ascii]⟩

def unavailable : Answer where
  status := 503
  reason := ascii "Service Unavailable"
  json := none
  status_range := by decide

def created : Answer where
  status := 201
  reason := ascii "Created"
  json := some (.obj [])
  status_range := by decide

def onceUnavailable : ℕ → Outcome
  | 0 => .answer unavailable
  | _ + 1 => .answer created

theorem requests_follow_fails : ¬ ∀ (c : Call) (wantsResult : Bool) (outcomes : ℕ → Outcome),
    Follows (c.send c.raw) wantsResult outcomes (Go.request c wantsResult outcomes) ∧
      Follows (Python.send c) true outcomes (Python.request c outcomes) := by
  intro h
  obtain ⟨⟨hgo, -⟩, ⟨hpython, -⟩⟩ := h createTunnel true onceUnavailable
  have hpolicy : (policy defaultRetries onceUnavailable).1 = 2 := rfl
  rw [hpolicy] at hpython
  have hlen : (Python.request createTunnel onceUnavailable).1.length = 1 := rfl
  rw [hpython] at hlen
  cases hlen

end OmniTun.Sdk
