import OmniTun.DataPath.Responses
import OmniTun.Relay.ResponseStatus

/-! The status a client receives for an answer of its agent that is no response. -/

namespace OmniTun.DataPath

open OmniTun.Foundation OmniTun.Foundation.Transport
open OmniTun.Protocol OmniTun.Relay

/-- The final status of what is called on a writer: 200 where nothing is written, and none where a
code makes `WriteHeader` panic. -/
def receivedStatus : List WriterCall → Option ℤ
  | [] => some 200
  | .addHeaders _ :: calls => receivedStatus calls
  | .writeHeader code :: calls =>
    if code < 100 ∨ 999 < code then none
    else if code ≤ 199 ∧ code ≠ 101 then receivedStatus calls
    else some code
  | .write _ :: _ => some 200
  | .error _ code :: _ => some code

def ServerError (status : Option ℤ) : Prop := ∃ code, status = some code ∧ 500 ≤ code ∧ code ≤ 599

def Answers (codec : Codec) (f : Frame) : Prop :=
  f.type = frameTypeData ∧ ∃ payload calls, codec.framePayload f = some payload ∧
    deserializeHTTPResponse payload = .ok calls

def ServerStatusLine (payload : Bytes) : Prop :=
  ∃ line rest, readString payload = some (line, rest) ∧ 500 ≤ responseStatusCode line ∧
    responseStatusCode line ≤ 599

variable {codec : Codec} {payload : Bytes} {calls : List WriterCall} {f : Frame}

lemma parsed_calls (h : deserializeHTTPResponse payload = .ok calls) :
    ∃ line rest headers written, readString payload = some (line, rest) ∧
      (written = [] ∨ ∃ body, written = [.write body]) ∧
      calls = .addHeaders headers :: .writeHeader (responseStatusCode line) :: written := by
  rw [deserializeHTTPResponse] at h
  split at h
  · cases h
  next line rest hline =>
    split at h
    · cases h
    next headers body hheaders =>
      obtain rfl := Except.ok.inj h
      refine ⟨line, rest, headers, _, hline, ?_, rfl⟩
      split_ifs
      · exact .inr ⟨body, rfl⟩
      · exact .inl rfl

lemma serverError_some (code : ℤ) : ServerError (some code) ↔ 500 ≤ code ∧ code ≤ 599 := by
  simp [ServerError]

lemma parsed_serverError (h : deserializeHTTPResponse payload = .ok calls) :
    ServerError (receivedStatus calls) ↔ ServerStatusLine payload := by
  obtain ⟨line, rest, headers, written, hline, hwritten, rfl⟩ := parsed_calls h
  have hlast : receivedStatus written = some 200 := by
    rcases hwritten with rfl | ⟨body, rfl⟩
    · rfl
    · rfl
  have hstatus : ServerStatusLine payload ↔
      500 ≤ responseStatusCode line ∧ responseStatusCode line ≤ 599 := by
    simp [ServerStatusLine, hline]
  rw [hstatus, receivedStatus, receivedStatus]
  split_ifs with hrange hinfo
  · refine iff_of_false ?_ (by omega)
    rintro ⟨code, hcode, -⟩
    cases hcode
  · rw [hlast, serverError_some]
    omega
  · exact serverError_some _

lemma respond_serverError (f : Frame) :
    ServerError (receivedStatus (respond codec (.ok f))) ↔
      f.type = frameTypeError ∨ codec.framePayload f = none ∨
        ∃ payload, codec.framePayload f = some payload ∧ HasBlankLine payload ∧
          ServerStatusLine payload := by
  rw [respond]
  split_ifs with htype
  · have h502 : receivedStatus [badGateway] = some 502 := rfl
    rw [h502, serverError_some]
    simp [htype]
  cases hpayload : codec.framePayload f with
  | none =>
    have h500 : receivedStatus [internalServerError] = some 500 := rfl
    dsimp only
    rw [h500, serverError_some]
    simp
  | some payload =>
    dsimp only
    rw [deliver]
    cases hcalls : deserializeHTTPResponse payload with
    | error err =>
      have hblank : ¬ HasBlankLine payload := by
        rw [← deserializeHTTPResponse_iff, hcalls]
        simp
      have h200 : receivedStatus [] = some 200 := rfl
      dsimp only
      rw [h200, serverError_some]
      simp [htype, hblank]
    | ok calls =>
      have hblank : HasBlankLine payload := (deserializeHTTPResponse_iff payload).mp ⟨calls, hcalls⟩
      dsimp only
      rw [parsed_serverError hcalls]
      simp [htype, hblank]

lemma answers_iff : Answers codec f ↔ f.type = frameTypeData ∧
    ∃ payload, codec.framePayload f = some payload ∧ HasBlankLine payload := by
  simp only [Answers, ← deserializeHTTPResponse_iff, exists_and_left]

section Handler

variable {κ : Type*} [Reader κ] [Writer κ] {order : Table.RangeOrder Bytes}
  {sm sm' sm'' : StreamMultiplexer κ} {streamID : UInt64} {r : Request} {frame : Frame}

lemma handleHTTP_received (hframe : requestFrame codec order streamID r = .ok frame)
    (hforward : sm.forwardFrame streamID frame = (none, sm'))
    (hreceive : sm'.receive streamID = (.ok f, sm'')) :
    (handleHTTP codec order sm streamID r).1 = respond codec (.ok f) := by
  simp only [handleHTTP, hframe, hforward, hreceive]

/-- A frame that answers nothing is a server's error for the client if and only if it is an ERROR
frame, it does not decompress, or it has a header section and a status line that says so. -/
theorem broken_answer_iff (hframe : requestFrame codec order streamID r = .ok frame)
    (hforward : sm.forwardFrame streamID frame = (none, sm'))
    (hreceive : sm'.receive streamID = (.ok f, sm'')) :
    (¬ Answers codec f → ServerError (receivedStatus (handleHTTP codec order sm streamID r).1)) ↔
      f.type = frameTypeError ∨ codec.framePayload f = none ∨
        ∃ payload, codec.framePayload f = some payload ∧ HasBlankLine payload ∧
          (f.type = frameTypeData ∨ ServerStatusLine payload) := by
  rw [handleHTTP_received hframe hforward hreceive, respond_serverError, answers_iff]
  by_cases htype : f.type = frameTypeError
  · simp [htype]
  cases hpayload : codec.framePayload f with
  | none => simp
  | some payload =>
    by_cases hblank : HasBlankLine payload
    · simp [htype, hblank, imp_iff_not_or]
    · simp [htype, hblank]

end Handler

/-! Answers to the example request. -/

lemma receive_exampleSent {f : Frame} (hf : f.Wire) :
    (exampleSent f.wireBytes).receive 1 = (.ok f, (exampleSent f.wireBytes).withConn 1
      ⟨1, ascii "T", (exampleConn f.wireBytes).sent exampleFrame.wireBytes⟩
      (((exampleConn f.wireBytes).sent exampleFrame.wireBytes).withInbound [])) :=
  StreamMultiplexer.receive_wireBytes (StreamMultiplexer.lookup_withConn _ _ _ _) rfl hf
    (List.append_nil _).symm

def refusal : Frame := newErrorFrame errorUnknown (ascii "no")

theorem broken_answer_refusal :
    (¬ Answers Codec.framing refusal → ServerError (receivedStatus
      (handleHTTP Codec.framing exampleRequest.1 (exampleMux refusal.wireBytes) 1
        exampleRequest.2).1)) ↔
      refusal.type = frameTypeError ∨ Codec.framing.framePayload refusal = none ∨
        ∃ payload, Codec.framing.framePayload refusal = some payload ∧ HasBlankLine payload ∧
          (refusal.type = frameTypeData ∨ ServerStatusLine payload) :=
  broken_answer_iff requestFrame_exampleRequest (forwardFrame_exampleFrame _)
    (receive_exampleSent ⟨rfl, by decide⟩)

def serviceClosed : Frame := (newDataFrame 1 [] false).setEOF

theorem broken_answer_serviceClosed :
    ((exampleSent serviceClosed.wireBytes).receive 1).1 = .ok serviceClosed ∧
    ¬ (¬ Answers Codec.framing serviceClosed → ServerError (receivedStatus
      (handleHTTP Codec.framing exampleRequest.1 (exampleMux serviceClosed.wireBytes) 1
        exampleRequest.2).1)) := by
  have hreceive := receive_exampleSent (f := serviceClosed) ⟨rfl, by decide⟩
  have hcalls := handleHTTP_received requestFrame_exampleRequest
    (forwardFrame_exampleFrame serviceClosed.wireBytes) hreceive
  have hrespond : respond Codec.framing (.ok serviceClosed) = [] := rfl
  rw [hreceive, hcalls, hrespond]
  refine ⟨rfl, fun h => ?_⟩
  have hanswer : ¬ Answers Codec.framing serviceClosed := by
    rintro ⟨-, payload, calls, hpayload, hcalls⟩
    obtain rfl := Option.some.inj hpayload
    cases hcalls
  obtain ⟨code, hcode, hlow, -⟩ := h hanswer
  obtain rfl := Option.some.inj hcode
  omega

end OmniTun.DataPath
