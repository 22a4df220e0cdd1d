import OmniTun.Control.TunnelConnection

/-! What the agent writes to the local service, for every sequence of frames that it decodes. -/

namespace OmniTun.Control

open OmniTun.Foundation OmniTun.Foundation.Transport OmniTun.Protocol

namespace TunnelConnection

variable {κ σ : Type*} [Reader κ] [MessageConn σ]

def decoded : ℕ → TunnelConnection κ σ → List Frame
  | 0, _ => []
  | n + 1, tc =>
    match tc.readFrame with
    | (.error _, _) => []
    | (.ok frame, tc) => frame :: decoded n tc

end TunnelConnection

def isClose (f : Frame) : Bool :=
  f.type == frameTypeControl && f.controlSubType == controlTunnelClose

def stops (f : Frame) : Bool := isClose f || f.isEOF

def dataOf (f : Frame) : Bytes := if f.type = frameTypeData then f.payload else []

def applicationData (last : Bool) (fs : List Frame) : Bytes :=
  (fs.takeWhile fun f => !stops f).flatMap dataOf ++
    if last then ((fs.dropWhile fun f => !stops f).take 1).flatMap dataOf else []

def delivered : List Frame → Bytes
  | [] => []
  | f :: fs =>
    if f.type = frameTypeControl then
      if f.controlSubType = controlTunnelClose then [] else delivered fs
    else f.payload ++ if f.isEOF then [] else delivered fs

def Silent : List Frame → Prop
  | [] => True
  | f :: fs =>
    if f.type = frameTypeControl then f.controlSubType = controlTunnelClose ∨ Silent fs
    else f.payload = [] ∧ (f.isEOF = true ∨ Silent fs)

/-- Only DATA frames have a payload to be written, the last one with the EOF flag among them only
if `last` is set, and nothing is written after a control frame with that flag. -/
def Clean (last : Bool) : List Frame → Prop
  | [] => True
  | f :: fs =>
    if f.type = frameTypeControl then
      f.controlSubType = controlTunnelClose ∨ if f.isEOF then Silent fs else Clean last fs
    else if f.isEOF then f.payload = [] ∨ f.type = frameTypeData ∧ last = true
    else (f.payload = [] ∨ f.type = frameTypeData) ∧ Clean last fs

variable {last : Bool} {f : Frame} {fs : List Frame}

lemma applicationData_stop (h : stops f = true) :
    applicationData last (f :: fs) = if last then dataOf f else [] := by
  simp [applicationData, h]

lemma applicationData_cons (h : stops f = false) :
    applicationData last (f :: fs) = dataOf f ++ applicationData last fs := by
  simp [applicationData, h]

lemma dataOf_length_le (f : Frame) : (dataOf f).length ≤ f.payload.length := by
  rw [dataOf]
  split_ifs <;> simp

lemma dataOf_control (h : f.type = frameTypeControl) : dataOf f = [] := by
  rw [dataOf, h]
  rfl

lemma dataOf_eq_payload : dataOf f = f.payload ↔ f.payload = [] ∨ f.type = frameTypeData := by
  rw [dataOf]
  split_ifs with h
  · simp [h]
  · simp [h, eq_comm]

lemma delivered_eq_nil : delivered fs = [] ↔ Silent fs := by
  induction fs with
  | nil => simp [delivered, Silent]
  | cons f fs ih =>
    rw [delivered, Silent]
    split_ifs with hcontrol hclose heof
    · simp [hclose]
    · simp [hclose, ih]
    · simp [heof]
    · simp [heof, ih]

lemma applicationData_length_le (last : Bool) (fs : List Frame) :
    (applicationData last fs).length ≤ (delivered fs).length := by
  induction fs with
  | nil => simp [applicationData]
  | cons f fs ih =>
    have hdata := dataOf_length_le f
    rw [delivered]
    cases hstop : stops f with
    | true =>
      have hle : (applicationData last (f :: fs)).length ≤ (dataOf f).length := by
        rw [applicationData_stop hstop]
        split_ifs <;> simp
      split_ifs with hcontrol
      · rwa [dataOf_control hcontrol] at hle
      · rw [dataOf_control hcontrol, List.length_nil] at hle
        omega
      · rw [List.length_append]
        omega
      · rw [List.length_append]
        omega
    | false =>
      rw [applicationData_cons hstop, List.length_append]
      have hflags : isClose f = false ∧ f.isEOF = false := by simpa [stops] using hstop
      split_ifs with hcontrol hclose heof
      · simp [isClose, hcontrol, hclose] at hflags
      · rw [dataOf_control hcontrol, List.length_nil]
        omega
      · rw [hflags.2] at heof
        cases heof
      · rw [List.length_append]
        omega

lemma delivered_eq_applicationData :
    delivered fs = applicationData last fs ↔ Clean last fs := by
  induction fs with
  | nil => simp [delivered, applicationData, Clean]
  | cons f fs ih =>
    rw [delivered, Clean]
    by_cases hcontrol : f.type = frameTypeControl
    · rw [if_pos hcontrol, if_pos hcontrol]
      by_cases hclose : f.controlSubType = controlTunnelClose
      · have hstop : stops f = true := by simp [stops, isClose, hcontrol, hclose]
        rw [if_pos hclose, applicationData_stop hstop, dataOf_control hcontrol, ite_self]
        simp [hclose]
      · rw [if_neg hclose, or_iff_right hclose]
        cases heof : f.isEOF with
        | true =>
          have hstop : stops f = true := by simp [stops, heof]
          rw [applicationData_stop hstop, dataOf_control hcontrol, ite_self, if_pos rfl]
          exact delivered_eq_nil
        | false =>
          have hstop : stops f = false := by simp [stops, isClose, hclose, heof]
          rw [applicationData_cons hstop, dataOf_control hcontrol, List.nil_append]
          exact ih
    · rw [if_neg hcontrol, if_neg hcontrol]
      cases heof : f.isEOF with
      | true =>
        have hstop : stops f = true := by simp [stops, heof]
        rw [applicationData_stop hstop, if_pos rfl, List.append_nil, if_pos rfl]
        cases last with
        | true =>
          rw [if_pos rfl, eq_comm, dataOf_eq_payload]
          simp
        | false => simp
      | false =>
        have hstop : stops f = false := by simp [stops, isClose, hcontrol, heof]
        rw [applicationData_cons hstop, ← dataOf_eq_payload, ← ih]
        have hle := applicationData_length_le last fs
        have hdata := dataOf_length_le f
        simp only [Bool.false_eq_true, if_false]
        constructor
        · intro h
          have hlen := congrArg List.length h
          simp only [List.length_append] at hlen
          obtain ⟨hhead, htail⟩ := List.append_inj h (by omega)
          exact ⟨hhead.symm, htail⟩
        · rintro ⟨hhead, htail⟩
          rw [hhead, htail]

lemma write_payload (localConn payload : Bytes) :
    (if 0 < payload.length then write localConn payload else (none, localConn)) =
      (none, localConn ++ payload) := by
  split_ifs with h
  · rfl
  · rw [List.length_eq_zero_iff.mp (Nat.eq_zero_of_not_pos h), List.append_nil]

namespace TunnelConnection

variable {κ σ : Type*} [Reader κ] [MessageConn σ]

lemma forwardRemoteToLocal_delivered (n : ℕ) (tc : TunnelConnection κ σ) (localConn : Bytes) :
    (tc.forwardRemoteToLocal n localConn).2 = localConn ++ delivered (tc.decoded n) := by
  induction n generalizing tc localConn with
  | zero => simp [forwardRemoteToLocal, decoded, delivered]
  | succ n ih =>
    rw [forwardRemoteToLocal, decoded]
    rcases tc.readFrame with ⟨err | frame, tc'⟩
    · simp [delivered]
    · dsimp only
      rw [delivered, write_payload]
      dsimp only
      split_ifs with hcontrol hclose heof
      · simp
      · exact ih tc' localConn
      · simp
      · rw [ih, List.append_assoc]

/-- The local service gets exactly the application data if and only if the frames are clean, whether
or not what comes with the EOF flag is counted among it. -/
theorem local_delivery_iff (last : Bool) (n : ℕ) (tc : TunnelConnection κ σ) (localConn : Bytes) :
    (tc.forwardRemoteToLocal n localConn).2 =
        localConn ++ applicationData last (tc.decoded n) ↔
      Clean last (tc.decoded n) := by
  rw [forwardRemoteToLocal_delivered, ← delivered_eq_applicationData]
  exact List.append_right_inj localConn

end TunnelConnection

/-! An ERROR frame reaches the local service. -/

def refused : Frame := newErrorFrame errorStreamClosed (ascii "no")

def refusedAgent : TunnelConnection Bytes (List Frame) :=
  ⟨ascii "T", [], none, some [refused]⟩

theorem local_delivery_refused :
    refusedAgent.decoded 1 = [refused] ∧
    (refusedAgent.forwardRemoteToLocal 1 ([] : Bytes)).2 = refused.payload ∧
    ¬ (refusedAgent.forwardRemoteToLocal 1 ([] : Bytes)).2 =
      applicationData false (refusedAgent.decoded 1) ∧
    ¬ (refusedAgent.forwardRemoteToLocal 1 ([] : Bytes)).2 =
      applicationData true (refusedAgent.decoded 1) := by
  decide

end OmniTun.Control
