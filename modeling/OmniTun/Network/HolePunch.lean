import OmniTun.Foundation.Endpoints
import OmniTun.Foundation.Processes
import OmniTun.Foundation.Progress

/-! Hole punching: the two goroutines of each `SimultaneousOpen`, and calls of several hosts at the
same time over a network that loses, repeats and reorders what they send. -/

namespace OmniTun.Network.HolePunch

open OmniTun.Foundation Numerals Endpoints Transition Processes

structure Packet where
  src : Bytes
  dst : Bytes
  payload : Bytes
  deriving DecidableEq

/-- A host that punches: the address its packets come from, and the remote one of the call. -/
structure Host where
  ip : Bytes
  raddr : Bytes
  remoteAddr : Bytes
  attempts : ℤ

def Host.limit (h : Host) : ℕ := if h.attempts < 1 then 10 else h.attempts.toNat

inductive PunchError
  | resolveLocal (err : Bytes)
  | listen (err : Bytes)
  | resolveRemote (err : Bytes)
  | timeout (remoteAddr : Bytes)
  | failed (attempts : ℕ)
  deriving DecidableEq

def PunchError.error : PunchError → Bytes
  | .resolveLocal err => ascii "resolve local addr: " ++ err
  | .listen err => ascii "listen udp: " ++ err
  | .resolveRemote err => ascii "resolve remote addr: " ++ err
  | .timeout remoteAddr =>
    ascii "hole punch timeout: no packet received from " ++ remoteAddr
  | .failed n => ascii "hole punch failed after " ++ natNumeral n ++ ascii " attempts"

inductive Reader
  | reading (i : ℕ)
  | matched
  | exhausted
  | returned
  deriving DecidableEq

inductive Main
  | selecting (i : ℕ)
  | writing (i : ℕ)
  | closing (e : PunchError)
  | returned (res : Except PunchError Unit)

/-- `fired` is the state of `once`, `received` tells that `receivedCh` is closed, and `errCh` that
there is an error in the channel's one place. -/
structure Call where
  reader : Reader
  main : Main
  fired : Bool
  received : Bool
  errCh : Bool
  opened : Bool

structure Setup where
  resolveLocal : Option Bytes
  listen : Option Bytes
  resolveRemote : Option Bytes

def idle (main : Main) (opened : Bool) : Call := ⟨.returned, main, false, false, false, opened⟩

def simultaneousOpen (s : Setup) : Call :=
  match s.resolveLocal, s.listen, s.resolveRemote with
  | some err, _, _ => idle (.returned (.error (.resolveLocal err))) false
  | none, some err, _ => idle (.returned (.error (.listen err))) false
  | none, none, some err => idle (.closing (.resolveRemote err)) true
  | none, none, none => ⟨.reading 0, .selecting 0, false, false, false, true⟩

/-- What takes part: a call, or anybody else who sends packets. -/
inductive Local
  | punching (c : Call)
  | stranger

/-- A read ends with a packet of the network or with an error, a deadline's or another; `select`
takes one of the cases that are ready; a write may fail. -/
inductive Action
  | read (packet : Option ℕ)
  | signal
  | received
  | failed
  | timer
  | write (sent : Bool)
  | close
  | send (p : Packet)

def punchPacket : Bytes := ascii "OMNITUN_PUNCH"

namespace Call

variable (h : Host) (c : Call)

def again (i : ℕ) : Call :=
  { c with reader := if i + 1 < h.limit then .reading (i + 1) else .exhausted }

def afterWrite (i : ℕ) : Main :=
  if i + 1 < h.limit then .selecting (i + 1) else .closing (.failed h.limit)

def onRead (i : ℕ) (p : Packet) : Call :=
  if ipEqual p.src h.raddr ∧ 0 < p.payload.length then { c with reader := .matched }
  else c.again h i

def next (a : Action) (wire : List Packet) : Option (Call × List Packet) :=
  match a, c.reader, c.main with
  | .read none, .reading i, _ => some (c.again h i, wire)
  | .read (some k), .reading i, _ =>
    if c.opened then
      match wire[k]? with
      | some p => if p.dst = h.ip then some (c.onRead h i p, wire) else none
      | none => none
    else none
  | .signal, .matched, _ =>
    some ({ c with reader := .returned, fired := true, received := c.received || !c.fired }, wire)
  | .signal, .exhausted, _ =>
    if c.fired then some ({ c with reader := .returned }, wire)
    -- a full channel blocks
    else if c.errCh then none
    else some ({ c with reader := .returned, fired := true, errCh := true }, wire)
  | .received, _, .selecting _ =>
    if c.received then some ({ c with main := .returned (.ok ()) }, wire) else none
  | .failed, _, .selecting _ =>
    if c.errCh then
      some ({ c with errCh := false, main := .closing (.timeout h.remoteAddr) }, wire)
    else none
  | .timer, _, .selecting i => some ({ c with main := .writing i }, wire)
  | .write sent, _, .writing i =>
    some ({ c with main := afterWrite h i },
      if sent then wire ++ [⟨h.ip, h.raddr, punchPacket⟩] else wire)
  | .close, _, .closing e => some ({ c with opened := false, main := .returned (.error e) }, wire)
  | _, _, _ => none

end Call

variable {ι : Type*} [DecidableEq ι] (host : ι → Host)

def next (i : ι) (a : Action) (l : Local) (wire : List Packet) : Option (Local × List Packet) :=
  match l with
  | .punching c => (c.next (host i) a wire).map fun r => (.punching r.1, r.2)
  | .stranger =>
    match a with
    | .send p => some (.stranger, wire ++ [p])
    | _ => none

def step : World ι Local (List Packet) → ι × Action → Option (World ι Local (List Packet)) :=
  Processes.step (next host)

def start (setup : ι → Option Setup) : World ι Local (List Packet) :=
  ⟨fun i => ((setup i).map fun s => Local.punching (simultaneousOpen s)).getD .stranger, []⟩

/-! What an action does to a call. -/

def Counts (h : Host) (p : Packet) : Prop :=
  p.dst = h.ip ∧ ipEqual p.src h.raddr = true ∧ p.payload ≠ []

def punch (h : Host) : Packet := ⟨h.ip, h.raddr, punchPacket⟩

inductive Effect (h : Host) (c : Call) (wire : List Packet) : Call → List Packet → Prop
  | again (i : ℕ) (hr : c.reader = .reading i) : Effect h c wire (c.again h i) wire
  | matched (i : ℕ) (hr : c.reader = .reading i) (p : Packet) (hp : p ∈ wire) (hc : Counts h p) :
    Effect h c wire { c with reader := .matched } wire
  | arrived (hr : c.reader = .matched) :
    Effect h c wire
      { c with reader := .returned, fired := true, received := c.received || !c.fired } wire
  | late (hr : c.reader = .exhausted) (hf : c.fired = true) :
    Effect h c wire { c with reader := .returned } wire
  | gaveUp (hr : c.reader = .exhausted) (hf : c.fired = false) (he : c.errCh = false) :
    Effect h c wire { c with reader := .returned, fired := true, errCh := true } wire
  | connected (i : ℕ) (hm : c.main = .selecting i) (hrec : c.received = true) :
    Effect h c wire { c with main := .returned (.ok ()) } wire
  | timedOut (i : ℕ) (hm : c.main = .selecting i) (he : c.errCh = true) :
    Effect h c wire { c with errCh := false, main := .closing (.timeout h.remoteAddr) } wire
  | ticked (i : ℕ) (hm : c.main = .selecting i) :
    Effect h c wire { c with main := .writing i } wire
  | wrote (i : ℕ) (hm : c.main = .writing i) (sent : Bool) :
    Effect h c wire { c with main := Call.afterWrite h i }
      (if sent then wire ++ [punch h] else wire)
  | closed (e : PunchError) (hm : c.main = .closing e) :
    Effect h c wire { c with opened := false, main := .returned (.error e) } wire

variable {h : Host} {c c' : Call} {wire wire' : List Packet}

lemma onRead_effect {i : ℕ} {p : Packet} (hr : c.reader = .reading i) (hp : p ∈ wire)
    (hd : p.dst = h.ip) : Effect h c wire (c.onRead h i p) wire := by
  unfold Call.onRead
  split_ifs with hcond
  · apply Effect.matched i hr p hp
    exact ⟨hd, hcond.1, List.ne_nil_of_length_pos hcond.2⟩
  · exact .again i hr

lemma Call.next_effect {a : Action} (hn : c.next h a wire = some (c', wire')) :
    Effect h c wire c' wire' := by
  unfold Call.next at hn
  split at hn
  next i hr =>
    cases hn
    exact .again i hr
  next k i hr =>
    split_ifs at hn
    split at hn
    next p hp =>
      split_ifs at hn with hd
      cases hn
      exact onRead_effect hr (List.mem_of_getElem? hp) hd
    next => cases hn
  next hr =>
    cases hn
    exact .arrived hr
  next hr =>
    split_ifs at hn with hf he
    · cases hn
      exact .late hr hf
    · cases hn
      apply Effect.gaveUp hr
      · simpa using hf
      · simpa using he
  next i hm =>
    split_ifs at hn with hrec
    cases hn
    exact .connected i hm hrec
  next i hm =>
    split_ifs at hn with he
    cases hn
    exact .timedOut i hm he
  next i hm =>
    cases hn
    exact .ticked i hm
  next sent i hm =>
    cases hn
    exact .wrote i hm sent
  next e hm =>
    cases hn
    exact .closed e hm
  next => cases hn

/-! One call among everything else that is sent. -/

structure Sound (h : Host) (c : Call) (wire : List Packet) : Prop where
  counted : c.reader = .matched ∨ c.received = true → ∃ p ∈ wire, Counts h p
  fired : c.fired = false → c.received = false ∧ c.errCh = false
  stopped : c.fired = true → c.reader = .returned
  timedOut : c.errCh = true ∨ c.main = .closing (.timeout h.remoteAddr) ∨
    c.main = .returned (.error (.timeout h.remoteAddr)) → c.fired = true ∧ c.received = false
  connected : c.main = .returned (.ok ()) → c.received = true
  opened : c.opened = true ↔ ∀ e, c.main ≠ .returned (.error e)

lemma Sound.mono (hs : Sound h c wire) {more : List Packet} : Sound h c (wire ++ more) where
  counted hm := by
    obtain ⟨p, hp, hc⟩ := hs.counted hm
    exact ⟨p, List.mem_append_left more hp, hc⟩
  fired := hs.fired
  stopped := hs.stopped
  timedOut := hs.timedOut
  connected := hs.connected
  opened := hs.opened

lemma Sound.unfired (hs : Sound h c wire) (hr : c.reader ≠ .returned) : c.fired = false := by
  cases hf : c.fired with
  | false => rfl
  | true => exact absurd (hs.stopped hf) hr

lemma simultaneousOpen_sound (s : Setup) : Sound h (simultaneousOpen s) wire := by
  unfold simultaneousOpen
  split <;> constructor <;> simp [idle]

lemma Sound.step (hs : Sound h c wire) (he : Effect h c wire c' wire') : Sound h c' wire' := by
  cases he with
  | again i hr =>
    have hfired := hs.unfired (by simp [hr])
    constructor
    · intro hm
      apply hs.counted
      refine hm.imp_left fun hm => ?_
      simp only [Call.again] at hm
      split_ifs at hm
    · exact hs.fired
    · intro hf
      simp [Call.again, hfired] at hf
    · exact hs.timedOut
    · exact hs.connected
    · exact hs.opened
  | matched i hr p hp hc =>
    have hfired := hs.unfired (by simp [hr])
    exact ⟨fun _ => ⟨p, hp, hc⟩, hs.fired, fun hf => by simp [hfired] at hf, hs.timedOut,
      hs.connected, hs.opened⟩
  | arrived hr =>
    have hfired := hs.unfired (by simp [hr])
    refine ⟨fun _ => hs.counted (.inl hr), fun hf => ?_, fun _ => rfl, fun ht => ?_, fun hm => ?_,
      hs.opened⟩
    · simp at hf
    · have h' := (hs.timedOut ht).1
      simp [hfired] at h'
    · simp [hs.connected hm]
  | late hr hf =>
    simp [hs.stopped hf] at hr
  | gaveUp hr hf he =>
    have hrec := (hs.fired hf).1
    refine ⟨fun hm => ?_, fun hf => ?_, fun _ => rfl, fun _ => ⟨rfl, hrec⟩, hs.connected, hs.opened⟩
    · simp [hrec] at hm
    · simp at hf
  | connected i hm hrec =>
    refine ⟨hs.counted, hs.fired, hs.stopped, fun ht => ?_, fun _ => hrec, ?_⟩
    · exact hs.timedOut (ht.imp_right fun ht => by simp at ht)
    · have hopened : c.opened = true := hs.opened.mpr (by simp [hm])
      simp [hopened]
  | timedOut i hm he =>
    have hfired := hs.timedOut (.inl he)
    refine ⟨hs.counted, fun hf => ?_, hs.stopped, fun _ => hfired, fun h' => ?_, ?_⟩
    · simp [hfired.1] at hf
    · cases h'
    · have hopened : c.opened = true := hs.opened.mpr (by simp [hm])
      simp [hopened]
  | ticked i hm =>
    refine ⟨hs.counted, hs.fired, hs.stopped, fun ht => ?_, fun h' => ?_, ?_⟩
    · exact hs.timedOut (ht.imp_right fun ht => by simp at ht)
    · cases h'
    · have hopened : c.opened = true := hs.opened.mpr (by simp [hm])
      simp [hopened]
  | wrote i hm sent =>
    have hopened : c.opened = true := hs.opened.mpr (by simp [hm])
    have hmain : Sound h { c with main := Call.afterWrite h i } wire := by
      refine ⟨hs.counted, hs.fired, hs.stopped, fun ht => ?_, fun h' => ?_, ?_⟩
      · apply hs.timedOut
        refine ht.imp_right fun ht => ?_
        simp only [Call.afterWrite] at ht
        split_ifs at ht <;> simp at ht
      · simp only [Call.afterWrite] at h'
        split_ifs at h'
      · simp only [hopened, true_iff, Call.afterWrite]
        split_ifs <;> simp
    cases sent with
    | false => exact hmain
    | true => exact hmain.mono
  | closed e hm =>
    refine ⟨hs.counted, hs.fired, hs.stopped, fun ht => ?_, fun h' => ?_, ?_⟩
    · apply hs.timedOut
      simpa [hm] using ht
    · cases h'
    · simp

/-! How much a call has still to do. -/

def Reader.work (limit : ℕ) : Reader → ℕ
  | .reading i => limit - i + 1
  | .matched => 1
  | .exhausted => 1
  | .returned => 0

def Main.work (limit : ℕ) : Main → ℕ
  | .selecting i => 2 * (limit - i) + 2
  | .writing i => 2 * (limit - i) + 1
  | .closing _ => 1
  | .returned _ => 0

def Local.work (limit : ℕ) : Local → ℕ
  | .punching c => c.reader.work limit + c.main.work limit
  | .stranger => 0

def Call.Ended (c : Call) : Prop := c.reader = .returned ∧ ∃ res, c.main = .returned res

def Call.InLoop (h : Host) (c : Call) : Prop :=
  (∀ i, c.reader = .reading i → i < h.limit) ∧
    ∀ i, c.main = .selecting i ∨ c.main = .writing i → i < h.limit

lemma limit_pos (h : Host) : 0 < h.limit := by
  unfold Host.limit
  split_ifs <;> omega

lemma simultaneousOpen_inLoop (s : Setup) : (simultaneousOpen s).InLoop h := by
  have hpos := limit_pos h
  unfold simultaneousOpen
  split <;> simp [Call.InLoop, idle, hpos]

lemma Call.InLoop.step (hl : c.InLoop h) (he : Effect h c wire c' wire') : c'.InLoop h := by
  obtain ⟨hreader, hmain⟩ := hl
  cases he with
  | again i hr =>
    refine ⟨fun j hj => ?_, hmain⟩
    simp only [Call.again] at hj
    split_ifs at hj with hlt
    obtain rfl := Reader.reading.inj hj
    exact hlt
  | matched i hr p hp hc => exact ⟨by simp, hmain⟩
  | arrived hr => exact ⟨by simp, hmain⟩
  | late hr hf => exact ⟨by simp, hmain⟩
  | gaveUp hr hf he => exact ⟨by simp, hmain⟩
  | connected i hm hrec => exact ⟨hreader, by simp⟩
  | timedOut i hm he => exact ⟨hreader, by simp⟩
  | ticked i hm =>
    refine ⟨hreader, fun j hj => ?_⟩
    have hi := hmain i (.inl hm)
    simp only [reduceCtorEq, Main.writing.injEq, false_or] at hj
    omega
  | wrote i hm sent =>
    refine ⟨hreader, fun j hj => ?_⟩
    simp only [Call.afterWrite] at hj
    split_ifs at hj with hlt
    · simp only [Main.selecting.injEq, or_false] at hj
      omega
    · simp at hj
  | closed e hm => exact ⟨hreader, by simp⟩

lemma Effect.work_lt (hl : c.InLoop h) (he : Effect h c wire c' wire') :
    (Local.punching c').work h.limit < (Local.punching c).work h.limit := by
  obtain ⟨hreader, hmain⟩ := hl
  cases he with
  | again i hr =>
    have hi := hreader i hr
    simp only [Local.work, Call.again, hr]
    split_ifs <;> simp only [Reader.work] <;> omega
  | matched i hr p hp hc =>
    have hi := hreader i hr
    simp only [Local.work, hr, Reader.work]
    omega
  | arrived hr => simp [Local.work, hr, Reader.work]
  | late hr hf => simp [Local.work, hr, Reader.work]
  | gaveUp hr hf he => simp [Local.work, hr, Reader.work]
  | connected i hm hrec => simp [Local.work, hm, Main.work]
  | timedOut i hm he => simp [Local.work, hm, Main.work]
  | ticked i hm => simp [Local.work, hm, Main.work]
  | wrote i hm sent =>
    have hi := hmain i (.inr hm)
    simp only [Local.work, hm, Call.afterWrite]
    split_ifs <;> simp only [Main.work] <;> omega
  | closed e hm => simp [Local.work, hm, Main.work]

lemma exists_next (hs : Sound h c wire) (hl : ¬ c.Ended) :
    ∃ a, (c.next h a wire).isSome = true := by
  cases hr : c.reader with
  | reading i => exact ⟨.read none, by simp [Call.next, hr]⟩
  | matched => exact ⟨.signal, by simp [Call.next, hr]⟩
  | exhausted =>
    have hfired := hs.unfired (by simp [hr])
    have hempty := (hs.fired hfired).2
    exact ⟨.signal, by simp [Call.next, hr, hfired, hempty]⟩
  | returned =>
    cases hm : c.main with
    | selecting i => exact ⟨.timer, by simp [Call.next, hm]⟩
    | writing i => exact ⟨.write true, by simp [Call.next, hm]⟩
    | closing e => exact ⟨.close, by simp [Call.next, hm]⟩
    | returned res => exact absurd ⟨hr, res, hm⟩ hl

lemma next_ended (hl : c.Ended) (a : Action) : c.next h a wire = none := by
  cases hn : c.next h a wire with
  | none => rfl
  | some r =>
    obtain ⟨c', wire'⟩ := r
    obtain ⟨hr, res, hm⟩ := hl
    cases Call.next_effect hn <;> simp_all

/-! Runs. -/

variable {host : ι → Host} {w w' : World ι Local (List Packet)} {setup : ι → Option Setup}

lemma step_cases {a : ι × Action} (hs : step host w a = some w') :
    (∃ c c', w.locals a.1 = .punching c ∧ Effect (host a.1) c w.store c' w'.store ∧
      w'.locals = Function.update w.locals a.1 (.punching c')) ∨
    ∃ p, a.2 = .send p ∧ w.locals a.1 = .stranger ∧ w'.locals = w.locals ∧
      w'.store = w.store ++ [p] := by
  obtain ⟨l, wire, hn, rfl⟩ := step_eq_some hs
  cases hl : w.locals a.1 with
  | punching c =>
    simp only [hl, next, Option.map_eq_some_iff, Prod.exists, Prod.mk.injEq] at hn
    obtain ⟨c', wire', hn, rfl, rfl⟩ := hn
    exact .inl ⟨c, c', rfl, Call.next_effect hn, rfl⟩
  | stranger =>
    simp only [hl, next] at hn
    split at hn
    next p hp =>
      cases hn
      refine .inr ⟨p, hp, rfl, ?_, rfl⟩
      simp [← hl]
    next => cases hn

def Invariant (host : ι → Host) (w : World ι Local (List Packet)) : Prop :=
  ∀ i c, w.locals i = .punching c → Sound (host i) c w.store ∧ c.InLoop (host i)

lemma Effect.wire_extends (he : Effect h c wire c' wire') : ∃ more, wire' = wire ++ more := by
  cases he with
  | wrote i hm sent =>
    cases sent with
    | false => exact ⟨[], by simp⟩
    | true => exact ⟨[punch h], rfl⟩
  | _ => exact ⟨[], by simp⟩

omit [DecidableEq ι] in
lemma start_invariant : Invariant host (start setup) := by
  intro i c hc
  cases hs : setup i with
  | none => simp [start, hs] at hc
  | some s =>
    simp only [start, hs, Option.map_some, Option.getD_some, Local.punching.injEq] at hc
    subst hc
    exact ⟨simultaneousOpen_sound s, simultaneousOpen_inLoop s⟩

lemma invariant_step (w : World ι Local (List Packet)) (a : ι × Action)
    (w' : World ι Local (List Packet)) (hw : Invariant host w) (hs : step host w a = some w') :
    Invariant host w' := by
  intro j d hd
  rcases step_cases hs with ⟨c, c', hc, he, hl⟩ | ⟨p, -, -, hl, hstore⟩
  · rw [hl] at hd
    rcases update_cases (fun m => m = Local.punching d) hd with ⟨rfl, hd'⟩ | ⟨-, hd⟩
    · obtain rfl := Local.punching.inj hd'
      obtain ⟨hsound, hloop⟩ := hw a.1 c hc
      exact ⟨hsound.step he, hloop.step he⟩
    · obtain ⟨more, hmore⟩ := he.wire_extends
      obtain ⟨hsound, hloop⟩ := hw j d hd
      exact ⟨hmore ▸ hsound.mono, hloop⟩
  · rw [hl] at hd
    obtain ⟨hsound, hloop⟩ := hw j d hd
    exact ⟨hstore ▸ hsound.mono, hloop⟩

lemma run_invariant_of_start {as : List (ι × Action)}
    (hr : run (step host) (start setup) as = some w) : Invariant host w :=
  run_invariant start_invariant hr invariant_step

lemma stranger_step (i : ι) (w : World ι Local (List Packet)) (a : ι × Action)
    (w' : World ι Local (List Packet)) (hw : w.locals i = .stranger)
    (hs : step host w a = some w') : w'.locals i = .stranger := by
  rcases step_cases hs with ⟨c, c', hc, -, hl⟩ | ⟨p, -, -, hl, -⟩
  · have hi : i ≠ a.1 := by
      rintro rfl
      simp [hc] at hw
    simpa [hl, hi] using hw
  · rw [hl]
    exact hw

lemma work_step (i : ι) (w : World ι Local (List Packet)) (a : ι × Action)
    (w' : World ι Local (List Packet)) (hw : Invariant host w ∧ ∃ c, w.locals i = .punching c)
    (hs : step host w a = some w') :
    (Invariant host w' ∧ ∃ c, w'.locals i = .punching c) ∧
      (w'.locals i).work (host i).limit + (if decide (a.1 = i) = true then 1 else 0) ≤
        (w.locals i).work (host i).limit := by
  obtain ⟨hinv, d, hd⟩ := hw
  have hinv' := invariant_step w a w' hinv hs
  rcases step_cases hs with ⟨c, c', hc, he, hl⟩ | ⟨p, -, hp, hl, -⟩
  · by_cases hi : a.1 = i
    · subst hi
      have hlt := he.work_lt (hinv a.1 c hc).2
      have hc' : w'.locals a.1 = .punching c' := by simp [hl]
      refine ⟨⟨hinv', c', hc'⟩, ?_⟩
      simp only [hc, hc', decide_true, if_true]
      omega
    · have hsame : w'.locals i = w.locals i := by simp [hl, Ne.symm hi]
      exact ⟨⟨hinv', d, hsame.trans hd⟩, by simp [hsame, hi]⟩
  · have hi : a.1 ≠ i := by
      rintro rfl
      simp [hd] at hp
    exact ⟨⟨hinv', d, by rw [hl, hd]⟩, by simp [hl, hi]⟩

lemma simultaneousOpen_work (s : Setup) :
    (Local.punching (simultaneousOpen s)).work h.limit ≤ 3 * h.limit + 3 := by
  unfold simultaneousOpen
  split <;> simp only [Local.work, idle, Reader.work, Main.work] <;> omega

lemma countP_le {as : List (ι × Action)} {i : ι} (hr : run (step host) (start setup) as = some w)
    (hc : w.locals i = .punching c) : as.countP (·.1 = i) ≤ 3 * (host i).limit + 3 := by
  have hstart : ∃ s, setup i = some s := by
    apply Option.ne_none_iff_exists'.mp
    intro hnone
    have hstranger := run_invariant (P := fun w => w.locals i = Local.stranger)
      (by simp [start, hnone]) hr (stranger_step i)
    simp [hc] at hstranger
  obtain ⟨s, hs⟩ := hstart
  have hi : (start setup).locals i = .punching (simultaneousOpen s) := by simp [start, hs]
  have hcount := countP_add_le (P := fun w => Invariant host w ∧ ∃ c, w.locals i = .punching c)
    (p := fun a => decide (a.1 = i)) (q := fun _ => false) (n := 0) ⟨start_invariant, _, hi⟩ hr
    fun w a w' hw hs => by simpa using work_step i w a w' hw hs
  have hwork := simultaneousOpen_work (h := host i) s
  rw [hi] at hcount
  omega

structure Outcome (h : Host) (c : Call) (wire : List Packet) : Prop where
  connected : c.main = .returned (.ok ()) →
    c.opened = true ∧ c.reader = .returned ∧ ∃ p ∈ wire, Counts h p
  failed : ∀ e, c.main = .returned (.error e) → c.opened = false
  timedOut : c.main = .returned (.error (.timeout h.remoteAddr)) →
    c.reader = .returned ∧ c.received = false

variable (host setup) in
/-- Whatever else is sent and however the steps of all calls mix, a call returns a connection only
open, after a packet from the remote address and with nobody left who reads from it, and it leaves
none open when it fails; it takes at most so many steps, and until both of its goroutines have
ended one of them can take a step. -/
theorem punch_sound (as : List (ι × Action)) (hr : run (step host) (start setup) as = some w)
    (i : ι) (c : Call) (hc : w.locals i = .punching c) :
    Outcome (host i) c w.store ∧ as.countP (·.1 = i) ≤ 3 * (host i).limit + 3 ∧
      ((∃ a, (step host w (i, a)).isSome = true) ↔ ¬ c.Ended) := by
  have hinv := run_invariant_of_start hr
  obtain ⟨hs, hl⟩ := hinv i c hc
  refine ⟨⟨fun hm => ?_, fun e hm => ?_, fun hm => ?_⟩, ?_, ?_⟩
  · have hrec := hs.connected hm
    have hfired : c.fired = true := by
      by_contra hf
      have h' := (hs.fired (by simpa using hf)).1
      simp [hrec] at h'
    exact ⟨hs.opened.mpr (by simp [hm]), hs.stopped hfired, hs.counted (.inr hrec)⟩
  · cases hopened : c.opened with
    | false => rfl
    | true => exact absurd hm (hs.opened.mp hopened e)
  · obtain ⟨hfired, hrec⟩ := hs.timedOut (.inr (.inr hm))
    exact ⟨hs.stopped hfired, hrec⟩
  · exact countP_le hr hc
  · constructor
    · rintro ⟨a, ha⟩ hended
      simp [step, Processes.step, hc, next, next_ended hended] at ha
    · intro hended
      obtain ⟨a, ha⟩ := exists_next hs hended
      refine ⟨a, ?_⟩
      simpa [step, Processes.step, hc, next] using ha

def pair (b : Bool) : Host :=
  if b then ⟨[192, 0, 2, 2], [192, 0, 2, 1], ascii "192.0.2.1:7000", 10⟩
  else ⟨[192, 0, 2, 1], [192, 0, 2, 2], ascii "192.0.2.2:7000", 1⟩

def bothOpen (_ : Bool) : Option Setup := some ⟨none, none, none⟩

def oneTry : List (Bool × Action) := [(false, .timer), (false, .write true), (false, .close)]

def oneAnswer : List (Bool × Action) :=
  [(true, .read (some 0)), (true, .signal), (true, .received)]

theorem punch_sound_pair :
    ∃ w c, run (step pair) (start bothOpen) (oneTry ++ oneAnswer) = some w ∧
      w.locals true = .punching c ∧ c.main = .returned (.ok ()) ∧
      Outcome (pair true) c w.store := by
  refine ⟨_, _, rfl, rfl, rfl, ?_⟩
  exact (punch_sound pair bothOpen (oneTry ++ oneAnswer) rfl true _ rfl).1

/-! Two calls that punch for each other. -/

/-- Nobody else sends what looks like the remote address of the host. -/
def Unforged (h : Host) (as : List (ι × Action)) : Prop :=
  ∀ x ∈ as, ∀ p, x.2 = .send p → ipEqual p.src h.raddr = false

def Traced (host : ι → Host) (old : List Packet) (other : ι → Prop) (h : Host)
    (w : World ι Local (List Packet)) : Prop :=
  ∀ p ∈ w.store, p ∈ old ∨ (∃ k, other k ∧ p = punch (host k)) ∨ ipEqual p.src h.raddr = false

lemma traced_step {old : List Packet} {other : ι → Prop} {as : List (ι × Action)} {a : ι × Action}
    (hf : Unforged h as) (ha : a ∈ as) (hw : Traced host old other h w)
    (hother : ∀ c i, w.locals a.1 = .punching c → c.main = .writing i → other a.1)
    (hs : step host w a = some w') : Traced host old other h w' := by
  rcases step_cases hs with ⟨c, c', hc, he, -⟩ | ⟨p, hp, -, -, hstore⟩
  · intro q hq
    generalize w'.store = wire at he hq
    cases he with
    | wrote i hm sent =>
      cases sent with
      | false => exact hw q hq
      | true =>
        rcases List.mem_append.mp hq with hq | hq
        · exact hw q hq
        · exact .inr (.inl ⟨a.1, hother c i hc hm, List.mem_singleton.mp hq⟩)
    | _ => exact hw q hq
  · intro q hq
    rw [hstore] at hq
    rcases List.mem_append.mp hq with hq | hq
    · exact hw q hq
    · obtain rfl := List.mem_singleton.mp hq
      exact .inr (.inr (hf a ha q hp))

def Ending (res : Except PunchError Unit) (l : Local) : Prop :=
  ∃ c, l = .punching c ∧ c.main = .returned res

lemma ending_step {i : ι} {res : Except PunchError Unit} {a : ι × Action}
    (hw : Ending res (w.locals i)) (hs : step host w a = some w') :
    Ending res (w'.locals i) := by
  obtain ⟨d, hd, hm⟩ := hw
  rcases step_cases hs with ⟨c, c', hc, he, hl⟩ | ⟨p, -, -, hl, -⟩
  · by_cases hi : a.1 = i
    · subst hi
      obtain rfl := Local.punching.inj (hd.symm.trans hc)
      refine ⟨c', by simp [hl], ?_⟩
      generalize w'.store = wire at he
      cases he <;> simp_all [Call.again]
    · exact ⟨d, by simp [hl, Ne.symm hi, hd], hm⟩
  · exact ⟨d, by rw [hl, hd], hm⟩

variable (host setup) in
/-- A call that ends before it has sent a punch leaves the other one without a connection, also
where its own end is a connection: if the other one ever connects, the punch had been sent. -/
theorem punched_before_ending (a b : ι) (as bs : List (ι × Action))
    (haim : ∀ k, ipEqual (host k).ip (host b).raddr = true → k = a)
    (hf : Unforged (host b) (as ++ bs)) (hr : run (step host) (start setup) as = some w)
    (res : Except PunchError Unit) (ha : Ending res (w.locals a))
    (hr' : run (step host) w bs = some w') (hb : Ending (.ok ()) (w'.locals b)) :
    punch (host a) ∈ w.store ∧ (host a).raddr = (host b).ip := by
  have hfirst : Traced host [] (fun _ => True) (host b) w := by
    apply run_invariant_of_mem (P := Traced host [] (fun _ => True) (host b)) _ hr
    · intro u x v hx hu hs
      exact traced_step hf (List.mem_append_left bs hx) hu (fun _ _ _ _ => trivial) hs
    · intro p hp
      simp [start] at hp
  have hsecond : Ending res (w'.locals a) ∧ Traced host w.store (· ≠ a) (host b) w' := by
    apply run_invariant_of_mem
      (P := fun u => Ending res (u.locals a) ∧ Traced host w.store (· ≠ a) (host b) u) _ hr'
    · intro u x v hx hu hs
      refine ⟨ending_step hu.1 hs, traced_step hf (List.mem_append_right as hx) hu.2 ?_ hs⟩
      rintro c i hc hm rfl
      obtain ⟨d, hd, hd'⟩ := hu.1
      obtain rfl := Local.punching.inj (hd.symm.trans hc)
      rw [hm] at hd'
      cases hd'
    · exact ⟨ha, fun p hp => .inl hp⟩
  obtain ⟨c, hc, hm⟩ := hb
  have hrun : run (step host) (start setup) (as ++ bs) = some w' := by
    rw [run_append, hr]
    exact hr'
  obtain ⟨hs, -⟩ := run_invariant_of_start hrun b c hc
  obtain ⟨p, hp, hdst, hsrc, -⟩ := hs.counted (.inr (hs.connected hm))
  rcases hsecond.2 p hp with hp | ⟨k, hk, rfl⟩ | hno
  · rcases hfirst p hp with hp' | ⟨k, -, rfl⟩ | hno
    · cases hp'
    · obtain rfl := haim k hsrc
      exact ⟨hp, hdst⟩
    · rw [hsrc] at hno
      cases hno
  · exact absurd (haim k hsrc) hk
  · rw [hsrc] at hno
    cases hno

theorem punched_before_ending_pair :
    ∃ w w', run (step pair) (start bothOpen) oneTry = some w ∧
      run (step pair) w oneAnswer = some w' ∧
      Ending (.error (.failed 1)) (w.locals false) ∧ Ending (.ok ()) (w'.locals true) ∧
      punch (pair false) ∈ w.store := by
  have haim : ∀ k, ipEqual (pair k).ip (pair true).raddr = true → k = false := by decide
  have hf : Unforged (pair true) (oneTry ++ oneAnswer) := by simp [Unforged, oneTry, oneAnswer]
  refine ⟨_, _, rfl, rfl, ⟨_, rfl, rfl⟩, ⟨_, rfl, rfl⟩, ?_⟩
  exact (punched_before_ending pair bothOpen false true oneTry oneAnswer haim hf rfl
    (.error (.failed 1)) ⟨_, rfl, rfl⟩ rfl ⟨_, rfl, rfl⟩).1

end OmniTun.Network.HolePunch
