import OmniTun.Api.Store
import OmniTun.Foundation.Processes

/-! The webhooks of the organisations and the log of their test deliveries, which the server keeps in
memory. A test gives up the lock while it calls the webhook. -/

namespace OmniTun.Api.Webhooks

open OmniTun.Foundation OmniTun.Foundation.Transition OmniTun.Foundation.Processes

structure WebhookRecord where
  id : Bytes
  organizationID : Bytes
  name : Bytes
  url : Bytes
  events : List Bytes
  secret : Bytes
  status : Bytes
  lastDeliveryAt : Option ℤ
  createdAt : ℤ

structure WebhookDeliveryRecord where
  id : Bytes
  webhookID : Bytes
  event : Bytes
  status : Bytes
  statusCode : Option ℤ
  durationMs : ℤ
  retryCount : ℤ
  requestHeaders : List (Bytes × Bytes)
  requestBody : Bytes
  responseHeaders : List (Bytes × Bytes)
  responseBody : Bytes
  createdAt : ℤ

inductive Event
  | created (id : Bytes)
  | completed (delivery : WebhookDeliveryRecord)

/-- A webhook is a reference to its record, which stays as long as a request holds it. The log has
the newest event first. -/
structure WebhookStore where
  records : List WebhookRecord
  webhooks : Table Bytes ℕ
  deliveries : Table Bytes (List WebhookDeliveryRecord)
  log : List Event
  keyed : ∀ id ref, webhooks.lookup id = some ref → (records[ref]?).map WebhookRecord.id = some id

namespace WebhookStore

def empty : WebhookStore := ⟨[], ∅, ∅, [], fun _ _ h => by cases h⟩

variable (s : WebhookStore)

def idOf (ref : ℕ) : Option Bytes := (s.records[ref]?).map WebhookRecord.id

def find (orgID id : Bytes) : Option (ℕ × WebhookRecord) :=
  (s.webhooks.lookup id).bind fun ref =>
    (s.records[ref]?).bind fun wh => if wh.organizationID = orgID then some (ref, wh) else none

def add (wh : WebhookRecord) : WebhookStore where
  records := s.records ++ [wh]
  webhooks := s.webhooks.insert wh.id s.records.length
  deliveries := s.deliveries
  log := .created wh.id :: s.log
  keyed := by
    intro id ref h
    rw [Table.lookup_insert] at h
    split_ifs at h with hid
    · obtain rfl := Option.some.inj h
      simp [hid]
    · have hrecord := s.keyed id ref h
      have hlt : ref < s.records.length := by
        by_contra hge
        rw [List.getElem?_eq_none (by omega)] at hrecord
        cases hrecord
      rw [List.getElem?_append_left hlt]
      exact hrecord

lemma idOf_modify (ref ref' : ℕ) {f : WebhookRecord → WebhookRecord} (hf : ∀ wh, (f wh).id = wh.id) :
    ((s.records.modify ref f)[ref']?).map WebhookRecord.id = s.idOf ref' := by
  rw [List.getElem?_modify, idOf]
  cases s.records[ref']? with
  | none => rfl
  | some wh =>
    by_cases href : ref = ref'
    · simp [href, hf]
    · simp [href]

def modify (ref : ℕ) (f : WebhookRecord → WebhookRecord) (hf : ∀ wh, (f wh).id = wh.id) :
    WebhookStore :=
  { s with
    records := s.records.modify ref f
    keyed := by
      intro id ref' h
      rw [s.idOf_modify ref ref' hf]
      exact s.keyed id ref' h }

def remove (id : Bytes) : WebhookStore :=
  { s with
    webhooks := s.webhooks.erase id
    deliveries := s.deliveries.erase id
    keyed := by
      intro id' ref h
      rw [Table.lookup_erase] at h
      split_ifs at h
      exact s.keyed id' ref h }

def deliveriesOf (id : Bytes) : List WebhookDeliveryRecord := (s.deliveries.lookup id).getD []

def append (id : Bytes) (delivery : WebhookDeliveryRecord) : WebhookStore :=
  let list := delivery :: s.deliveriesOf id
  { s with
    deliveries := s.deliveries.insert id (if 50 < list.length then list.take 50 else list)
    log := .completed delivery :: s.log }

end WebhookStore

/-- A body as it is decoded; an error of the decoder goes by unseen. -/
structure WebhookRequest where
  name : Bytes
  url : Bytes
  events : Option (List Bytes)
  secret : Bytes

structure CreateEnv where
  now : ℤ
  formatTime : ℤ → Bytes
  secretUUID : Bytes
  uuid : Bytes

def webhookNotFound : Response := respondError 404 "not_found" "webhook not found"

section Handlers

variable (orgID id : Bytes) (req : WebhookRequest) (s : WebhookStore)

def newWebhook (env : CreateEnv) : WebhookRecord where
  id := env.uuid
  organizationID := orgID
  name := req.name
  url := req.url
  events := if req.events.getD [] = [] then [ascii "tunnel.started"] else req.events.getD []
  secret := if req.secret = [] then ascii "whsec_" ++ env.secretUUID.take 32 else req.secret
  status := ascii "active"
  lastDeliveryAt := none
  createdAt := env.now

def handleCreateWebhook (env : CreateEnv) : Response × WebhookStore :=
  if req.name = [] ∨ req.url = [] then
    (respondError 400 "invalid_request" "name and url are required", s)
  else
    let record := newWebhook orgID req env
    (⟨201, jsonObj [("id", .str record.id), ("name", .str record.name), ("url", .str record.url),
      ("events", .arr (record.events.map .str)), ("secret", .str record.secret),
      ("status", .str record.status), ("created_at", .str (env.formatTime record.createdAt))]⟩,
      s.add record)

def WebhookRequest.apply (wh : WebhookRecord) : WebhookRecord :=
  { wh with
    name := if req.name = [] then wh.name else req.name
    url := if req.url = [] then wh.url else req.url
    events := req.events.getD wh.events
    secret := if req.secret = [] then wh.secret else req.secret }

def handleUpdateWebhook : Response × WebhookStore :=
  match s.find orgID id with
  | none => (webhookNotFound, s)
  | some (ref, old) =>
    let wh := req.apply old
    (⟨200, jsonObj [("id", .str wh.id), ("name", .str wh.name), ("url", .str wh.url),
      ("events", .arr (wh.events.map .str)), ("secret", .str wh.secret),
      ("status", .str wh.status)]⟩,
      s.modify ref req.apply fun _ => rfl)

def handleDeleteWebhook : Response × WebhookStore :=
  match s.find orgID id with
  | none => (webhookNotFound, s)
  | some _ => (respondMessage "deleted", s.remove id)

def headerObj (headers : List (Bytes × Bytes)) : Json := .obj (headers.map fun h => (h.1, .str h.2))

def deliveryItem (formatTime : ℤ → Bytes) (d : WebhookDeliveryRecord) : Json :=
  jsonObj ([("id", .str d.id), ("webhook_id", .str d.webhookID), ("event", .str d.event),
    ("status", .str d.status), ("duration_ms", .num d.durationMs), ("retry_count", .num d.retryCount),
    ("request_headers", headerObj d.requestHeaders), ("request_body", .str d.requestBody),
    ("response_headers", headerObj d.responseHeaders), ("response_body", .str d.responseBody),
    ("created_at", .str (formatTime d.createdAt))] ++
    d.statusCode.toList.map fun code => ("status_code", .num code))

def handleWebhookDeliveries (formatTime : ℤ → Bytes) : Response :=
  match s.find orgID id with
  | none => webhookNotFound
  | some _ => ⟨200, .arr ((s.deliveriesOf id).map (deliveryItem formatTime))⟩

end Handlers

section Calls

inductive Outcome
  | error (message : Bytes)
  | response (statusCode : ℤ) (headers : List (Bytes × List Bytes)) (body : Bytes)

/-- The network, for a URL that can be parsed, with the encoder, the clock and the ids that are
drawn. -/
structure CallEnv where
  send : Bytes → List (Bytes × Bytes) → Bytes → Option Outcome
  marshal : Json → Bytes
  start : ℤ
  durationMs : ℤ
  formatTime : ℤ → Bytes
  payloadID : Bytes
  deliveryID : Bytes

variable (wh : WebhookRecord) (env : CallEnv)

def requestHeaders : List (Bytes × Bytes) :=
  [(ascii "Content-Type", ascii "application/json"), (ascii "X-Webhook-Secret", wh.secret)]

def payload : Bytes :=
  env.marshal (jsonObj [("data", jsonObj [("message", .str (ascii "This is a test webhook payload")),
      ("webhook", .str wh.name)]),
    ("id", .str env.payloadID), ("timestamp", .str (env.formatTime env.start)),
    ("type", .str (ascii "webhook.test"))])

def responseHeaders (headers : List (Bytes × List Bytes)) : List (Bytes × Bytes) :=
  headers.filterMap fun h => h.2.head?.map fun v => (h.1, v)

def testDelivery (outcome : Outcome) : WebhookDeliveryRecord where
  id := env.deliveryID
  webhookID := wh.id
  event := ascii "webhook.test"
  status :=
    match outcome with
    | .error _ => ascii "failed"
    | .response code _ _ => if 200 ≤ code ∧ code < 300 then ascii "success" else ascii "failed"
  statusCode :=
    match outcome with
    | .error _ => none
    | .response code _ _ => some code
  durationMs := env.durationMs
  retryCount := 0
  requestHeaders := requestHeaders wh
  requestBody := payload wh env
  responseHeaders :=
    match outcome with
    | .error _ => []
    | .response _ headers _ => responseHeaders headers
  responseBody :=
    match outcome with
    | .error message => message
    | .response _ _ body => body
  createdAt := env.start

def testResponse (d : WebhookDeliveryRecord) : Response :=
  ⟨200, jsonObj [("status_code", .num (d.statusCode.getD 0)), ("body", .str d.responseBody),
    ("status", .str d.status), ("duration_ms", .num d.durationMs)]⟩

end Calls

inductive Action
  | create (orgID : Bytes) (env : CreateEnv) (req : WebhookRequest)
  | update (orgID id : Bytes) (req : WebhookRequest)
  | delete (orgID id : Bytes)
  | lookUp (orgID id : Bytes)
  | call (env : CallEnv)
  | markFailed
  | append (now : ℤ)

/-- Between its sections a test holds the webhook, and then its delivery too. -/
inductive Local
  | ready (answer : Option Response)
  | found (ref : ℕ)
  | failed (ref : ℕ) (delivery : WebhookDeliveryRecord)
  | called (ref : ℕ) (delivery : WebhookDeliveryRecord)

variable {ι : Type*}

/-- A URL that cannot be parsed makes the handler panic, and the server answers for it. -/
def next (_ : ι) (a : Action) (l : Local) (s : WebhookStore) : Option (Local × WebhookStore) :=
  match l, a with
  | .ready _, .create orgID env req =>
    let (answer, s') := handleCreateWebhook orgID req s env
    some (.ready (some answer), s')
  | .ready _, .update orgID id req =>
    let (answer, s') := handleUpdateWebhook orgID id req s
    some (.ready (some answer), s')
  | .ready _, .delete orgID id =>
    let (answer, s') := handleDeleteWebhook orgID id s
    some (.ready (some answer), s')
  | .ready _, .lookUp orgID id =>
    match s.find orgID id with
    | none => some (.ready (some webhookNotFound), s)
    | some (ref, _) => some (.found ref, s)
  | .found ref, .call env =>
    (s.records[ref]?).map fun wh =>
      match env.send wh.url (requestHeaders wh) (payload wh env) with
      | none => (.ready none, s)
      | some (.error message) => (.failed ref (testDelivery wh env (.error message)), s)
      | some outcome => (.called ref (testDelivery wh env outcome), s)
  | .failed ref delivery, .markFailed =>
    let fail (wh : WebhookRecord) : WebhookRecord := { wh with status := ascii "failed" }
    some (.called ref delivery, s.modify ref fail fun _ => rfl)
  | .called ref delivery, .append now =>
    let touch (wh : WebhookRecord) : WebhookRecord := { wh with lastDeliveryAt := some now }
    (s.records[ref]?).map fun wh =>
      (.ready (some (testResponse delivery)),
        (s.modify ref touch fun _ => rfl).append wh.id delivery)
  | _, _ => none

def start : World ι Local WebhookStore := ⟨fun _ => .ready none, .empty⟩

section Log

def completedSince (id : Bytes) : List Event → List WebhookDeliveryRecord
  | [] => []
  | .created id' :: log => if id' = id then [] else completedSince id log
  | .completed d :: log =>
    if d.webhookID = id then d :: completedSince id log else completedSince id log

structure Logged (s : WebhookStore) : Prop where
  webhook : ∀ id ds, s.deliveries.lookup id = some ds → s.webhooks.lookup id ≠ none
  own : ∀ id, ∀ d ∈ s.deliveriesOf id, d.webhookID = id
  recent : ∀ id, s.webhooks.lookup id ≠ none →
    s.deliveriesOf id = (completedSince id s.log).take 50

/-- A test is logged while its webhook is there, and an id is drawn for one webhook only, as far as
deliveries can tell. -/
def Keeps (s : WebhookStore) : Local → Action → Prop
  | .called _ delivery, .append _ => s.webhooks.lookup delivery.webhookID ≠ none
  | .ready _, .create _ env req => req.name ≠ [] → req.url ≠ [] → s.deliveriesOf env.uuid = []
  | _, _ => True

def Kept (w : World ι Local WebhookStore) (a : ι × Action) : Prop :=
  Keeps w.store (w.locals a.1) a.2

def Own (_ : ι) (l : Local) (s : WebhookStore) : Prop :=
  match l with
  | .failed ref delivery | .called ref delivery => s.idOf ref = some delivery.webhookID
  | _ => True

end Log

section Steps

variable {i : ι} {a : Action} {l l' : Local} {s s' : WebhookStore} {id : Bytes} {ref : ℕ}

structure Same (s s' : WebhookStore) : Prop where
  idOf : ∀ ref, s'.idOf ref = s.idOf ref
  webhooks : s'.webhooks = s.webhooks
  deliveries : s'.deliveries = s.deliveries
  log : s'.log = s.log

lemma Same.refl (s : WebhookStore) : Same s s := ⟨fun _ => rfl, rfl, rfl, rfl⟩

lemma same_modify (s : WebhookStore) (ref : ℕ) {f : WebhookRecord → WebhookRecord}
    (hf : ∀ wh, (f wh).id = wh.id) : Same s (s.modify ref f hf) :=
  ⟨fun ref' => s.idOf_modify ref ref' hf, rfl, rfl, rfl⟩

lemma idOf_add {wh : WebhookRecord} (h : s.idOf ref = some id) : (s.add wh).idOf ref = some id := by
  obtain ⟨old, hold, hid⟩ := Option.map_eq_some_iff.mp h
  have hlt : ref < s.records.length := (List.getElem?_eq_some_iff.mp hold).1
  rw [WebhookStore.idOf, WebhookStore.add, List.getElem?_append_left hlt, hold, ← hid]
  rfl

lemma same_update (orgID id : Bytes) (req : WebhookRequest) (s : WebhookStore) :
    Same s (handleUpdateWebhook orgID id req s).2 := by
  rw [handleUpdateWebhook]
  cases s.find orgID id with
  | none => exact Same.refl s
  | some found => exact same_modify s found.1 (f := req.apply) fun _ => rfl

structure Quiet (i : ι) (s : WebhookStore) (l : Local) (a : Action) (l' : Local) (s' : WebhookStore) :
    Prop where
  same : Same s s'
  keeps : Keeps s l a
  own : Own i l s → Own i l' s

lemma create_cases {last : Option Response} {orgID : Bytes} {env : CreateEnv} {req : WebhookRequest}
    (h : next i (.create orgID env req) (.ready last) s = some (l', s')) :
    (req.name ≠ [] ∧ req.url ≠ [] ∧ (∃ answer, l' = .ready answer) ∧
      s' = s.add (newWebhook orgID req env)) ∨
    Quiet i s (.ready last) (.create orgID env req) l' s' := by
  simp only [next, Option.some.injEq, Prod.mk.injEq] at h
  obtain ⟨rfl, rfl⟩ := h
  rw [handleCreateWebhook]
  by_cases hreq : req.name = [] ∨ req.url = []
  · rw [if_pos hreq]
    refine .inr ⟨Same.refl s, fun hname hurl => ?_, fun _ => trivial⟩
    exact absurd hreq (not_or.mpr ⟨hname, hurl⟩)
  · rw [if_neg hreq]
    obtain ⟨hname, hurl⟩ := not_or.mp hreq
    exact .inl ⟨hname, hurl, ⟨_, rfl⟩, rfl⟩

lemma update_quiet {last : Option Response} {orgID : Bytes} {req : WebhookRequest}
    (h : next i (.update orgID id req) (.ready last) s = some (l', s')) :
    Quiet i s (.ready last) (.update orgID id req) l' s' := by
  simp only [next, Option.some.injEq, Prod.mk.injEq] at h
  obtain ⟨rfl, rfl⟩ := h
  exact ⟨same_update orgID id req s, trivial, fun _ => trivial⟩

lemma delete_cases {last : Option Response} {orgID : Bytes}
    (h : next i (.delete orgID id) (.ready last) s = some (l', s')) :
    ((∃ answer, l' = .ready answer) ∧ s' = s.remove id) ∨
      Quiet i s (.ready last) (.delete orgID id) l' s' := by
  simp only [next, Option.some.injEq, Prod.mk.injEq] at h
  obtain ⟨rfl, rfl⟩ := h
  rw [handleDeleteWebhook]
  cases s.find orgID id with
  | none => exact .inr ⟨Same.refl s, trivial, fun _ => trivial⟩
  | some found => exact .inl ⟨⟨_, rfl⟩, rfl⟩

lemma lookUp_quiet {last : Option Response} {orgID : Bytes}
    (h : next i (.lookUp orgID id) (.ready last) s = some (l', s')) :
    Quiet i s (.ready last) (.lookUp orgID id) l' s' := by
  cases hfind : s.find orgID id with
  | none =>
    simp only [next, hfind, Option.some.injEq, Prod.mk.injEq] at h
    obtain ⟨rfl, rfl⟩ := h
    exact ⟨Same.refl s, trivial, fun _ => trivial⟩
  | some found =>
    simp only [next, hfind, Option.some.injEq, Prod.mk.injEq] at h
    obtain ⟨rfl, rfl⟩ := h
    exact ⟨Same.refl s, trivial, fun _ => trivial⟩

lemma call_quiet {env : CallEnv} (h : next i (.call env) (.found ref) s = some (l', s')) :
    Quiet i s (.found ref) (.call env) l' s' := by
  obtain ⟨wh, hwh, h⟩ := Option.map_eq_some_iff.mp h
  have hid : s.idOf ref = some wh.id := by rw [WebhookStore.idOf, hwh, Option.map_some]
  cases hsend : env.send wh.url (requestHeaders wh) (payload wh env) with
  | none =>
    simp only [hsend, Prod.mk.injEq] at h
    obtain ⟨rfl, rfl⟩ := h
    exact ⟨Same.refl s, trivial, fun _ => trivial⟩
  | some outcome =>
    cases outcome with
    | error message =>
      simp only [hsend, Prod.mk.injEq] at h
      obtain ⟨rfl, rfl⟩ := h
      exact ⟨Same.refl s, trivial, fun _ => hid⟩
    | response code headers body =>
      simp only [hsend, Prod.mk.injEq] at h
      obtain ⟨rfl, rfl⟩ := h
      exact ⟨Same.refl s, trivial, fun _ => hid⟩

lemma markFailed_quiet {d : WebhookDeliveryRecord}
    (h : next i .markFailed (.failed ref d) s = some (l', s')) :
    Quiet i s (.failed ref d) .markFailed l' s' := by
  simp only [next, Option.some.injEq, Prod.mk.injEq] at h
  obtain ⟨rfl, rfl⟩ := h
  exact ⟨same_modify s ref _, trivial, fun hown => hown⟩

lemma append_next {d : WebhookDeliveryRecord} {now : ℤ}
    (h : next i (.append now) (.called ref d) s = some (l', s')) :
    ∃ wh s₁, s.records[ref]? = some wh ∧ Same s s₁ ∧ (∃ answer, l' = .ready answer) ∧
      s' = s₁.append wh.id d := by
  obtain ⟨wh, hwh, h⟩ := Option.map_eq_some_iff.mp h
  obtain ⟨rfl, rfl⟩ := Prod.mk.inj h
  exact ⟨wh, _, hwh, same_modify s ref _, ⟨_, rfl⟩, rfl⟩

lemma next_cases (h : next i a l s = some (l', s')) :
    (∃ orgID env req last, l = .ready last ∧ a = .create orgID env req ∧ req.name ≠ [] ∧
      req.url ≠ [] ∧ (∃ answer, l' = .ready answer) ∧ s' = s.add (newWebhook orgID req env)) ∨
    (∃ id, (∃ answer, l' = .ready answer) ∧ s' = s.remove id ∧ Keeps s l a) ∨
    (∃ ref d now wh s₁, l = .called ref d ∧ a = .append now ∧ s.records[ref]? = some wh ∧
      Same s s₁ ∧ (∃ answer, l' = .ready answer) ∧ s' = s₁.append wh.id d) ∨
    Quiet i s l a l' s' := by
  cases l with
  | ready last =>
    cases a with
    | create orgID env req =>
      rcases create_cases h with ⟨hname, hurl, hready, hs⟩ | hquiet
      · exact .inl ⟨orgID, env, req, last, rfl, rfl, hname, hurl, hready, hs⟩
      · exact .inr (.inr (.inr hquiet))
    | update orgID id req => exact .inr (.inr (.inr (update_quiet h)))
    | delete orgID id =>
      rcases delete_cases h with ⟨hready, hs⟩ | hquiet
      · exact .inr (.inl ⟨id, hready, hs, trivial⟩)
      · exact .inr (.inr (.inr hquiet))
    | lookUp orgID id => exact .inr (.inr (.inr (lookUp_quiet h)))
    | call | markFailed | append => cases h
  | found ref =>
    cases a with
    | call env => exact .inr (.inr (.inr (call_quiet h)))
    | create | update | delete | lookUp | markFailed | append => cases h
  | failed ref d =>
    cases a with
    | markFailed => exact .inr (.inr (.inr (markFailed_quiet h)))
    | create | update | delete | lookUp | call | append => cases h
  | called ref d =>
    cases a with
    | append now =>
      obtain ⟨wh, s₁, hwh, hsame, hready, hs⟩ := append_next h
      exact .inr (.inr (.inl ⟨ref, d, now, wh, s₁, rfl, rfl, hwh, hsame, hready, hs⟩))
    | create | update | delete | lookUp | call | markFailed => cases h

lemma logged_same (hs : Same s s') (h : Logged s) : Logged s' := by
  have hof : ∀ id, s'.deliveriesOf id = s.deliveriesOf id := by
    intro id
    rw [WebhookStore.deliveriesOf, hs.deliveries]
    rfl
  constructor
  · intro id ds
    rw [hs.webhooks, hs.deliveries]
    exact h.webhook id ds
  · intro id
    rw [hof]
    exact h.own id
  · intro id
    rw [hs.webhooks, hs.log, hof]
    exact h.recent id

lemma logged_add {wh : WebhookRecord} (h : Logged s) :
    Logged (s.add wh) ↔ s.deliveriesOf wh.id = [] := by
  have hsince : completedSince wh.id (s.add wh).log = [] := by
    simp [WebhookStore.add, completedSince]
  constructor
  · intro h'
    have hrecent := h'.recent wh.id (by simp [WebhookStore.add])
    rw [hsince] at hrecent
    exact hrecent
  · intro hnone
    refine ⟨fun id ds hds => ?_, h.own, fun id hid => ?_⟩
    · have hold := h.webhook id ds hds
      rw [WebhookStore.add, Table.lookup_insert]
      split_ifs
      · exact Option.some_ne_none _
      · exact hold
    · by_cases hwh : id = wh.id
      · rw [hwh, hsince]
        exact hnone
      · rw [WebhookStore.add, Table.lookup_insert, if_neg hwh] at hid
        have hlog : completedSince id (s.add wh).log = completedSince id s.log := by
          simp [WebhookStore.add, completedSince, Ne.symm hwh]
        rw [hlog]
        exact h.recent id hid

lemma logged_remove (id : Bytes) (h : Logged s) : Logged (s.remove id) := by
  have hof : ∀ id', id' ≠ id → (s.remove id).deliveriesOf id' = s.deliveriesOf id' := by
    intro id' hne
    rw [WebhookStore.deliveriesOf, WebhookStore.remove, Table.lookup_erase, if_neg hne]
    rfl
  constructor
  · intro id' ds hds
    rw [WebhookStore.remove, Table.lookup_erase] at hds ⊢
    split_ifs at hds ⊢
    exact h.webhook id' ds hds
  · intro id' d hd
    by_cases hid : id' = id
    · subst hid
      simp [WebhookStore.deliveriesOf, WebhookStore.remove] at hd
    · rw [hof id' hid] at hd
      exact h.own id' d hd
  · intro id' hid'
    rw [WebhookStore.remove, Table.lookup_erase] at hid'
    split_ifs at hid' with hid
    · exact absurd rfl hid'
    · rw [hof id' hid]
      exact h.recent id' hid'

lemma deliveriesOf_append (d : WebhookDeliveryRecord) (id' : Bytes) :
    (s.append id d).deliveriesOf id' =
      if id' = id then (d :: s.deliveriesOf id).take 50 else s.deliveriesOf id' := by
  rw [WebhookStore.deliveriesOf, WebhookStore.append, Table.lookup_insert]
  split_ifs with hid hlong
  · rfl
  · rw [List.take_of_length_le (by omega)]
    rfl
  · rfl

lemma logged_append {d : WebhookDeliveryRecord} (h : Logged s) (hd : d.webhookID = id) :
    Logged (s.append id d) ↔ s.webhooks.lookup id ≠ none := by
  constructor
  · intro h'
    exact h'.webhook id _ (by rw [WebhookStore.append, Finmap.lookup_insert])
  · intro hid
    constructor
    · intro id' ds hds
      by_cases hne : id' = id
      · rw [hne]
        exact hid
      · rw [WebhookStore.append, Table.lookup_insert, if_neg hne] at hds
        exact h.webhook id' ds hds
    · intro id' d' hd'
      rw [deliveriesOf_append] at hd'
      split_ifs at hd' with hne
      · rcases List.mem_cons.mp (List.mem_of_mem_take hd') with rfl | hold
        · rw [hd, hne]
        · rw [hne]
          exact h.own id d' hold
      · exact h.own id' d' hd'
    · intro id' hid'
      have hrecent := h.recent id' hid'
      have hlog : (s.append id d).log = .completed d :: s.log := rfl
      rw [deliveriesOf_append, hlog, completedSince, hd]
      by_cases hne : id' = id
      · subst hne
        rw [if_pos rfl, if_pos rfl, hrecent, List.take_succ_cons, List.take_succ_cons, List.take_take]
        rfl
      · rw [if_neg hne, if_neg (Ne.symm hne)]
        exact hrecent

lemma own_of_idOf {j : ι} {l : Local} (hid : ∀ ref id, s.idOf ref = some id → s'.idOf ref = some id)
    (h : Own j l s) : Own j l s' := by
  cases l with
  | ready | found => trivial
  | failed ref d => exact hid ref _ h
  | called ref d => exact hid ref _ h

lemma idOf_next (h : next i a l s = some (l', s')) (hid : s.idOf ref = some id) :
    s'.idOf ref = some id := by
  rcases next_cases h with ⟨_, _, _, _, -, -, -, -, -, rfl⟩ | ⟨_, -, rfl, -⟩ |
    ⟨_, _, _, _, _, -, -, -, hsame, -, rfl⟩ | hquiet
  · exact idOf_add hid
  · exact hid
  · exact (hsame.idOf ref).trans hid
  · rw [hquiet.same.idOf, hid]

lemma nonInterfering : NonInterfering (next (ι := ι)) (fun _ => True) Own where
  own := by
    intro i a l s l' s' _ hown h
    refine ⟨trivial, own_of_idOf (fun _ _ => idOf_next h) ?_⟩
    rcases next_cases h with ⟨_, _, _, _, -, -, -, -, ⟨_, rfl⟩, -⟩ | ⟨_, ⟨_, rfl⟩, -, -⟩ |
      ⟨_, _, _, _, _, -, -, -, -, ⟨_, rfl⟩, -⟩ | hquiet
    · trivial
    · trivial
    · trivial
    · exact hquiet.own hown
  other := by
    intro i j a l m s l' s' _ _ _ hown h
    exact own_of_idOf (fun _ _ => idOf_next h) hown

lemma logged_next (hown : Own i l s) (hs : Logged s) (h : next i a l s = some (l', s')) :
    Logged s' ↔ Keeps s l a := by
  rcases next_cases h with ⟨orgID, env, req, last, rfl, rfl, hname, hurl, -, rfl⟩ |
    ⟨id, -, rfl, hkeeps⟩ | ⟨ref, d, now, wh, s₁, rfl, rfl, hwh, hsame, -, rfl⟩ | hquiet
  · rw [logged_add hs]
    exact ⟨fun h _ _ => h, fun h => h hname hurl⟩
  · exact iff_of_true (logged_remove id hs) hkeeps
  · have hid : some wh.id = some d.webhookID := by
      rw [← hown, WebhookStore.idOf, hwh, Option.map_some]
    have hwebhook : d.webhookID = wh.id := (Option.some.inj hid).symm
    rw [logged_append (logged_same hsame hs) hwebhook, hsame.webhooks, Keeps, hwebhook]
  · exact iff_of_true (logged_same hquiet.same hs) hquiet.keeps

lemma find_webhook {orgID : Bytes} {found : ℕ × WebhookRecord} (h : s.find orgID id = some found) :
    s.webhooks.lookup id = some found.1 := by
  obtain ⟨ref, href, h⟩ := Option.bind_eq_some_iff.mp h
  obtain ⟨wh, -, h⟩ := Option.bind_eq_some_iff.mp h
  split_ifs at h
  obtain rfl := Option.some.inj h
  exact href

lemma handleWebhookDeliveries_logged {orgID : Bytes} {found : ℕ × WebhookRecord}
    {formatTime : ℤ → Bytes} (hs : Logged s) (h : s.find orgID id = some found) :
    handleWebhookDeliveries orgID id s formatTime =
      ⟨200, .arr (((completedSince id s.log).take 50).map (deliveryItem formatTime))⟩ := by
  have hid : s.webhooks.lookup id ≠ none := by
    rw [find_webhook h]
    exact Option.some_ne_none _
  rw [handleWebhookDeliveries, h, ← hs.recent id hid]

end Steps

/-- The log of deliveries is as it should be throughout a run just if no test is logged for a webhook
that was deleted meanwhile, and no webhook is created over deliveries. -/
theorem delivery_log_iff [DecidableEq ι] (as : List (ι × Action)) :
    Always (step next) (fun w => Logged w.store) (start (ι := ι)) as ↔
      Guarded (step next) Kept start as := by
  apply nonInterfering.always_iff_guarded
  · exact ⟨fun _ _ h => (by cases h), fun _ _ h => (by cases h), fun _ h => absurd rfl h⟩
  · exact ⟨trivial, fun _ => trivial⟩
  · intro w i a l s hw hs h
    exact logged_next (hw.2 i) hs h

def exampleCall : CallEnv where
  send _ _ _ := some (.response 200 [] [])
  marshal _ := []
  start := 2
  durationMs := 1
  formatTime _ := []
  payloadID := []
  deliveryID := ascii "d"

theorem deleted_webhook_has_delivery :
    ∃ w, run (step next) (start (ι := Bool))
        [(false, .create (ascii "acme") ⟨1, fun _ => [], [], ascii "h"⟩
          ⟨ascii "ci", ascii "https://ci.example", none, ascii "s"⟩),
        (true, .lookUp (ascii "acme") (ascii "h")), (true, .call exampleCall),
        (false, .delete (ascii "acme") (ascii "h")), (true, .append 3)] = some w ∧
      w.store.webhooks.lookup (ascii "h") = none ∧ w.store.deliveriesOf (ascii "h") ≠ [] ∧
      ¬ Logged w.store := by
  refine ⟨_, rfl, rfl, fun h => ?_, fun h => ?_⟩
  · cases h
  · exact h.webhook (ascii "h") _ rfl rfl

end OmniTun.Api.Webhooks
