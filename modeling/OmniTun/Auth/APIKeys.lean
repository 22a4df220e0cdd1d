import OmniTun.Auth.Service
import OmniTun.Foundation.OwnedRows
import OmniTun.Foundation.Transition
import OmniTun.Relay.Token

/-! API keys: their creation and revocation, and the two middlewares that accept them. -/

namespace OmniTun.Auth.APIKeys

open OmniTun.Foundation OwnedRows Transition
open OmniTun.Relay (splitN)

structure APIKey where
  id : Bytes
  organizationID : Bytes
  userID : Option Bytes
  keyHash : Bytes
  expiresAt : Option ℤ
  revokedAt : Option ℤ
  deriving DecidableEq

structure APIKeys where
  rows : List APIKey
  keyed : (rows.map APIKey.id).Nodup
  hashed : (rows.map APIKey.keyHash).Nodup

def APIKeys.empty : APIKeys := ⟨[], List.nodup_nil, List.nodup_nil⟩

structure Creation where
  id : Bytes
  organizationID : Bytes
  userID : Option Bytes
  key : Bytes
  expiresAt : Option ℤ
  deriving DecidableEq

inductive Operation
  | create (c : Creation)
  | revoke (id : Bytes) (now : ℤ)
  deriving DecidableEq

def handleCreateAPIKey (orgID userID uuid id : Bytes) : Creation :=
  ⟨id, orgID, some userID, ascii "ot_sk_" ++ uuid.take 32, none⟩

def APIKey.revoke (now : ℤ) (k : APIKey) : APIKey := { k with revokedAt := some now }

structure Claims where
  subject : Bytes
  orgID : Bytes
  role : Bytes
  deriving DecidableEq

structure Request where
  authorization : Bytes
  xAPIKey : Bytes

structure AuthContext where
  userID : Option Bytes
  orgID : Bytes
  role : Option Bytes
  apiKeyID : Option Bytes
  deriving DecidableEq

structure HTTPError where
  message : Bytes
  status : ℕ
  deriving DecidableEq

def lower (b : UInt8) : UInt8 := if 65 ≤ b ∧ b ≤ 90 then b + 32 else b

def isBearer (scheme : Bytes) : Prop := scheme.map lower = (ascii "Bearer").map lower

instance (scheme : Bytes) : Decidable (isBearer scheme) := by unfold isBearer; infer_instance

def extractBearerToken (r : Request) : Bytes :=
  if r.authorization = [] then []
  else
    match splitN r.authorization 32 2 with
    | [scheme, token] => if isBearer scheme then token else []
    | _ => []

section

variable (computeAPIKeyHash : Bytes ↪ Bytes) (validateAccessToken : Bytes → Option Claims)

def Creation.row (c : Creation) : APIKey where
  id := c.id
  organizationID := c.organizationID
  userID := c.userID
  keyHash := computeAPIKeyHash c.key
  expiresAt := c.expiresAt
  revokedAt := none

lemma not_mem_map {β : Type*} {f : APIKey → β} {b : β} {rows : List APIKey}
    (h : ∀ k ∈ rows, f k ≠ b) : b ∉ rows.map f := by
  intro hb
  obtain ⟨k, hk, rfl⟩ := List.mem_map.mp hb
  exact h k hk rfl

def createAPIKey (c : Creation) (s : APIKeys) : Option APIKeys :=
  if h : ∀ k ∈ s.rows, k.id ≠ c.id ∧ k.keyHash ≠ computeAPIKeyHash c.key then
    some
      { rows := c.row computeAPIKeyHash :: s.rows
        keyed := List.nodup_cons.mpr ⟨not_mem_map fun k hk => (h k hk).1, s.keyed⟩
        hashed := List.nodup_cons.mpr ⟨not_mem_map fun k hk => (h k hk).2, s.hashed⟩ }
  else none

def revokeAPIKey (id : Bytes) (now : ℤ) (s : APIKeys) : APIKeys where
  rows := update APIKey.id id (.revoke now) s.rows
  keyed := by
    have h : (update APIKey.id id (.revoke now) s.rows).map APIKey.id = s.rows.map APIKey.id :=
      map_update fun _ => rfl
    simpa only [h] using s.keyed
  hashed := by
    have h : (update APIKey.id id (.revoke now) s.rows).map APIKey.keyHash =
        s.rows.map APIKey.keyHash := by
      rw [update, List.map_map]
      exact List.map_congr_left fun k _ => by simp only [Function.comp_apply]; split_ifs <;> rfl
    simpa only [h] using s.hashed

def step (s : APIKeys) : Operation → Option APIKeys
  | .create c => createAPIKey computeAPIKeyHash c s
  | .revoke id now => some (revokeAPIKey id now s)

def getAPIKeyByHash (s : APIKeys) (hash : Bytes) : Option APIKey :=
  s.rows.find? fun k => k.keyHash = hash ∧ k.revokedAt = none

def apiKeyAuthMiddleware (s : APIKeys) (r : Request) : Except HTTPError AuthContext :=
  if r.xAPIKey = [] then .error ⟨ascii "missing API key header", 401⟩
  else
    match getAPIKeyByHash s (computeAPIKeyHash r.xAPIKey) with
    | none => .error ⟨ascii "invalid API key", 401⟩
    | some key => .ok ⟨key.userID, key.organizationID, none, some key.id⟩

def bearerClaims (r : Request) : Option Claims :=
  let token := extractBearerToken r
  if token ≠ [] ∧ ¬ ascii "ot_sk_" <+: token then validateAccessToken token else none

def combinedAuth (s : APIKeys) (r : Request) : Except AppError AuthContext :=
  let unauthorized := ⟨ascii "unauthorized", ascii "valid authentication required", 401⟩
  match bearerClaims validateAccessToken r with
  | some claims => .ok ⟨some claims.subject, claims.orgID, some claims.role, none⟩
  | none =>
    if r.xAPIKey = [] then .error unauthorized
    else
      match getAPIKeyByHash s (computeAPIKeyHash r.xAPIKey) with
      | none => .error unauthorized
      | some key =>
        if key.revokedAt = none then
          .ok ⟨key.userID, key.organizationID, some (ascii "api"), some key.id⟩
        else .error unauthorized

/-- A request that presents the key and no access token that would let it through by itself. -/
structure Presents (r : Request) (key : Bytes) : Prop where
  key_eq : r.xAPIKey = key
  key_ne_nil : key ≠ []
  bearer : bearerClaims validateAccessToken r = none

end

def Standing (ops : List Operation) (c : Creation) : Prop :=
  ∃ before after, ops = before ++ .create c :: after ∧ ∀ now, .revoke c.id now ∉ after

def Creation.Unexpired (t : ℤ) (c : Creation) : Prop := ∀ e, c.expiresAt = some e → t < e

lemma handleCreateAPIKey_unexpired (orgID userID uuid id : Bytes) (t : ℤ) :
    (handleCreateAPIKey orgID userID uuid id).Unexpired t := nofun

def Admits {ε : Type*} (answer : Except ε AuthContext) (orgID : Bytes) : Prop :=
  ∃ ctx, answer = .ok ctx ∧ ctx.orgID = orgID

section Steps

variable {computeAPIKeyHash : Bytes ↪ Bytes} {validateAccessToken : Bytes → Option Claims}
  {s s' : APIKeys} {ops : List Operation} {c c' : Creation} {k : APIKey} {id key orgID : Bytes}
  {now : ℤ} {r : Request}

lemma concat_eq_split {op op' : Operation} {before after : List Operation}
    (h : ops ++ [op] = before ++ op' :: after) :
    op = op' ∨ ∃ after', after = after' ++ [op] ∧ ops = before ++ op' :: after' := by
  rcases List.eq_nil_or_concat after with rfl | ⟨after', last, rfl⟩
  · obtain ⟨-, hop⟩ := List.append_inj' h rfl
    exact .inl (List.singleton_inj.mp hop)
  · rw [List.concat_eq_append, ← List.cons_append, ← List.append_assoc] at h
    obtain ⟨hops, hop⟩ := List.append_inj' h rfl
    obtain rfl := List.singleton_inj.mp hop
    exact .inr ⟨after', List.concat_eq_append, hops⟩

lemma standing_create :
    Standing (ops ++ [.create c']) c ↔ c = c' ∨ Standing ops c := by
  constructor
  · rintro ⟨before, after, h, ha⟩
    rcases concat_eq_split h with hop | ⟨after', rfl, hops⟩
    · exact .inl (Operation.create.inj hop).symm
    · exact .inr ⟨before, after', hops, fun now hmem => ha now (by simp [hmem])⟩
  · rintro (rfl | ⟨before, after, rfl, ha⟩)
    · exact ⟨ops, [], rfl, fun now => List.not_mem_nil⟩
    · exact ⟨before, after ++ [.create c'], by simp, fun now hmem => ha now (by simpa using hmem)⟩

lemma standing_revoke :
    Standing (ops ++ [.revoke id now]) c ↔ Standing ops c ∧ c.id ≠ id := by
  constructor
  · rintro ⟨before, after, h, ha⟩
    rcases concat_eq_split h with hop | ⟨after', rfl, hops⟩
    · cases hop
    · refine ⟨⟨before, after', hops, fun now hmem => ha now (by simp [hmem])⟩, ?_⟩
      rintro rfl
      exact ha now (by simp)
  · rintro ⟨⟨before, after, rfl, ha⟩, hne⟩
    refine ⟨before, after ++ [.revoke id now], by simp, fun t hmem => ?_⟩
    rcases List.mem_append.mp hmem with hmem | hmem
    · exact ha t hmem
    · simp [hne] at hmem

lemma not_standing_nil : ¬ Standing [] c := by
  rintro ⟨before, after, h, -⟩
  simp at h

lemma standing_singleton (h : Standing [.create c'] c) : c = c' :=
  (standing_create.mp (by rwa [List.nil_append])).resolve_right not_standing_nil

lemma mem_createAPIKey (h : createAPIKey computeAPIKeyHash c s = some s') :
    k ∈ s'.rows ↔ k = c.row computeAPIKeyHash ∨ k ∈ s.rows := by
  unfold createAPIKey at h
  split_ifs at h
  cases h
  exact List.mem_cons

lemma mem_revokeAPIKey (hk : k.revokedAt = none) :
    k ∈ (revokeAPIKey id now s).rows ↔ k ∈ s.rows ∧ k.id ≠ id := by
  constructor
  · intro h
    obtain ⟨k', hk', he⟩ := List.mem_map.mp h
    split_ifs at he with hid
    · subst he
      cases hk
    · subst he
      exact ⟨hk', hid⟩
  · rintro ⟨h, hid⟩
    exact List.mem_map.mpr ⟨k, h, if_neg hid⟩

lemma mem_rows_iff (hr : run (step computeAPIKeyHash) .empty ops = some s) (hk : k.revokedAt = none) :
    k ∈ s.rows ↔ ∃ c, Standing ops c ∧ k = c.row computeAPIKeyHash := by
  induction ops using List.reverseRecOn generalizing s with
  | nil =>
    obtain rfl := Option.some.inj hr
    simp [APIKeys.empty, not_standing_nil]
  | append_singleton ops op ih =>
    rw [run_concat] at hr
    obtain ⟨s₀, hr₀, hs⟩ := Option.bind_eq_some_iff.mp hr
    cases op with
    | create c =>
      rw [mem_createAPIKey hs, ih hr₀]
      simp only [standing_create, or_and_right, exists_or, exists_eq_left]
    | revoke id now =>
      obtain rfl := Option.some.inj hs
      rw [mem_revokeAPIKey hk, ih hr₀]
      constructor
      · rintro ⟨⟨c, hc, rfl⟩, hne⟩
        exact ⟨c, standing_revoke.mpr ⟨hc, hne⟩, rfl⟩
      · rintro ⟨c, hc, rfl⟩
        obtain ⟨hc, hne⟩ := standing_revoke.mp hc
        exact ⟨⟨c, hc, rfl⟩, hne⟩

lemma row_mem (hr : run (step computeAPIKeyHash) .empty ops = some s) (hc : Standing ops c) :
    c.row computeAPIKeyHash ∈ s.rows :=
  (mem_rows_iff hr (Eq.refl (c.row computeAPIKeyHash).revokedAt)).mpr ⟨c, hc, rfl⟩

lemma getAPIKeyByHash_eq_some {hash : Bytes} :
    getAPIKeyByHash s hash = some k ↔ k ∈ s.rows ∧ k.keyHash = hash ∧ k.revokedAt = none := by
  constructor
  · intro h
    exact ⟨List.mem_of_find?_eq_some h, by simpa using List.find?_some h⟩
  · rintro ⟨hmem, rfl, hk⟩
    rw [getAPIKeyByHash, find_of_mem s.hashed hmem]
    · simp [hk]
    · intro k' hk'
      simp only [decide_eq_true_eq] at hk'
      exact hk'.1

lemma admits_apiKeyAuthMiddleware (hp : Presents validateAccessToken r key) :
    Admits (apiKeyAuthMiddleware computeAPIKeyHash s r) orgID ↔
      ∃ k, getAPIKeyByHash s (computeAPIKeyHash key) = some k ∧ k.organizationID = orgID := by
  obtain ⟨rfl, hne, -⟩ := hp
  rw [apiKeyAuthMiddleware, if_neg hne]
  cases getAPIKeyByHash s (computeAPIKeyHash r.xAPIKey) with
  | none => simp [Admits]
  | some k => simp [Admits]

lemma admits_combinedAuth (hp : Presents validateAccessToken r key) :
    Admits (combinedAuth computeAPIKeyHash validateAccessToken s r) orgID ↔
      ∃ k, getAPIKeyByHash s (computeAPIKeyHash key) = some k ∧ k.organizationID = orgID := by
  obtain ⟨rfl, hne, hbearer⟩ := hp
  simp only [combinedAuth, hbearer, if_neg hne]
  cases hk : getAPIKeyByHash s (computeAPIKeyHash r.xAPIKey) with
  | none => simp [Admits]
  | some k =>
    obtain ⟨-, -, hnone⟩ := getAPIKeyByHash_eq_some.mp hk
    simp [Admits, hnone]

lemma found_iff (hr : run (step computeAPIKeyHash) .empty ops = some s) :
    (∃ k, getAPIKeyByHash s (computeAPIKeyHash key) = some k ∧ k.organizationID = orgID) ↔
      ∃ c, Standing ops c ∧ c.key = key ∧ c.organizationID = orgID := by
  constructor
  · rintro ⟨k, hk, rfl⟩
    obtain ⟨hmem, hhash, hnone⟩ := getAPIKeyByHash_eq_some.mp hk
    obtain ⟨c, hc, rfl⟩ := (mem_rows_iff hr hnone).mp hmem
    exact ⟨c, hc, computeAPIKeyHash.injective hhash, rfl⟩
  · rintro ⟨c, hc, rfl, rfl⟩
    exact ⟨_, getAPIKeyByHash_eq_some.mpr ⟨row_mem hr hc, rfl, rfl⟩, rfl⟩

lemma standing_unique (hr : run (step computeAPIKeyHash) .empty ops = some s)
    (hc : Standing ops c) (hc' : Standing ops c') (hkey : c'.key = c.key) : c' = c := by
  have hrow := List.inj_on_of_nodup_map s.hashed (row_mem hr hc') (row_mem hr hc)
    (congrArg computeAPIKeyHash hkey)
  cases c
  cases c'
  cases hkey
  cases hrow
  rfl

end Steps

structure Valid (computeAPIKeyHash : Bytes ↪ Bytes) (validateAccessToken : Bytes → Option Claims)
    (ops : List Operation) (s : APIKeys) (r : Request) (key : Bytes) (t : ℤ) : Prop where
  middleware : ∀ orgID, Admits (apiKeyAuthMiddleware computeAPIKeyHash s r) orgID ↔
    ∃ c, Standing ops c ∧ c.key = key ∧ c.organizationID = orgID ∧ c.Unexpired t
  combined : ∀ orgID, Admits (combinedAuth computeAPIKeyHash validateAccessToken s r) orgID ↔
    ∃ c, Standing ops c ∧ c.key = key ∧ c.organizationID = orgID ∧ c.Unexpired t

theorem api_keys_valid_iff (computeAPIKeyHash : Bytes ↪ Bytes)
    (validateAccessToken : Bytes → Option Claims) (ops : List Operation) (s : APIKeys)
    (hr : run (step computeAPIKeyHash) .empty ops = some s) (r : Request) (key : Bytes)
    (hp : Presents validateAccessToken r key) (t : ℤ) :
    Valid computeAPIKeyHash validateAccessToken ops s r key t ↔
      ∀ c, Standing ops c → c.key = key → c.Unexpired t := by
  have hfound : ∀ orgID, (∃ k, getAPIKeyByHash s (computeAPIKeyHash key) = some k ∧
      k.organizationID = orgID) ↔
        ∃ c, Standing ops c ∧ c.key = key ∧ c.organizationID = orgID := fun _ => found_iff hr
  constructor
  · intro h c hc hkey
    have hadmits := (admits_apiKeyAuthMiddleware hp).mpr ((hfound _).mpr ⟨c, hc, hkey, rfl⟩)
    obtain ⟨c', hc', hkey', -, ht⟩ := (h.middleware _).mp hadmits
    exact standing_unique hr hc hc' (hkey'.trans hkey.symm) ▸ ht
  · intro h
    have hiff : ∀ orgID, (∃ c, Standing ops c ∧ c.key = key ∧ c.organizationID = orgID) ↔
        ∃ c, Standing ops c ∧ c.key = key ∧ c.organizationID = orgID ∧ c.Unexpired t := by
      intro orgID
      constructor
      · rintro ⟨c, hc, hkey, horg⟩
        exact ⟨c, hc, hkey, horg, h c hc hkey⟩
      · rintro ⟨c, hc, hkey, horg, -⟩
        exact ⟨c, hc, hkey, horg⟩
    constructor
    · exact fun orgID => (admits_apiKeyAuthMiddleware hp).trans ((hfound orgID).trans (hiff orgID))
    · exact fun orgID => (admits_combinedAuth hp).trans ((hfound orgID).trans (hiff orgID))

section Runs

def issued : Creation := ⟨[1], ascii "org", none, ascii "ot_sk_0", some 10⟩

def presenting : Request := ⟨[], ascii "ot_sk_0"⟩

def stored : APIKeys :=
  ⟨[issued.row (.refl Bytes)], List.nodup_singleton _, List.nodup_singleton _⟩

theorem api_keys_valid_early :
    Valid (.refl Bytes) (fun _ => none) [.create issued] stored presenting (ascii "ot_sk_0") 9 := by
  apply (api_keys_valid_iff (.refl Bytes) (fun _ => none) [.create issued] stored rfl presenting
    (ascii "ot_sk_0") ⟨rfl, by decide, rfl⟩ 9).mpr
  rintro c hc - e he
  obtain rfl := standing_singleton hc
  cases he
  decide

theorem api_keys_valid_fails :
    ¬ Valid (.refl Bytes) (fun _ => none) [.create issued] stored presenting
      (ascii "ot_sk_0") 11 := by
  intro h
  obtain ⟨c, hc, -, -, ht⟩ := (h.middleware (ascii "org")).mp
    ⟨⟨none, ascii "org", none, some [1]⟩, by decide, rfl⟩
  obtain rfl := standing_singleton hc
  exact absurd (ht 10 rfl) (by decide)

end Runs

end OmniTun.Auth.APIKeys
