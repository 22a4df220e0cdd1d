import OmniTun.Relay.DispatcherIndex

/-! What unregistering one tunnel does to the lookups that lead to another. -/

namespace OmniTun.Relay.DispatcherIsolation

open OmniTun.Foundation Transition DispatcherIndex SecondaryIndex

/-- Unregistering `A` keeps the result of every lookup that led to `B`. -/
structure Isolated (d : Dispatcher) (A B : Bytes) : Prop where
  domain : ∀ host ctx, d.lookup host = some ctx → ctx.tunnelID = B →
    (d.unregister A).lookup host = some ctx
  port : ∀ port ctx, d.lookupByPort port = some ctx → ctx.tunnelID = B →
    (d.unregister A).lookupByPort port = some ctx
  slug : ∀ slug ctx, d.lookupBySlug slug = some ctx → ctx.tunnelID = B →
    (d.unregister A).lookupBySlug slug = some ctx

/-- No key of the context leads to `B`, save a domain that a wildcard of `B` takes over. -/
structure Unshared (d : Dispatcher) (ctx : TunnelContext) (B : Bytes) : Prop where
  domain : d.byDomain.lookup ctx.domain = some B →
    wildcardRoute (d.byDomain.erase ctx.domain) ctx.domain = some B
  port : d.byPort.lookup ctx.port ≠ some B
  slug : d.bySlug.lookup ctx.slug ≠ some B

def domainRoute (byDomain : Table Bytes Bytes) (host : Bytes) : Option Bytes :=
  match byDomain.lookup host with
  | some id => some id
  | none => wildcardRoute byDomain host

variable {byDomain : Table Bytes Bytes} {d : Dispatcher} {a b ctx : TunnelContext}
  {A B host k id : Bytes}

lemma wildcardRoute_erase (h : wildcardRoute byDomain host = some id) :
    wildcardRoute (byDomain.erase k) host = some id ∨ byDomain.lookup k = some id ∧
      wildcardRoute (byDomain.erase k) host = wildcardRoute (byDomain.erase k) k := by
  induction host with
  | nil => cases h
  | cons c rest ih =>
    -- only a suffix from a dot on is looked up
    by_cases hc : c = 46
    · subst c
      simp only [wildcardRoute, if_true] at h ⊢
      cases hl : byDomain.lookup (42 :: 46 :: rest) with
      | some i =>
        rw [hl] at h
        obtain rfl := Option.some.inj h
        by_cases hk : 42 :: 46 :: rest = k
        · subst k
          refine Or.inr ⟨hl, ?_⟩
          simp [wildcardRoute]
        · rw [Table.lookup_erase, if_neg hk, hl]
          exact Or.inl rfl
      | none =>
        rw [hl] at h
        rw [Table.lookup_erase_eq_none hl]
        exact ih h
    · simp only [wildcardRoute, if_neg hc] at h ⊢
      exact ih h

lemma domainRoute_erase (h : domainRoute byDomain host = some id) :
    domainRoute (byDomain.erase k) host = some id ∨ byDomain.lookup k = some id ∧
      domainRoute (byDomain.erase k) host = wildcardRoute (byDomain.erase k) k := by
  simp only [domainRoute] at h ⊢
  cases hl : byDomain.lookup host with
  | some i =>
    rw [hl] at h
    obtain rfl := Option.some.inj h
    by_cases hk : host = k
    · subst k
      refine Or.inr ⟨hl, ?_⟩
      simp
    · rw [Table.lookup_erase, if_neg hk, hl]
      exact Or.inl rfl
  | none =>
    rw [hl] at h
    rw [Table.lookup_erase_eq_none hl]
    exact wildcardRoute_erase h

lemma lookup_eq (d : Dispatcher) (host : Bytes) :
    d.lookup host = (domainRoute d.byDomain host).bind d.tunnels.lookup := by
  by_cases h : host = []
  · subst host
    simp [Dispatcher.lookup, domainRoute, wildcardRoute, d.domain_set]
  · simp only [Dispatcher.lookup, domainRoute, if_neg h]
    cases d.byDomain.lookup host <;> rfl

lemma lookupByPort_eq (d : Dispatcher) (port : ℤ) :
    d.lookupByPort port = resolve d.tunnels d.byPort port := by
  simp only [Dispatcher.lookupByPort, resolve]
  cases d.byPort.lookup port <;> rfl

lemma lookupBySlug_eq (d : Dispatcher) (slug : Bytes) :
    d.lookupBySlug slug = resolve d.tunnels d.bySlug slug := by
  by_cases h : slug = []
  · subst slug
    simp [Dispatcher.lookupBySlug, resolve, d.slug_set]
  · simp only [Dispatcher.lookupBySlug, resolve, if_neg h]
    cases d.bySlug.lookup slug <;> rfl

lemma route_of_bind {route : Option Bytes} (h : route.bind d.tunnels.lookup = some ctx) :
    route = some ctx.tunnelID ∧ d.tunnels.lookup ctx.tunnelID = some ctx := by
  obtain ⟨id, rfl, hid⟩ := Option.bind_eq_some_iff.mp h
  obtain ⟨rfl, _⟩ := d.keyed id ctx hid
  exact ⟨rfl, hid⟩

lemma drop_byDomain (d : Dispatcher) (id : Bytes) (ctx : TunnelContext) :
    (d.drop id ctx).byDomain = d.byDomain.erase ctx.domain := by
  by_cases h : ctx.domain = []
  · simp only [Dispatcher.drop, h, ne_eq, not_true_eq_false, if_false]
    apply Finmap.ext_lookup
    intro k
    rw [Table.lookup_erase]
    split_ifs with hk
    · rw [hk, d.domain_set]
    · rfl
  · simp [Dispatcher.drop, h]

lemma portKey_ne {port : ℤ} (h : d.byPort.lookup port = some B)
    (hp : d.byPort.lookup ctx.port ≠ some B) : portKey ctx ≠ some port := by
  intro hk
  rw [(portKey_eq ctx port B h).mp hk] at hp
  exact hp h

lemma slugKey_ne {slug : Bytes} (h : d.bySlug.lookup slug = some B)
    (hs : d.bySlug.lookup ctx.slug ≠ some B) : slugKey ctx ≠ some slug := by
  intro hk
  rw [(slugKey_eq ctx slug B h).mp hk] at hs
  exact hs h

lemma isolated_of_unshared (hne : A ≠ B) (ha : d.tunnels.lookup A = some a)
    (h : ∀ b, d.tunnels.lookup B = some b → Unshared d a B) : Isolated d A B := by
  have hdrop : d.unregister A = d.drop A a := by simp only [Dispatcher.unregister, ha]
  obtain ⟨_, eport, eslug⟩ := drop_indexes (d := d) a A
  refine ⟨fun host ctx hl hB => ?_, fun port ctx hl hB => ?_, fun slug ctx hl hB => ?_⟩
  · rw [lookup_eq] at hl
    obtain ⟨hr, hctx⟩ := route_of_bind hl
    rw [hB] at hr hctx
    have hroute : domainRoute (d.byDomain.erase a.domain) host = some B := by
      rcases domainRoute_erase hr with hr' | ⟨hk, he⟩
      · exact hr'
      · rw [he]
        exact (h ctx hctx).domain hk
    rw [lookup_eq, hdrop, drop_byDomain, hroute]
    show (d.tunnels.erase A).lookup B = some ctx
    rw [Table.lookup_erase, if_neg hne.symm, hctx]
  · rw [lookupByPort_eq] at hl
    obtain ⟨hr, hctx⟩ := route_of_bind hl
    rw [hB] at hr hctx
    rw [lookupByPort_eq, hdrop, eport, ← hl]
    exact resolve_erase hne.symm hr (portKey_ne hr (h ctx hctx).port)
  · rw [lookupBySlug_eq] at hl
    obtain ⟨hr, hctx⟩ := route_of_bind hl
    rw [hB] at hr hctx
    rw [lookupBySlug_eq, hdrop, eslug, ← hl]
    exact resolve_erase hne.symm hr (slugKey_ne hr (h ctx hctx).slug)

lemma unshared_of_isolated (ha : d.tunnels.lookup A = some a) (hb : d.tunnels.lookup B = some b)
    (h : Isolated d A B) : Unshared d a B := by
  have hdrop : d.unregister A = d.drop A a := by simp only [Dispatcher.unregister, ha]
  obtain ⟨_, eport, eslug⟩ := drop_indexes (d := d) a A
  obtain ⟨hkeyed, _⟩ := d.keyed B b hb
  refine ⟨fun hr => ?_, fun hr => ?_, fun hr => ?_⟩
  · have hl : d.lookup a.domain = some b := by
      rw [lookup_eq]
      simp [domainRoute, hr, hb]
    have hl' := h.domain a.domain b hl hkeyed
    rw [lookup_eq, hdrop, drop_byDomain] at hl'
    obtain ⟨hroute, _⟩ := route_of_bind (d := d.drop A a) hl'
    simpa [domainRoute, hkeyed] using hroute
  · have hl : d.lookupByPort a.port = some b := by
      simp [lookupByPort_eq, resolve, hr, hb]
    have hl' := h.port a.port b hl hkeyed
    rw [lookupByPort_eq, hdrop, resolve, eport, lookup_remove,
      if_pos ((portKey_eq a a.port B hr).mpr rfl)] at hl'
    cases hl'
  · have hl : d.lookupBySlug a.slug = some b := by
      simp [lookupBySlug_eq, resolve, hr, hb]
    have hl' := h.slug a.slug b hl hkeyed
    rw [lookupBySlug_eq, hdrop, resolve, eslug, lookup_remove,
      if_pos ((slugKey_eq a a.slug B hr).mpr rfl)] at hl'
    cases hl'

/-- Unregistering a tunnel leaves the lookups of another alone if and only if no key of the first
leads to the second, save a domain that a wildcard of the second takes over. -/
theorem unregister_isolated (d : Dispatcher) (A B : Bytes) (hne : A ≠ B) :
    Isolated d A B ↔ ∀ a b, d.tunnels.lookup A = some a → d.tunnels.lookup B = some b →
      Unshared d a B := by
  constructor
  · intro h a b ha hb
    exact unshared_of_isolated ha hb h
  · intro h
    cases ha : d.tunnels.lookup A with
    | none =>
      have hd : d.unregister A = d := by simp only [Dispatcher.unregister, ha]
      refine ⟨?_, ?_, ?_⟩ <;> intro k ctx hl _ <;> rw [hd] <;> exact hl
    | some a => exact isolated_of_unshared hne ha fun b hb => h a b ha hb

def registered (a b : TunnelContext) : Dispatcher :=
  Op.apply (Op.apply newDispatcher (.register a)) (.register b)

theorem unregister_isolated_distinct :
    Isolated (registered { tunnelID := ascii "A", domain := ascii "a.dev" }
      { tunnelID := ascii "B", domain := ascii "b.dev" }) (ascii "A") (ascii "B") := by
  apply (unregister_isolated _ _ _ (by decide)).mpr
  intro a b ha hb
  obtain rfl : { tunnelID := ascii "A", domain := ascii "a.dev" } = a := Option.some.inj ha
  exact ⟨by decide, by decide, by decide⟩

theorem unregister_isolated_fails :
    run opStep newDispatcher [.register { tunnelID := ascii "A", domain := ascii "a.dev" },
        .register { tunnelID := ascii "B", domain := ascii "a.dev" }] =
      some (registered { tunnelID := ascii "A", domain := ascii "a.dev" }
        { tunnelID := ascii "B", domain := ascii "a.dev" }) ∧
    ¬ Isolated (registered { tunnelID := ascii "A", domain := ascii "a.dev" }
      { tunnelID := ascii "B", domain := ascii "a.dev" }) (ascii "A") (ascii "B") := by
  refine ⟨rfl, fun h => ?_⟩
  have hl := h.domain (ascii "a.dev") { tunnelID := ascii "B", domain := ascii "a.dev" } (by decide)
    (by decide)
  revert hl
  decide

end OmniTun.Relay.DispatcherIsolation
