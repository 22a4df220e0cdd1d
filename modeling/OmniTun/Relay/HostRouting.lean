import OmniTun.Foundation.LongestSuffix
import OmniTun.Relay.Dispatcher

/-! Which tunnel the dispatcher finds for a host. -/

namespace OmniTun.Relay.HostRouting

open OmniTun.Foundation

def Registered (d : Dispatcher) (domain : Bytes) (ctx : TunnelContext) : Prop :=
  ∃ id, d.byDomain.lookup domain = some id ∧ d.tunnels.lookup id = some ctx

def Wildcard (d : Dispatcher) (suffix : Bytes) : Prop :=
  suffix.head? = some 46 ∧ ∃ ctx, Registered d (42 :: suffix) ctx

def Indexed (d : Dispatcher) : Prop :=
  ∀ domain id, d.byDomain.lookup domain = some id → ∃ ctx, d.tunnels.lookup id = some ctx

variable {d : Dispatcher} {host domain id : Bytes} {ctx : TunnelContext}

lemma indexed_newDispatcher : Indexed newDispatcher := by
  intro domain id h
  cases h

lemma indexed_store (hd : Indexed d) (h : ctx.tunnelID ≠ []) : Indexed (d.store ctx h) := by
  intro domain id hid
  show ∃ c, (d.tunnels.insert ctx.tunnelID ctx).lookup id = some c
  rw [Table.lookup_insert]
  split_ifs with hc
  · exact ⟨ctx, rfl⟩
  · apply hd domain id
    have hid' : (if ctx.domain ≠ [] then d.byDomain.insert ctx.domain ctx.tunnelID
        else d.byDomain).lookup domain = some id := hid
    split_ifs at hid' with hdomain
    · rw [Table.lookup_insert] at hid'
      split_ifs at hid' with hk
      · exact absurd (Option.some.inj hid').symm hc
      · exact hid'
    · exact hid'

lemma registered_of_lookup (hd : Indexed d) (h : d.byDomain.lookup domain = some id) :
    ∃ ctx, Registered d domain ctx := by
  obtain ⟨ctx, hctx⟩ := hd domain id h
  exact ⟨ctx, id, h, hctx⟩

lemma not_registered (h : d.byDomain.lookup domain = none) (ctx : TunnelContext) :
    ¬ Registered d domain ctx := by
  rintro ⟨id, hid, -⟩
  rw [h] at hid
  cases hid

lemma registered_iff (h : d.byDomain.lookup domain = some id) :
    Registered d domain ctx ↔ d.lookupByID id = some ctx := by
  constructor
  · rintro ⟨id', hid', hctx⟩
    obtain rfl := Option.some.inj (h.symm.trans hid')
    exact hctx
  · intro hctx
    exact ⟨id, h, hctx⟩

lemma wildcard_nil : ¬ Wildcard d [] := by
  rintro ⟨h, -⟩
  cases h

lemma wildcardRoute_iff (hd : Indexed d) (host : Bytes) (ctx : TunnelContext) :
    (wildcardRoute d.byDomain host).bind d.lookupByID = some ctx ↔
      ∃ s, LongestSuffix (Wildcard d) host s ∧ Registered d (42 :: s) ctx := by
  induction host with
  | nil =>
    constructor
    · intro h
      cases h
    · rintro ⟨s, hs, -⟩
      exact absurd hs (LongestSuffix.not_nil wildcard_nil)
  | cons c rest ih =>
    have hskip (hnot : ¬ Wildcard d (c :: rest)) :
        (∃ s, LongestSuffix (Wildcard d) (c :: rest) s ∧ Registered d (42 :: s) ctx) ↔
          ∃ s, LongestSuffix (Wildcard d) rest s ∧ Registered d (42 :: s) ctx := by
      simp only [LongestSuffix.cons_iff hnot]
    by_cases hc : c = 46
    · cases hl : d.byDomain.lookup (42 :: c :: rest) with
      | none =>
        have hnot : ¬ Wildcard d (c :: rest) := fun h => not_registered hl _ h.2.choose_spec
        simp only [wildcardRoute, hc, if_true]
        rw [← hc, hl, hskip hnot]
        exact ih
      | some id =>
        have hwild : Wildcard d (c :: rest) := ⟨by simp [hc], registered_of_lookup hd hl⟩
        have hroute : wildcardRoute d.byDomain (c :: rest) = some id := by
          rw [wildcardRoute, if_pos hc, hl]
        rw [hroute, Option.bind_some, ← registered_iff hl]
        simp only [LongestSuffix.self_iff hwild, exists_eq_left]
    · have hnot : ¬ Wildcard d (c :: rest) := fun h => hc (Option.some.inj h.1)
      rw [wildcardRoute, if_neg hc, hskip hnot]
      exact ih

lemma lookup_exact (hhost : host ≠ []) (h : d.byDomain.lookup host = some id) :
    d.lookup host = d.lookupByID id := by
  simp only [Dispatcher.lookup, hhost, if_false, h]

lemma lookup_wildcard (hhost : host ≠ []) (h : d.byDomain.lookup host = none) :
    d.lookup host = (wildcardRoute d.byDomain host).bind d.lookupByID := by
  simp only [Dispatcher.lookup, hhost, if_false, h]

lemma lookup_iff (hd : Indexed d) (hhost : host ≠ []) (ctx : TunnelContext) :
    d.lookup host = some ctx ↔ Registered d host ctx ∨
      (∀ c, ¬ Registered d host c) ∧
        ∃ s, LongestSuffix (Wildcard d) host s ∧ Registered d (42 :: s) ctx := by
  cases hl : d.byDomain.lookup host with
  | some id =>
    obtain ⟨c, hc⟩ := registered_of_lookup hd hl
    rw [lookup_exact hhost hl, ← registered_iff hl]
    constructor
    · exact Or.inl
    · rintro (h | ⟨hnot, -⟩)
      · exact h
      · exact absurd hc (hnot c)
  | none =>
    have hnot := not_registered hl
    rw [lookup_wildcard hhost hl, wildcardRoute_iff hd]
    constructor
    · intro h
      exact .inr ⟨hnot, h⟩
    · rintro (h | ⟨-, h⟩)
      · exact absurd h (hnot ctx)
      · exact h

lemma lookup_none_iff (hd : Indexed d) (hhost : host ≠ []) :
    d.lookup host = none ↔
      (∀ c, ¬ Registered d host c) ∧ ∀ s, s <:+ host → ¬ Wildcard d s := by
  rw [Option.eq_none_iff_forall_ne_some]
  constructor
  · intro h
    have hexact : ∀ c, ¬ Registered d host c := by
      intro c hc
      exact h c ((lookup_iff hd hhost c).mpr (.inl hc))
    refine ⟨hexact, fun s hs hwild => ?_⟩
    obtain ⟨t, ht⟩ := LongestSuffix.of_suffix hwild hs
    obtain ⟨ctx, hctx⟩ := ht.holds.2
    exact h ctx ((lookup_iff hd hhost ctx).mpr (.inr ⟨hexact, t, ht, hctx⟩))
  · rintro ⟨hexact, hwild⟩ ctx h
    rcases (lookup_iff hd hhost ctx).mp h with h | ⟨-, s, hs, -⟩
    · exact hexact ctx h
    · exact hwild s hs.suffix hs.holds

theorem lookup_routes (hd : Indexed d) (hhost : host ≠ []) :
    (∀ ctx, d.lookup host = some ctx ↔ Registered d host ctx ∨
      (∀ c, ¬ Registered d host c) ∧
        ∃ s, LongestSuffix (Wildcard d) host s ∧ Registered d (42 :: s) ctx) ∧
    (d.lookup host = none ↔
      (∀ c, ¬ Registered d host c) ∧ ∀ s, s <:+ host → ¬ Wildcard d s) ∧
    (∀ s, s <:+ host → Wildcard d s → (∀ c, ¬ Registered d host c) →
      ∃ t ctx, t <:+ host ∧ t.head? = some 46 ∧ s.length ≤ t.length ∧
        Registered d (42 :: t) ctx ∧ d.lookup host = some ctx) := by
  refine ⟨lookup_iff hd hhost, lookup_none_iff hd hhost, fun s hs hwild hexact => ?_⟩
  obtain ⟨t, ht⟩ := LongestSuffix.of_suffix hwild hs
  obtain ⟨hdot, ctx, hctx⟩ := ht.holds
  have hlookup := (lookup_iff hd hhost ctx).mpr (.inr ⟨hexact, t, ht, hctx⟩)
  exact ⟨t, ctx, ht.suffix, hdot, ht.longest s hs hwild, hctx, hlookup⟩

def wildcardContext (tunnelID domain : String) : TunnelContext :=
  { tunnelID := ascii tunnelID, domain := ascii domain }

def wildcardDispatcher : Dispatcher :=
  (newDispatcher.store (wildcardContext "A" "*.b.c") (by decide)).store
    (wildcardContext "B" "*.c") (by decide)

theorem lookup_routes_specific :
    Indexed wildcardDispatcher ∧ ∃ t ctx, t <:+ ascii "a.b.c" ∧ t.head? = some 46 ∧
      (ascii ".b.c").length ≤ t.length ∧ Registered wildcardDispatcher (42 :: t) ctx ∧
        wildcardDispatcher.lookup (ascii "a.b.c") = some ctx := by
  have hd : Indexed wildcardDispatcher := indexed_store (indexed_store indexed_newDispatcher _) _
  have hnone : wildcardDispatcher.byDomain.lookup (ascii "a.b.c") = none := by rfl
  refine ⟨hd,
    (lookup_routes hd (by decide)).2.2 (ascii ".b.c") (by decide) ?_ (not_registered hnone)⟩
  exact ⟨rfl, wildcardContext "A" "*.b.c", ascii "A", by rfl, by rfl⟩

end OmniTun.Relay.HostRouting
