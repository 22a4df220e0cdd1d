import OmniTun.Web.ApiClient

/-! One refresh at a time, whatever the order in which requests are resumed. -/

namespace OmniTun.Web.ApiClient

open Foundation.Transition

variable {ι Token : Type} [DecidableEq ι]

/-! The parts of a page that the operations leave alone. -/

section frame

variable {s : Page ι Token}

lemma getElem_set {promises : List (Promise Token)} {p q : ℕ} {x y z : Promise Token}
    (hx : promises[p]? = some x) (h : (promises.set p y)[q]? = some z) :
    (q = p ∧ z = y) ∨ (q ≠ p ∧ promises[q]? = some z) := by
  have hlt : p < promises.length := (List.getElem?_eq_some_iff.mp hx).1
  rw [List.getElem?_set] at h
  split_ifs at h with hq
  · exact .inl ⟨hq.symm, (Option.some.inj h).symm⟩
  · exact .inr ⟨Ne.symm hq, h⟩

omit [DecidableEq ι] in
lemma answer_frame (p : ℕ) (refresh : Token) (a : RefreshAnswer) : ∃ x,
    (s.answer p refresh a).promises = s.promises.set p x ∧
      (s.answer p refresh a).requests = s.requests ∧
      (s.answer p refresh a).refreshPromise = s.refreshPromise := by
  cases a with
  | lost refreshed => cases refreshed <;> exact ⟨.resolved none, rfl, rfl, rfl⟩
  | refused => exact ⟨.resolved none, rfl, rfl, rfl⟩
  | ok => exact ⟨.reading, rfl, rfl, rfl⟩

omit [DecidableEq ι] in
lemma body_frame (p : ℕ) (data : Option (TokenPair Token)) : ∃ x,
    (s.body p data).promises = s.promises.set p (.resolved x) ∧
      (s.body p data).requests = s.requests ∧
      (s.body p data).refreshPromise = s.refreshPromise ∧ (s.body p data).log = s.log := by
  cases data with
  | none => exact ⟨none, rfl, rfl, rfl, rfl⟩
  | some data =>
    obtain ⟨access, refresh⟩ := data
    cases access <;> cases refresh <;> exact ⟨_, rfl, rfl, rfl, rfl⟩

omit [DecidableEq ι] in
lemma doRefresh_frame : ∃ x, s.doRefresh.promises = s.promises ++ [x] ∧
    s.doRefresh.requests = s.requests := by
  rw [Page.doRefresh]
  cases s.refreshToken with
  | none => exact ⟨_, rfl, rfl⟩
  | some refresh => exact ⟨_, rfl, rfl⟩

end frame

/-! One refresh at a time. -/

structure Single (s : Page ι Token) : Prop where
  creator : ∀ i p, (s.requests i).stage = .creating p → s.refreshPromise = some p
  unique : ∀ i j p q, (s.requests i).stage = .creating p → (s.requests j).stage = .creating q → i = j
  current : ∀ p x, s.promises[p]? = some x → x.Pending → s.refreshPromise = some p

namespace Single

variable {s t : Page ι Token}

lemma setRequest (h : Single s) {i : ι} {r : Request Token} (hr : ∀ p, r.stage ≠ .creating p) :
    Single (s.setRequest i r) := by
  have hold : ∀ j p, ((s.setRequest i r).requests j).stage = .creating p →
      (s.requests j).stage = .creating p := by
    intro j p hj
    by_cases hij : j = i
    · subst hij
      simp only [Page.setRequest, Function.update_self] at hj
      exact absurd hj (hr p)
    · simpa [Page.setRequest, hij] using hj
  exact
    { creator := fun j p hj => h.creator j p (hold j p hj)
      unique := fun j k p q hj hk => h.unique j k p q (hold j p hj) (hold k q hk)
      current := h.current }

omit [DecidableEq ι] in
lemma setPromise (h : Single s) {p : ℕ} {x y : Promise Token} (hx : s.promises[p]? = some x)
    (hpending : x.Pending) (hp : t.promises = s.promises.set p y) (hr : t.requests = s.requests)
    (hc : t.refreshPromise = s.refreshPromise) : Single t := by
  refine ⟨?_, ?_, ?_⟩
  · rw [hr, hc]
    exact h.creator
  · rw [hr]
    exact h.unique
  · rw [hp, hc]
    intro q z hz hz'
    rcases getElem_set hx hz with ⟨rfl, -⟩ | ⟨-, hz⟩
    · exact h.current q x hx hpending
    · exact h.current q z hz hz'

lemma create (h : Single s) (hnone : s.refreshPromise = none) (i : ι) :
    Single (s.refresh i) := by
  obtain ⟨x, hpromises, hrequests⟩ := doRefresh_frame (s := s)
  have hno : ∀ j p, (s.requests j).stage ≠ .creating p := by
    intro j p hj
    rw [h.creator j p hj] at hnone
    cases hnone
  have hresolved : ∀ (p : ℕ) (y : Promise Token), s.promises[p]? = some y → ¬ y.Pending := by
    intro p y hp hy
    rw [h.current p y hp hy] at hnone
    cases hnone
  have hcreating : ∀ j p, ((s.refresh i).requests j).stage = .creating p →
      j = i ∧ p = s.promises.length := by
    intro j p hj
    simp only [Page.refresh, hnone, Page.setRequest, hrequests] at hj
    by_cases hij : j = i
    · subst hij
      simp only [Function.update_self, Stage.creating.injEq] at hj
      exact ⟨rfl, hj.symm⟩
    · rw [Function.update_of_ne hij] at hj
      exact absurd hj (hno j p)
  have hpromise : (s.refresh i).refreshPromise = some s.promises.length := by
    simp only [Page.refresh, hnone, Page.setRequest]
  refine ⟨?_, ?_, ?_⟩
  · intro j p hj
    rw [hpromise, (hcreating j p hj).2]
  · intro j k p q hj hk
    rw [(hcreating j p hj).1, (hcreating k q hk).1]
  · intro p y hp hy
    simp only [Page.refresh, hnone, Page.setRequest, hpromises] at hp
    rw [hpromise]
    rcases Nat.lt_trichotomy p s.promises.length with hlt | rfl | hgt
    · rw [List.getElem?_append_left hlt] at hp
      exact absurd hy (hresolved p y hp)
    · rfl
    · rw [List.getElem?_eq_none (by simp; omega)] at hp
      cases hp

lemma change (h : Single s) (hc : Change s t) : Single t := by
  cases hc with
  | starts i hi =>
    have hs : Single { s with token := s.token.or s.accessToken } := ⟨h.creator, h.unique, h.current⟩
    exact hs.setRequest fun p hp => by cases hp
  | finishes i hi => exact h.setRequest fun p hp => by cases hp
  | refreshes i hi ht =>
    cases hp : s.refreshPromise with
    | none => exact h.create hp i
    | some p =>
      simp only [Page.refresh, hp]
      exact h.setRequest fun p hp => by cases hp
  | answers p refresh a hp =>
    obtain ⟨x, hpromises, hrequests, hpromise⟩ := answer_frame (s := s) p refresh a
    exact h.setPromise hp trivial hpromises hrequests hpromise
  | reads p data hp hf =>
    obtain ⟨x, hpromises, hrequests, hpromise, -⟩ := body_frame (s := s) p data
    exact h.setPromise hp trivial hpromises hrequests hpromise
  | settles i p result hi hp =>
    -- the promise that is forgotten is resolved, and no other was pending
    have hcurrent := h.creator i p hi
    have hold : ∀ j q, (Function.update s.requests i
        { s.requests i with stage := .created p result } j).stage = .creating q → False := by
      intro j q hj
      by_cases hij : j = i
      · subst hij
        simp at hj
      · rw [Function.update_of_ne hij] at hj
        exact hij (h.unique j i q p hj hi)
    refine ⟨fun j q hj => (hold j q hj).elim, fun j k q q' hj _ => (hold j q hj).elim, ?_⟩
    intro q x hq hx
    have heq := (h.current q x hq hx).symm.trans hcurrent
    obtain rfl := Option.some.inj heq
    rw [show s.promises[q]? = some x from hq] at hp
    obtain rfl := Option.some.inj hp
    exact hx.elim
  | proceeds i p result hi =>
    cases result with
    | none => exact h.setRequest fun p hp => by cases hp
    | some newToken => exact h.setRequest fun p hp => by cases hp

end Single

/-! Refresh tokens that have been used up. -/

/-- No refresh token is sent after a refresh with it, latest event first. -/
def NotReplayed (log : List (Event Token)) : Prop :=
  log.Pairwise fun newer older => ∀ r, newer = .refreshSent r → older ≠ .refreshed r

def Quiet (s : Page ι Token) : Prop :=
  ∀ (p : ℕ) (x : Promise Token), s.promises[p]? = some x → ¬ x.Pending

structure Usable (s : Page ι Token) : Prop where
  ordered : NotReplayed s.log
  stored : s.token.isSome ∨ s.accessToken.isSome → Quiet s →
    ∀ r, s.refreshToken = some r → .refreshed r ∉ s.log

namespace Usable

variable {s t : Page ι Token}

omit [DecidableEq ι] in
lemma cleared (h : NotReplayed t.log) (ht : t.token = none) (ha : t.accessToken = none) :
    Usable t := by
  refine ⟨h, fun hsome => ?_⟩
  rcases hsome with hsome | hsome
  · simp [ht] at hsome
  · simp [ha] at hsome

omit [DecidableEq ι] in
lemma refreshed (h : NotReplayed s.log) (refresh : Token) :
    NotReplayed (Event.refreshed refresh :: s.log) := by
  refine List.pairwise_cons.mpr ⟨?_, h⟩
  rintro e - r hr
  cases hr

lemma create (h : Usable s) (hq : Quiet s) (ht : s.token.isSome) (hnone : s.refreshPromise = none)
    (i : ι) : Usable (s.refresh i) := by
  cases hr : s.refreshToken with
  | none =>
    simp only [Page.refresh, hnone, Page.doRefresh, hr]
    refine ⟨h.ordered, fun _ _ r hr' => ?_⟩
    cases hr'
  | some refresh =>
    simp only [Page.refresh, hnone, Page.doRefresh, hr]
    have hunused := h.stored (.inl ht) hq refresh hr
    refine ⟨List.pairwise_cons.mpr ⟨fun e he r hr he' => ?_, h.ordered⟩, fun _ hquiet => ?_⟩
    · obtain rfl := Event.refreshSent.inj hr
      exact hunused (he' ▸ he)
    · -- the new refresh is under way
      exact (hquiet s.promises.length (.answering refresh) (by simp [Page.setRequest]) trivial).elim

lemma change (h : Usable s) (hs : Single s) (hc : Change s t) : Usable t := by
  cases hc with
  | starts i hi =>
    refine ⟨h.ordered, fun hsome hq => h.stored ?_ hq⟩
    rcases hsome with hsome | hsome
    · exact Bool.or_eq_true_iff.mp (Option.isSome_or.symm.trans hsome)
    · exact .inr hsome
  | finishes i hi => exact ⟨h.ordered, h.stored⟩
  | refreshes i hi ht =>
    cases hp : s.refreshPromise with
    | none =>
      have hq : Quiet s := by
        intro p x hx hpending
        rw [hs.current p x hx hpending] at hp
        cases hp
      exact h.create hq ht hp i
    | some p =>
      simp only [Page.refresh, hp]
      exact ⟨h.ordered, h.stored⟩
  | answers p refresh a hp =>
    cases a with
    | lost accepted =>
      cases accepted with
      | false => exact cleared h.ordered rfl rfl
      | true => exact cleared (refreshed h.ordered refresh) rfl rfl
    | refused => exact cleared h.ordered rfl rfl
    | ok =>
      refine ⟨refreshed h.ordered refresh, fun _ hquiet => ?_⟩
      have hlt := (List.getElem?_eq_some_iff.mp hp).1
      exact (hquiet p .reading (by simp [Page.answer, Page.setPromise, Page.record, hlt]) trivial).elim
  | reads p data hp hf =>
    cases data with
    | none => exact cleared h.ordered rfl rfl
    | some data =>
      obtain ⟨access, refresh⟩ := data
      obtain ⟨r, rfl, hfresh⟩ := hf
      cases access <;> exact ⟨h.ordered, fun _ _ r' hr' => Option.some.inj hr' ▸ hfresh⟩
  | settles i p result hi hp => exact ⟨h.ordered, h.stored⟩
  | proceeds i p result hi => cases result <;> exact ⟨h.ordered, h.stored⟩

end Usable

/-! Requests that wait for a refresh. -/

def Consistent (promises : List (Promise Token)) (r : Request Token) : Prop :=
  match r.stage with
  | .idle => r.sent = [] ∧ r.joined = none
  | .fetching => (∃ x, r.sent = [x]) ∧ r.joined = none
  | .creating p | .waiting p => (∃ x, r.sent = [x]) ∧ r.joined = some p
  | .created p result =>
    (∃ x, r.sent = [x]) ∧ r.joined = some p ∧ promises[p]? = some (.resolved result)
  | .retrying => ∃ x p t, r.sent = [x, some t] ∧ r.joined = some p ∧
      promises[p]? = some (.resolved (some t))
  | .done => ((∃ x, r.sent = [x]) ∧ ∀ p, r.joined = some p → promises[p]? = some (.resolved none)) ∨
      ∃ x p t, r.sent = [x, some t] ∧ r.joined = some p ∧ promises[p]? = some (.resolved (some t))

def ResolvedStay (promises promises' : List (Promise Token)) : Prop :=
  ∀ (p : ℕ) (x : Option Token), promises[p]? = some (.resolved x) → promises'[p]? = some (.resolved x)

namespace Consistent

variable {promises promises' : List (Promise Token)} {r : Request Token}

lemma mono (h : Consistent promises r) (hstay : ResolvedStay promises promises') :
    Consistent promises' r := by
  unfold Consistent at h ⊢
  split at h
  · exact h
  · exact h
  · exact h
  · exact h
  · exact ⟨h.1, h.2.1, hstay _ _ h.2.2⟩
  · obtain ⟨x, p, t, hsent, hjoined, hp⟩ := h
    exact ⟨x, p, t, hsent, hjoined, hstay _ _ hp⟩
  · rcases h with ⟨hsent, hjoined⟩ | ⟨x, p, t, hsent, hjoined, hp⟩
    · exact .inl ⟨hsent, fun p hp => hstay _ _ (hjoined p hp)⟩
    · exact .inr ⟨x, p, t, hsent, hjoined, hstay _ _ hp⟩

lemma finish (h : Consistent promises r) (hr : r.stage = .fetching ∨ r.stage = .retrying) :
    Consistent promises { r with stage := .done } := by
  rcases hr with hr | hr
  · rw [Consistent, hr] at h
    obtain ⟨hsent, hjoined⟩ := h
    exact .inl ⟨hsent, fun p hp => by rw [show r.joined = some p from hp] at hjoined; cases hjoined⟩
  · rw [Consistent, hr] at h
    exact .inr h

lemma proceed (hsent : ∃ x, r.sent = [x]) {p : ℕ} (hjoined : r.joined = some p)
    {newToken : Token} (hp : promises[p]? = some (.resolved (some newToken))) :
    Consistent promises { r with stage := .retrying, sent := r.sent ++ [some newToken] } := by
  obtain ⟨x, hx⟩ := hsent
  exact ⟨x, p, newToken, by simp [hx], hjoined, hp⟩

lemma giveUp (hsent : ∃ x, r.sent = [x]) {p : ℕ} (hjoined : r.joined = some p)
    (hp : promises[p]? = some (.resolved none)) : Consistent promises { r with stage := .done } := by
  refine .inl ⟨hsent, fun q hq => ?_⟩
  obtain rfl := Option.some.inj (hjoined.symm.trans hq)
  exact hp

end Consistent

def AllConsistent (s : Page ι Token) : Prop := ∀ i, Consistent s.promises (s.requests i)

namespace AllConsistent

variable {s t : Page ι Token}

lemma setRequest (h : AllConsistent s) {i : ι} {r : Request Token} (hr : Consistent s.promises r) :
    AllConsistent (s.setRequest i r) := by
  intro j
  by_cases hij : j = i
  · subst hij
    simpa [Page.setRequest] using hr
  · simpa [Page.setRequest, hij] using h j

omit [DecidableEq ι] in
lemma setPromise (h : AllConsistent s) {p : ℕ} {x y : Promise Token} (hx : s.promises[p]? = some x)
    (hpending : x.Pending) (hp : t.promises = s.promises.set p y) (hr : t.requests = s.requests) :
    AllConsistent t := by
  have hstay : ResolvedStay s.promises t.promises := by
    intro q z hz
    have hq : p ≠ q := by
      rintro rfl
      rw [hx] at hz
      obtain rfl := Option.some.inj hz
      exact hpending
    rw [hp, List.getElem?_set_ne hq, hz]
  intro i
  rw [hr]
  exact (h i).mono hstay

lemma refresh (h : AllConsistent s) {i : ι} (hi : (s.requests i).stage = .fetching) :
    AllConsistent (s.refresh i) := by
  have hr := h i
  rw [Consistent, hi] at hr
  cases hp : s.refreshPromise with
  | some p =>
    simp only [Page.refresh, hp]
    exact h.setRequest ⟨hr.1, rfl⟩
  | none =>
    obtain ⟨x, hpromises, hrequests⟩ := doRefresh_frame (s := s)
    have hstay : ResolvedStay s.promises s.doRefresh.promises := by
      intro p x hx
      rw [hpromises, List.getElem?_append_left (List.getElem?_eq_some_iff.mp hx).1, hx]
    have hall : AllConsistent { s.doRefresh with refreshPromise := some s.promises.length } := by
      intro j
      simp only [hrequests]
      exact (h j).mono hstay
    simp only [Page.refresh, hp]
    exact hall.setRequest ⟨hr.1, rfl⟩

lemma change (h : AllConsistent s) (hc : Change s t) : AllConsistent t := by
  cases hc with
  | starts i hi =>
    have hs : AllConsistent { s with token := s.token.or s.accessToken } := h
    exact hs.setRequest ⟨⟨_, rfl⟩, rfl⟩
  | finishes i hi => exact h.setRequest ((h i).finish hi)
  | refreshes i hi ht => exact h.refresh hi
  | answers p refresh a hp =>
    obtain ⟨x, hpromises, hrequests, -⟩ := answer_frame (s := s) p refresh a
    exact h.setPromise hp trivial hpromises hrequests
  | reads p data hp hf =>
    obtain ⟨x, hpromises, hrequests, -⟩ := body_frame (s := s) p data
    exact h.setPromise hp trivial hpromises hrequests
  | settles i p result hi hp =>
    have hs : AllConsistent { s with refreshPromise := none } := h
    have hr := h i
    rw [Consistent, hi] at hr
    exact hs.setRequest ⟨hr.1, hr.2, hp⟩
  | proceeds i p result hi =>
    have hr : (∃ x, (s.requests i).sent = [x]) ∧ (s.requests i).joined = some p ∧
        s.promises[p]? = some (.resolved result) := by
      have hr := h i
      rcases hi with hi | ⟨hi, hp⟩
      · rw [Consistent, hi] at hr
        exact hr
      · rw [Consistent, hi] at hr
        exact ⟨hr.1, hr.2, hp⟩
    obtain ⟨hsent, hjoined, hp⟩ := hr
    cases result with
    | none => exact h.setRequest (.giveUp hsent hjoined hp)
    | some newToken => exact h.setRequest (.proceed hsent hjoined hp)

end AllConsistent

structure Inv (s : Page ι Token) : Prop where
  single : Single s
  usable : Usable s
  consistent : AllConsistent s

lemma inv_step (s : Page ι Token) (a : Action ι Token) (t : Page ι Token) (h : Inv s)
    (hf : Fresh s a) (ht : step s a = some t) : Inv t :=
  have hc := step_change hf ht
  ⟨h.single.change hc, h.usable.change h.single hc, h.consistent.change hc⟩

end OmniTun.Web.ApiClient
