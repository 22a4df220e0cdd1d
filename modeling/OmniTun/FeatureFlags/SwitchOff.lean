import OmniTun.FeatureFlags.Flags

/-! Flags that have been switched off stay off, in every interleaving of the calls. -/

namespace OmniTun.FeatureFlags

open OmniTun.Foundation Transition

variable {text : JsonText}

/-! What the operations on rows do to the rows that are found. -/

namespace Rows

variable {rows : Rows} {key : Bytes} {flag f : Flag}

lemma find_key (h : rows.find key = some f) : f.key = key := by simpa using List.find?_some h

lemma find_of_mem (h : f ∈ rows.flags) : rows.find f.key = some f := by
  cases hfind : rows.find f.key with
  | none =>
    have hne := List.find?_eq_none.mp hfind f h
    simp at hne
  | some g =>
    have hkey := find_key hfind
    exact congrArg some (List.inj_on_of_nodup_map rows.unique (List.mem_of_find?_eq_some hfind) h hkey)

def Off (rows : Rows) (key : Bytes) : Prop := ∀ f ∈ rows.flags, f.key = key → f.enabled = false

lemma off_of_find (h : rows.find key = none) : rows.Off key := by
  intro f hf hkey
  have hne := List.find?_eq_none.mp h f hf
  simp [hkey] at hne

lemma off_update {value : Bytes} {now : ℤ} (h : rows.Off key) (hflag : flag.enabled = true → flag.key ≠ key) :
    (rows.update flag value now).Off key := by
  intro f hf hkey
  obtain ⟨g, hg, rfl⟩ := List.mem_map.mp hf
  split_ifs at hkey ⊢ with hsame
  · have hdisabled := mt hflag (not_not.mpr (hsame.symm.trans hkey))
    simpa using hdisabled
  · exact h g hg hkey

lemma off_update_self {value : Bytes} {now : ℤ} (hflag : flag.enabled = false) :
    (rows.update flag value now).Off flag.key := by
  intro f hf hkey
  obtain ⟨g, hg, rfl⟩ := List.mem_map.mp hf
  split_ifs at hkey ⊢ with hsame
  · exact hflag
  · exact absurd hkey hsame

lemma off_delete (h : rows.Off key) (key' : Bytes) : (rows.delete key').Off key := by
  intro f hf hkey
  exact h f (List.mem_filter.mp hf).1 hkey

lemma off_delete_self : (rows.delete key).Off key := by
  intro f hf hkey
  have hne := (List.mem_filter.mp hf).2
  simp [hkey] at hne

lemma off_insert {hnew : rows.find flag.key = none} (h : rows.Off key) (hkey : flag.key ≠ key) :
    (rows.insert flag hnew).Off key := by
  intro f hf hf'
  rcases List.mem_append.mp hf with hf | hf
  · exact h f hf hf'
  · rw [List.mem_singleton.mp hf] at hf'
    exact absurd hf' hkey

end Rows

inductive Step (text : JsonText) : Action → Call → State → Call → State → Prop
  | hit {key orgID s f} (h : s.manager.cache.lookup key = some f) :
    Step text (.isEnabled key orgID) .idle s .idle
      (s.answer ⟨key, orgID, s.history.off key, f.evaluate text orgID⟩)
  | miss {key orgID s} (h : s.manager.cache.lookup key = none) :
    Step text (.isEnabled key orgID) .idle s
      (.missed key orgID (s.history.off key) (s.history.turnedOn key)) s
  | found {key orgID off turnedOn s f} (h : s.rows.find key = some f) :
    Step text (.load true) (.missed key orgID off turnedOn) s (.loaded key orgID off turnedOn f) s
  | notFound {ok key orgID off turnedOn s} :
    Step text (.load ok) (.missed key orgID off turnedOn) s .idle
      (s.answer ⟨key, orgID, off && turnedOn = s.history.turnedOn key, false⟩)
  | publish {now key orgID off turnedOn s f} :
    Step text (.store now) (.loaded key orgID off turnedOn f) s .idle ((s.setCache f key).answer
      ⟨key, orgID, off && turnedOn = s.history.turnedOn key, f.evaluate text orgID⟩)
  | read {n s} :
    Step text (.refreshCache (some n)) .idle s (.refreshing (s.rows.flags.take n)) s
  | refresh {now flags s} :
    Step text (.store now) (.refreshing flags) s .idle (s.replaceCache flags now)
  | enable {flag now s} (value : Bytes) (h : s.rows.find flag.key ≠ none) (hflag : flag.enabled = true) :
    Step text (.updateFlag flag true now) .idle s
      (.updated flag (s.history.turnedOn flag.key + 1))
      ({ s with rows := s.rows.update flag value now }.turnOn flag.key)
  | disable {flag now s} (value : Bytes) (h : s.rows.find flag.key ≠ none) (hflag : flag.enabled = false) :
    Step text (.updateFlag flag true now) .idle s (.updated flag (s.history.turnedOn flag.key))
      { s with rows := s.rows.update flag value now }
  | disableMissing {flag now s} (h : s.rows.find flag.key = none) (hflag : flag.enabled = false)
    (hvalue : text.jsonb flag.value ≠ none) :
    Step text (.updateFlag flag true now) .idle s .idle (s.turnOff flag.key)
  | scan {flag turnedOn s id createdAt updatedAt} :
    Step text (.load true) (.updated flag turnedOn) s
      (.scanned { flag with id := id, createdAt := createdAt, updatedAt := updatedAt } turnedOn) s
  | update {now flag turnedOn s} (h : flag.enabled = true) :
    Step text (.store now) (.scanned flag turnedOn) s .idle (s.setCache flag flag.key)
  | updateOff {now flag turnedOn s} (h : flag.enabled = false) :
    Step text (.store now) (.scanned flag turnedOn) s .idle
      ((s.setCache flag flag.key).settle flag.key turnedOn)
  | delete {key s} :
    Step text (.deleteFlag key true) .idle s (.deleted key (s.history.turnedOn key))
      { s with rows := s.rows.delete key }
  | uncache {now key turnedOn s} :
    Step text (.store now) (.deleted key turnedOn) s .idle ((s.uncache key).settle key turnedOn)
  | insert {flag : Flag} {id now s} (row : Flag) (hrow : row.key = flag.key)
    (h : s.rows.find row.key = none) :
    Step text (.createFlag flag (some id) now) .idle s
      (.created { flag with id := id, createdAt := now, updatedAt := now })
      ({ s with rows := s.rows.insert row h }.turnOn flag.key)
  | create {now flag s} :
    Step text (.store now) (.created flag) s .idle (s.setCache flag flag.key)
  -- a call that ends without having changed anything
  | give {a l s} (h : ∀ flag now, a = .updateFlag flag true now → l = .idle →
      s.rows.find flag.key = none → text.jsonb flag.value ≠ none → flag.enabled = true)
      (hstore : ∀ now, a ≠ .store now) :
    Step text a l s .idle s

variable {a : Action} {l l' : Call} {s s' : State}

lemma execUpdate_step {flag : Flag} {now : ℤ} :
    Step text (.updateFlag flag true now) .idle s (execUpdate text flag now s).1
      (execUpdate text flag now s).2 := by
  rw [execUpdate]
  cases hvalue : text.jsonb flag.value with
  | none =>
    refine .give (fun f now' h _ _ hf => ?_) (by simp)
    cases h
    exact absurd hvalue hf
  | some value =>
    cases hfind : s.rows.find flag.key with
    | some f =>
      have hne : s.rows.find flag.key ≠ none := by simp [hfind]
      cases hflag : flag.enabled with
      | true => simpa [hflag, State.turnOn] using Step.enable value hne hflag
      | false => simpa [hflag] using Step.disable value hne hflag
    | none =>
      cases hflag : flag.enabled with
      | true =>
        refine .give (fun f now' h _ _ _ => ?_) (by simp)
        cases h
        exact hflag
      | false => exact .disableMissing hfind hflag (by simp [hvalue])

lemma insertFlag_step {flag : Flag} {id : Bytes} {now : ℤ} :
    Step text (.createFlag flag (some id) now) .idle s (insertFlag text flag id now s).1
      (insertFlag text flag id now s).2 := by
  rw [insertFlag]
  cases text.jsonb flag.value with
  | none => exact .give (by simp) (by simp)
  | some value =>
    by_cases h : s.rows.find flag.key = none
    · simp only [h, dif_pos]
      have hkey : ({ flag with id := id, value := value, createdAt := now, updatedAt := now } : Flag).key =
          flag.key := rfl
      exact .insert _ hkey h
    · simp only [h, dif_neg, not_false_eq_true]
      exact .give (by simp) (by simp)

lemma isEnabled_step {key orgID : Bytes}
    (h : next text (.isEnabled key orgID) l s = some (l', s')) : Step text (.isEnabled key orgID) l s l' s' := by
  cases l with
  | idle =>
    rw [next] at h
    cases hcache : s.manager.cache.lookup key with
    | some f =>
      rw [hcache] at h
      cases h
      exact .hit hcache
    | none =>
      rw [hcache] at h
      cases h
      exact .miss hcache
  | _ => cases h

lemma load_step {ok : Bool}
    (h : next text (.load ok) l s = some (l', s')) : Step text (.load ok) l s l' s' := by
  cases l with
  | missed key orgID off turnedOn =>
    rw [next] at h
    cases ok with
    | true =>
      cases hfind : s.rows.find key with
      | some f =>
        simp only [if_true, hfind] at h
        cases h
        exact .found hfind
      | none =>
        simp only [if_true, hfind] at h
        cases h
        exact .notFound
    | false =>
      cases h
      exact .notFound
  | updated flag turnedOn =>
    rw [next] at h
    cases ok with
    | true =>
      cases hfind : s.rows.find flag.key with
      | some f =>
        simp only [if_true, hfind] at h
        cases h
        exact .scan
      | none =>
        simp only [if_true, hfind] at h
        cases h
        exact .give (by simp) (by simp)
    | false =>
      cases h
      exact .give (by simp) (by simp)
  | _ => cases h

lemma refreshCache_step {read : Option ℕ}
    (h : next text (.refreshCache read) l s = some (l', s')) : Step text (.refreshCache read) l s l' s' := by
  cases l with
  | idle =>
    cases read with
    | none =>
      cases h
      exact .give (by simp) (by simp)
    | some n =>
      cases h
      exact .read
  | _ => cases read <;> cases h

lemma updateFlag_step {flag : Flag} {ok : Bool} {now : ℤ}
    (h : next text (.updateFlag flag ok now) l s = some (l', s')) : Step text (.updateFlag flag ok now) l s l' s' := by
  cases l with
  | idle =>
    cases ok with
    | true =>
      have hexec : execUpdate text flag now s = (l', s') := Option.some.inj h
      have hstep : Step text (.updateFlag flag true now) .idle s (execUpdate text flag now s).1
          (execUpdate text flag now s).2 := execUpdate_step
      rwa [hexec] at hstep
    | false =>
      cases h
      exact .give (by simp) (by simp)
  | _ => cases h

lemma deleteFlag_step {key : Bytes} {ok : Bool}
    (h : next text (.deleteFlag key ok) l s = some (l', s')) : Step text (.deleteFlag key ok) l s l' s' := by
  cases l with
  | idle =>
    cases ok with
    | true =>
      cases h
      exact .delete
    | false =>
      cases h
      exact .give (by simp) (by simp)
  | _ => cases h

lemma createFlag_step {flag : Flag} {id : Option Bytes} {now : ℤ}
    (h : next text (.createFlag flag id now) l s = some (l', s')) : Step text (.createFlag flag id now) l s l' s' := by
  cases l with
  | idle =>
    cases id with
    | some id =>
      have hinsert : insertFlag text flag id now s = (l', s') := Option.some.inj h
      have hstep : Step text (.createFlag flag (some id) now) .idle s
          (insertFlag text flag id now s).1 (insertFlag text flag id now s).2 := insertFlag_step
      rwa [hinsert] at hstep
    | none =>
      cases h
      exact .give (by simp) (by simp)
  | _ => cases h

lemma store_step {now : ℤ}
    (h : next text (.store now) l s = some (l', s')) : Step text (.store now) l s l' s' := by
  cases l with
  | loaded key orgID off turnedOn f =>
    cases h
    exact .publish
  | refreshing flags =>
    cases h
    exact .refresh
  | scanned flag turnedOn =>
    cases hflag : flag.enabled with
    | true =>
      simp only [next, hflag, if_true] at h
      cases h
      exact .update hflag
    | false =>
      simp only [next, hflag, Bool.false_eq_true, if_false] at h
      cases h
      exact .updateOff hflag
  | deleted key turnedOn =>
    cases h
    exact .uncache
  | created flag =>
    cases h
    exact .create
  | _ => cases h

lemma next_step (h : next text a l s = some (l', s')) : Step text a l s l' s' := by
  cases a with
  | isEnabled key orgID => exact isEnabled_step h
  | load ok => exact load_step h
  | refreshCache read => exact refreshCache_step h
  | updateFlag flag ok now => exact updateFlag_step h
  | deleteFlag key ok => exact deleteFlag_step h
  | createFlag flag id now => exact createFlag_step h
  | store now => exact store_step h

/-! What every step keeps, for the flags that it does not turn on. -/

structure Later (key : Bytes) (s s' : State) : Prop where
  count : s.history.turnedOn key ≤ s'.history.turnedOn key
  off : s'.history.turnedOn key = s.history.turnedOn key → s.history.off key = true →
    s'.history.off key = true
  rows : s'.history.turnedOn key = s.history.turnedOn key → s.rows.Off key → s'.rows.Off key

lemma later_self (key : Bytes) (s : State) : Later key s s :=
  ⟨le_rfl, fun _ h => h, fun _ h => h⟩

lemma later_rows {key : Bytes} {rows : Rows} (h : s.rows.Off key → rows.Off key) :
    Later key s { s with rows := rows } :=
  ⟨le_rfl, fun _ h => h, fun _ => h⟩

lemma later_turnOn {key key' : Bytes} {rows : Rows} (h : key' ≠ key → s.rows.Off key → rows.Off key) :
    Later key s ({ s with rows := rows }.turnOn key') := by
  by_cases hkey : key' = key
  · subst hkey
    have hcount : ({ s with rows := rows }.turnOn key').history.turnedOn key' =
        s.history.turnedOn key' + 1 := by simp [State.turnOn]
    exact ⟨by omega, fun he => by omega, fun he => by omega⟩
  · have hcount : ({ s with rows := rows }.turnOn key').history.turnedOn key =
        s.history.turnedOn key := by simp [State.turnOn, Ne.symm hkey]
    refine ⟨hcount.ge, fun _ hoff => ?_, fun _ => h hkey⟩
    simpa [State.turnOn, Ne.symm hkey] using hoff

lemma later_turnOff (key key' : Bytes) : Later key s (s.turnOff key') := by
  refine ⟨le_rfl, fun _ h => ?_, fun _ h => h⟩
  by_cases hkey : key = key'
  · simp [State.turnOff, hkey]
  · simpa [State.turnOff, hkey] using h

lemma later_settle (key key' : Bytes) (turnedOn : ℕ) : Later key s (s.settle key' turnedOn) := by
  rw [State.settle]
  split_ifs
  · exact later_turnOff key key'
  · exact later_self key s

lemma step_later (h : Step text a l s l' s') (key : Bytes) : Later key s s' := by
  cases h with
  | hit | notFound | publish => exact ⟨le_rfl, fun _ h => h, fun _ h => h⟩
  | miss | found | read | scan | give => exact later_self key s
  | refresh | update | create => exact ⟨le_rfl, fun _ h => h, fun _ h => h⟩
  | enable value _ _ => exact later_turnOn fun hkey h => Rows.off_update h fun _ => hkey
  | disable value _ hflag => exact later_rows fun h => Rows.off_update h (by simp [hflag])
  | disableMissing => exact later_turnOff key _
  | @updateOff now flag turnedOn =>
    have hlater : Later key (s.setCache flag flag.key) _ := later_settle key flag.key turnedOn
    exact ⟨hlater.count, hlater.off, hlater.rows⟩
  | @uncache now key' turnedOn =>
    have hlater : Later key (s.uncache key') _ := later_settle key key' turnedOn
    exact ⟨hlater.count, hlater.off, hlater.rows⟩
  | @delete key' => exact later_rows fun h => Rows.off_delete h key'
  | insert row hrow hnew =>
    rw [← hrow]
    exact later_turnOn fun hkey h => Rows.off_insert h hkey

/-! The invariants. -/

def Shared (s : State) : Prop := ∀ key, s.history.off key = true → s.rows.Off key

def Own (s : State) : Call → Prop
  | .missed key _ off n =>
    n ≤ s.history.turnedOn key ∧
      (off = true → s.history.turnedOn key = n → s.history.off key = true)
  | .loaded key _ off n f =>
    n ≤ s.history.turnedOn key ∧ f.key = key ∧
      (off = true → s.history.turnedOn key = n → s.history.off key = true ∧ f.enabled = false)
  | .refreshing flags => (flags.map Flag.key).Nodup
  | .updated f n =>
    n ≤ s.history.turnedOn f.key ∧
      (f.enabled = false → s.history.turnedOn f.key = n → s.rows.Off f.key)
  | .scanned f n =>
    n ≤ s.history.turnedOn f.key ∧
      (f.enabled = false → s.history.turnedOn f.key = n → s.rows.Off f.key)
  | .deleted key n =>
    n ≤ s.history.turnedOn key ∧ (s.history.turnedOn key = n → s.rows.Off key)
  | .idle => True
  | .created _ => True

lemma Later.same {key : Bytes} {n : ℕ} (h : Later key s s') (hn : n ≤ s.history.turnedOn key)
    (hs : s'.history.turnedOn key = n) :
    s.history.turnedOn key = n ∧ s'.history.turnedOn key = s.history.turnedOn key := by
  have hcount := h.count
  omega

lemma own_later {l : Call} (h : ∀ key, Later key s s') (hown : Own s l) : Own s' l := by
  cases l with
  | missed key orgID off n =>
    refine ⟨hown.1.trans (h key).count, fun hoff hn => ?_⟩
    obtain ⟨hold, hsame⟩ := (h key).same hown.1 hn
    exact (h key).off hsame (hown.2 hoff hold)
  | loaded key orgID off n f =>
    refine ⟨hown.1.trans (h key).count, hown.2.1, fun hoff hn => ?_⟩
    obtain ⟨hold, hsame⟩ := (h key).same hown.1 hn
    obtain ⟨hs, hf⟩ := hown.2.2 hoff hold
    exact ⟨(h key).off hsame hs, hf⟩
  | refreshing flags => exact hown
  | updated f n =>
    refine ⟨hown.1.trans (h f.key).count, fun hf hn => ?_⟩
    obtain ⟨hold, hsame⟩ := (h f.key).same hown.1 hn
    exact (h f.key).rows hsame (hown.2 hf hold)
  | scanned f n =>
    refine ⟨hown.1.trans (h f.key).count, fun hf hn => ?_⟩
    obtain ⟨hold, hsame⟩ := (h f.key).same hown.1 hn
    exact (h f.key).rows hsame (hown.2 hf hold)
  | deleted key n =>
    refine ⟨hown.1.trans (h key).count, fun hn => ?_⟩
    obtain ⟨hold, hsame⟩ := (h key).same hown.1 hn
    exact (h key).rows hsame (hown.2 hold)
  | idle | created => trivial

lemma shared_turnOn {key : Bytes} {rows : Rows} (hs : Shared s)
    (h : ∀ key', key ≠ key' → s.rows.Off key' → rows.Off key') :
    Shared ({ s with rows := rows }.turnOn key) := by
  intro key' hoff
  by_cases hkey : key' = key
  · simp [State.turnOn, hkey] at hoff
  · have hold : s.history.off key' = true := by simpa [State.turnOn, hkey] using hoff
    exact h key' (Ne.symm hkey) (hs key' hold)

lemma shared_turnOff {key : Bytes} (hs : Shared s) (h : s.rows.Off key) :
    Shared (s.turnOff key) := by
  intro key' hoff
  by_cases hkey : key' = key
  · rw [hkey]
    exact h
  · have hold : s.history.off key' = true := by simpa [State.turnOff, hkey] using hoff
    exact hs key' hold

lemma shared_settle {key : Bytes} {n : ℕ} (hs : Shared s)
    (h : s.history.turnedOn key = n → s.rows.Off key) : Shared (s.settle key n) := by
  rw [State.settle]
  split_ifs with hn
  · exact shared_turnOff hs (h hn)
  · exact hs

lemma step_shared (h : Step text a l s l' s') (hs : Shared s) (hown : Own s l) : Shared s' := by
  cases h with
  | hit | miss | found | notFound | publish | read | refresh | scan | update | create | give =>
    exact hs
  | enable value _ _ => exact shared_turnOn hs fun key' hkey h => Rows.off_update h fun _ => hkey
  | disable value _ hflag =>
    exact fun key hoff => Rows.off_update (hs key hoff) (by simp [hflag])
  | disableMissing h _ _ => exact shared_turnOff hs (Rows.off_of_find h)
  | updateOff h => exact shared_settle hs (hown.2 h)
  | @delete key' => exact fun key hoff => Rows.off_delete (hs key hoff) key'
  | uncache => exact shared_settle hs hown.2
  | insert row hrow hnew =>
    rw [← hrow]
    exact shared_turnOn hs fun key' hkey h => Rows.off_insert h hkey

lemma step_own (h : Step text a l s l' s') (hs : Shared s) (hown : Own s l) : Own s' l' := by
  cases h with
  | hit | notFound | publish | refresh | disableMissing | update | updateOff | uncache | insert
  | create | give => trivial
  | miss => exact ⟨le_rfl, fun h _ => h⟩
  | @found key orgID off n _ f h =>
    refine ⟨hown.1, Rows.find_key h, fun hoff hn => ?_⟩
    have hkey := hown.2 hoff hn
    exact ⟨hkey, hs key hkey f (List.mem_of_find?_eq_some h) (Rows.find_key h)⟩
  | read => exact s.rows.unique.sublist ((List.take_sublist _ _).map _)
  | enable value _ hflag =>
    refine ⟨by simp [State.turnOn], fun hoff => ?_⟩
    rw [hflag] at hoff
    cases hoff
  | disable value _ hflag => exact ⟨le_rfl, fun _ _ => Rows.off_update_self hflag⟩
  | scan => exact hown
  | delete => exact ⟨le_rfl, fun _ => Rows.off_delete_self⟩

/-! Which steps keep flags off that are off. -/

def Answered (s : State) : Prop := ∀ a ∈ s.history.answers, a.off = true → a.result = false

/-- No call was answered with true for a flag that was off all along, and none that starts now. -/
structure StaysOff (text : JsonText) (s : State) : Prop where
  answered : Answered s
  starting : ∀ key orgID l' s', next text (.isEnabled key orgID) .idle s = some (l', s') →
    Answered s'

def Flag.NeverOn (text : JsonText) (f : Flag) : Prop := ∀ orgID, f.evaluate text orgID = false

def Cached (text : JsonText) (s : State) : Prop :=
  ∀ key f, s.history.off key = true → s.manager.cache.lookup key = some f → f.NeverOn text

def Fresh (text : JsonText) (s : State) (f : Flag) : Prop :=
  s.history.off f.key = true → f.NeverOn text

def Installs (text : JsonText) (s : State) : Action → Call → Prop
  | .store _, .loaded _ _ _ _ f => Fresh text s f
  | .store _, .refreshing flags => ∀ f ∈ flags, Fresh text s f
  | .store _, .scanned f _ => Fresh text s f
  | .store _, .created f => Fresh text s f
  | .updateFlag flag true _, .idle =>
    s.rows.find flag.key = none → text.jsonb flag.value ≠ none → flag.enabled = false →
      ∀ f, s.manager.cache.lookup flag.key = some f → f.NeverOn text
  | _, _ => True

lemma neverOn_disabled {f : Flag} (h : f.enabled = false) : f.NeverOn text := by
  intro orgID
  simp [Flag.evaluate, h]

lemma answered_answer {x : Answer} :
    Answered (s.answer x) ↔ Answered s ∧ (x.off = true → x.result = false) := by
  simp [Answered, State.answer, and_comm]

lemma answered_settle {key : Bytes} {n : ℕ} (h : Answered s) : Answered (s.settle key n) := by
  rw [State.settle]
  split_ifs
  · exact h
  · exact h

lemma staysOff_iff : StaysOff text s ↔ Answered s ∧ Cached text s := by
  constructor
  · rintro ⟨hanswered, hstarting⟩
    refine ⟨hanswered, fun key f hoff hcache orgID => ?_⟩
    have hnext : next text (.isEnabled key orgID) .idle s = some (.idle,
        s.answer ⟨key, orgID, s.history.off key, f.evaluate text orgID⟩) := by
      simp only [next, hcache]
    exact (answered_answer.mp (hstarting key orgID _ _ hnext)).2 hoff
  · rintro ⟨hanswered, hcached⟩
    refine ⟨hanswered, fun key orgID l' s' hnext => ?_⟩
    cases next_step hnext with
    | hit h => exact answered_answer.mpr ⟨hanswered, fun hoff => hcached key _ hoff h orgID⟩
    | miss => exact hanswered
    | give => exact hanswered

lemma cached_setCache {f : Flag} (h : Cached text s) :
    Cached text (s.setCache f f.key) ↔ Fresh text s f := by
  have hlookup : ∀ key, (s.setCache f f.key).manager.cache.lookup key =
      if key = f.key then some f else s.manager.cache.lookup key := by
    intro key
    exact Table.lookup_insert _ _ _ _
  constructor
  · intro hcached hoff
    exact hcached f.key f hoff (by rw [hlookup, if_pos rfl])
  · intro hfresh key g hoff hg
    rw [hlookup] at hg
    split_ifs at hg with hkey
    · subst hkey
      exact Option.some.inj hg ▸ hfresh hoff
    · exact h key g hoff hg

lemma cached_turnOn {key : Bytes} (h : Cached text s) (rows : Rows) :
    Cached text ({ s with rows := rows }.turnOn key) := by
  intro key' f hoff hf
  by_cases hkey : key' = key
  · simp [State.turnOn, hkey] at hoff
  · exact h key' f (by simpa [State.turnOn, hkey] using hoff) hf

lemma cached_turnOff {key : Bytes} (h : Cached text s) :
    Cached text (s.turnOff key) ↔
      ∀ f, s.manager.cache.lookup key = some f → f.NeverOn text := by
  constructor
  · intro hcached f hf
    exact hcached key f (by simp [State.turnOff]) hf
  · intro hkey key' f hoff hf
    by_cases hsame : key' = key
    · subst hsame
      exact hkey f hf
    · exact h key' f (by simpa [State.turnOff, hsame] using hoff) hf

lemma cached_settle {key : Bytes} {n : ℕ} (h : Cached text s)
    (hkey : ∀ f, s.manager.cache.lookup key = some f → f.NeverOn text) :
    Cached text (s.settle key n) := by
  rw [State.settle]
  split_ifs
  · exact (cached_turnOff h).mpr hkey
  · exact h

lemma cached_replaceCache {flags : List Flag} (h : (flags.map Flag.key).Nodup) (now : ℤ) :
    Cached text (s.replaceCache flags now) ↔ ∀ f ∈ flags, Fresh text s f := by
  constructor
  · intro hcached f hf hoff
    exact hcached f.key f hoff ((Table.lookup_keyed h f.key f).mpr ⟨hf, rfl⟩)
  · intro hfresh key f hoff hf
    obtain ⟨hmem, rfl⟩ := (Table.lookup_keyed h key f).mp hf
    exact hfresh f hmem hoff

lemma cached_uncache (h : Cached text s) (key : Bytes) : Cached text (s.uncache key) := by
  intro key' f hoff hf
  by_cases hkey : key' = key
  · subst hkey
    simp [State.uncache] at hf
  · have hold : s.manager.cache.lookup key' = some f := by
      simpa [State.uncache, Table.lookup_erase, hkey] using hf
    exact h key' f hoff hold

lemma step_installs (h : Step text a l s l' s') (hown : Own s l) (hanswered : Answered s)
    (hcached : Cached text s) : Answered s' ∧ Cached text s' ↔ Installs text s a l := by
  cases h with
  | @hit key orgID _ f h =>
    refine iff_of_true ⟨answered_answer.mpr ⟨hanswered, fun hoff => ?_⟩, hcached⟩ trivial
    exact hcached key f hoff h orgID
  | miss | found | read | scan | delete => exact iff_of_true ⟨hanswered, hcached⟩ trivial
  | notFound => exact iff_of_true ⟨answered_answer.mpr ⟨hanswered, fun _ => rfl⟩, hcached⟩ trivial
  | @publish now key orgID off n _ f =>
    obtain ⟨-, rfl, hkept⟩ := hown
    constructor
    · rintro ⟨-, hcached'⟩
      exact (cached_setCache hcached).mp hcached'
    · intro hfresh
      refine ⟨answered_answer.mpr ⟨hanswered, fun hoff => ?_⟩, (cached_setCache hcached).mpr hfresh⟩
      obtain ⟨hoff, hn⟩ : off = true ∧ n = s.history.turnedOn f.key := by simpa using hoff
      exact neverOn_disabled (hkept hoff hn.symm).2 orgID
  | @refresh now flags =>
    have hreplaced : Cached text (s.replaceCache flags now) ↔ ∀ f ∈ flags, Fresh text s f :=
      cached_replaceCache hown now
    exact ⟨fun h => hreplaced.mp h.2, fun h => ⟨hanswered, hreplaced.mpr h⟩⟩
  | enable value hfind _ =>
    exact iff_of_true ⟨hanswered, cached_turnOn hcached _⟩ fun h => absurd h hfind
  | disable value hfind _ => exact iff_of_true ⟨hanswered, hcached⟩ fun h => absurd h hfind
  | @disableMissing flag now _ hfind hflag hvalue =>
    have hturned : Cached text (s.turnOff flag.key) ↔
        ∀ f, s.manager.cache.lookup flag.key = some f → f.NeverOn text := cached_turnOff hcached
    exact ⟨fun h _ _ _ => hturned.mp h.2, fun h => ⟨hanswered, hturned.mpr (h hfind hvalue hflag)⟩⟩
  | update _ =>
    exact ⟨fun h => (cached_setCache hcached).mp h.2,
      fun h => ⟨hanswered, (cached_setCache hcached).mpr h⟩⟩
  | @updateOff now flag n _ hflag =>
    have hoff : flag.NeverOn text := neverOn_disabled hflag
    have hset : Cached text (s.setCache flag flag.key) := (cached_setCache hcached).mpr fun _ => hoff
    have hsettled : Cached text ((s.setCache flag flag.key).settle flag.key n) := by
      apply cached_settle hset
      intro f hf
      have hsame : some flag = some f := by simpa [State.setCache] using hf
      exact Option.some.inj hsame ▸ hoff
    exact iff_of_true ⟨answered_settle hanswered, hsettled⟩ fun _ => hoff
  | @uncache now key n =>
    have hsettled : Cached text ((s.uncache key).settle key n) := by
      apply cached_settle (cached_uncache hcached key)
      intro f hf
      simp [State.uncache] at hf
    exact iff_of_true ⟨answered_settle hanswered, hsettled⟩ trivial
  | insert row hrow hnew => exact iff_of_true ⟨hanswered, cached_turnOn hcached _⟩ trivial
  | create =>
    exact ⟨fun h => (cached_setCache hcached).mp h.2,
      fun h => ⟨hanswered, (cached_setCache hcached).mpr h⟩⟩
  | give h hstore =>
    refine iff_of_true ⟨hanswered, hcached⟩ ?_
    cases a with
    | store now => exact absurd rfl (hstore now)
    | updateFlag flag ok now =>
      cases ok with
      | false => trivial
      | true =>
        cases l with
        | idle =>
          intro hfind hvalue hflag
          rw [h flag now rfl rfl hfind hvalue] at hflag
          cases hflag
        | _ => trivial
    | _ => trivial

section

variable {ι : Type} [DecidableEq ι]

omit [DecidableEq ι] in
lemma nonInterfering :
    Processes.NonInterfering (fun _ : ι => next text) Shared fun _ l s => Own s l where
  own := by
    intro i a l s l' s' hs hown h
    have hstep := next_step h
    exact ⟨step_shared hstep hs hown, step_own hstep hs hown⟩
  other := by
    intro i j a l m s l' s' _ _ _ hm h
    exact own_later (step_later (next_step h)) hm

abbrev Servers (ι : Type) : Type := Processes.World ι Call State

def serversStep (text : JsonText) : Servers ι → ι × Action → Option (Servers ι) :=
  Processes.step fun _ => next text

def begun (rows : Rows) : Servers ι := ⟨fun _ => .idle, started rows⟩

/-- In every interleaving no call is answered with true for a flag that is off, nor can a call that
starts be, exactly as long as what is put into the cache is fresh. -/
theorem stays_off_iff (rows : Rows) (as : List (ι × Action)) :
    Always (serversStep text) (fun w => StaysOff text w.store) (begun rows) as ↔
      Guarded (serversStep text) (fun w a => Installs text w.store a.2 (w.locals a.1))
        (begun rows) as := by
  have hoff : ∀ key, (started rows).history.off key ≠ true := by simp [started]
  have hstart : StaysOff text (started rows) := by
    apply staysOff_iff.mpr
    exact ⟨fun a ha => (List.not_mem_nil ha).elim, fun key f h => absurd h (hoff key)⟩
  have hholds : Processes.Holds Shared (fun (_ : ι) l s => Own s l) (begun rows) :=
    ⟨fun key h => absurd h (hoff key), fun i => trivial⟩
  apply nonInterfering.always_iff_guarded hstart hholds
  intro w i a l s hw hp hnext
  obtain ⟨hanswered, hcached⟩ := staysOff_iff.mp hp
  rw [staysOff_iff]
  exact step_installs (next_step hnext) (hw.2 i) hanswered hcached

end

def beta : Flag where
  id := ascii "b1"
  key := ascii "mesh_beta"
  name := ascii "Mesh Network Beta"
  description := []
  type := ascii "boolean"
  value := ascii "\x7b\"enabled\": true\x7d"
  enabled := true
  createdAt := 0
  updatedAt := 0

def onText : JsonText where
  unmarshal _ := some (.obj [(ascii "enabled", .bool true)])
  jsonb := some

def staleStore : List (ℕ × Action) :=
  [(0, .isEnabled beta.key (ascii "org")), (0, .load true),
    (1, .updateFlag { beta with enabled := false } true 1), (1, .load true), (1, .store 1),
    (0, .store 1), (2, .isEnabled beta.key (ascii "org"))]

theorem stays_off_fails :
    ¬ ∀ (text : JsonText) (rows : Rows) (as : List (ℕ × Action)),
      Always (serversStep text) (fun w => StaysOff text w.store) (begun rows) as := by
  intro h
  have hrun : (run (serversStep onText) (begun ⟨[beta], by decide⟩) staleStore).map
      (fun w => w.store.history.answers.head?) =
        some (some ⟨beta.key, ascii "org", true, true⟩) := by decide
  obtain ⟨w, hw, hhead⟩ := Option.map_eq_some_iff.mp hrun
  have hlast := (h onText ⟨[beta], by decide⟩ staleStore).last hw
  have hfalse := hlast.answered _ (List.mem_of_head? hhead) rfl
  cases hfalse

end OmniTun.FeatureFlags
