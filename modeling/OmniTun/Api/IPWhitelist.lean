import OmniTun.Foundation.Processes
import OmniTun.Foundation.Slices
import OmniTun.Foundation.Table
import OmniTun.Foundation.Transport

/-! The IP whitelists of organizations: requests that list, add and remove at the same time, where a
listing reads its slice after the lock is released. -/

namespace OmniTun.Api.IPWhitelist

open OmniTun.Foundation Transition Processes Slices

structure Entry where
  id : Bytes
  orgID : Bytes
  cidr : Bytes
  label : Bytes
  enabled : Bool
  createdAt : ℤ
  deriving DecidableEq

/-- The body of the addition is decoded, and the id and the time are the server's. -/
inductive Request
  | get (orgID : Bytes)
  | add (orgID cidr label id : Bytes) (now : ℤ)
  | remove (orgID id : Bytes)

def newEntry (orgID cidr label id : Bytes) (now : ℤ) : Entry :=
  ⟨id, orgID, cidr, if label = [] then cidr else label, true, now⟩

inductive Local
  | get (orgID : Bytes)
  | reading (orgID : Bytes) (s : Option Slice) (acc : List (Option Entry))
  | listed (orgID : Bytes) (items : List (Option Entry))
  | add (orgID : Bytes) (e : Entry)
  | added (e : Entry)
  | refused
  | remove (orgID id : Bytes)
  | shifting
  | removed (found : Bool)

def Request.start : Request → Local
  | .get orgID => .get orgID
  | .add orgID cidr label id now =>
    if cidr = [] then .refused else .add orgID (newEntry orgID cidr label id now)
  | .remove orgID id => .remove orgID id

/-- `shifting` is what the holder of the lock is at while it moves items down: its organization and
slice, and the slot that is written next. -/
structure Store (ι : Type*) where
  heap : Heap Entry
  entries : Table Bytes Slice
  shifting : Option (ι × Bytes × Slice × ℕ)

variable {ι : Type*} [DecidableEq ι]

def hasID (id : Bytes) (e : Option Entry) : Bool := e.any (·.id == id)

namespace Store

variable (st : Store ι)

def add (spare : ℕ) (orgID : Bytes) (e : Entry) : Store ι :=
  let r := append spare st.heap (st.entries.lookup orgID) e
  { st with heap := r.2, entries := st.entries.insert orgID r.1 }

def find (orgID id : Bytes) : Option (Slice × ℕ) :=
  (st.entries.lookup orgID).bind fun s =>
    ((items st.heap s).findIdx? (hasID id)).map fun k => (s, k)

def shift (i : ι) (orgID : Bytes) (s : Slice) (k : ℕ) : Bool × Store ι :=
  match (items st.heap s)[k + 1]? with
  | some x =>
    (false, { st with
      heap := write st.heap s.array k x
      shifting := some (i, orgID, s, k + 1) })
  | none =>
    (true, { st with
      entries := st.entries.insert orgID ⟨s.array, s.len - 1⟩
      shifting := none })

end Store

/-- The number that comes with a step is the room that a new array gets. -/
def next (i : ι) (spare : ℕ) (l : Local) (st : Store ι) : Option (Local × Store ι) :=
  match l with
  | .get orgID =>
    if st.shifting.isSome then none
    else some (.reading orgID (st.entries.lookup orgID) [], st)
  | .reading orgID s acc =>
    match s.bind fun s => (items st.heap s)[acc.length]? with
    | some x => some (.reading orgID s (acc ++ [x]), st)
    | none => some (.listed orgID acc, st)
  | .add orgID e =>
    if st.shifting.isSome then none else some (.added e, st.add spare orgID e)
  | .remove orgID id =>
    if st.shifting.isSome then none
    else
      match st.find orgID id with
      | none => some (.removed false, st)
      | some (s, k) => some (.shifting, { st with shifting := some (i, orgID, s, k) })
  | .shifting =>
    match st.shifting with
    | some (j, orgID, s, k) =>
      if j = i then
        some (if (st.shift i orgID s k).1 then .removed true else .shifting,
          (st.shift i orgID s k).2)
      else none
    | none => none
  | _ => none

def step : World ι Local (Store ι) → ι × ℕ → Option (World ι Local (Store ι)) :=
  Processes.step next

def start (requests : ι → Request) : World ι Local (Store ι) :=
  ⟨fun i => (requests i).start, ⟨[], ∅, none⟩⟩

/-! What the requests ask for, one after the other. -/

inductive Op
  | add (orgID : Bytes) (e : Entry)
  | remove (orgID id : Bytes)

abbrev Lists := Bytes → List Entry

def Op.apply (lists : Lists) : Op → Lists
  | .add orgID e => Function.update lists orgID (lists orgID ++ [e])
  | .remove orgID id =>
    Function.update lists orgID ((lists orgID).eraseP fun e => e.id == id)

def opOf : Local → Option Op
  | .add orgID e => some (.add orgID e)
  | .remove orgID id => some (.remove orgID id)
  | _ => none

/-- The additions and removals of a run, in the order in which they got the lock. -/
def history : World ι Local (Store ι) → List (ι × ℕ) → List Op
  | _, [] => []
  | w, a :: as =>
    match step w a with
    | none => []
    | some w' => (opOf (w.locals a.1)).toList ++ history w' as

/-- The items of an organization, without the one that is being removed. -/
def contents (st : Store ι) (orgID : Bytes) : List (Option Entry) :=
  match st.shifting with
  | some (_, o, s, k) =>
    if o = orgID then (items st.heap s).eraseIdx k
    else itemsOf st.heap (st.entries.lookup orgID)
  | none => itemsOf st.heap (st.entries.lookup orgID)

/-! What the slices hold. -/

variable {From : Bytes → Entry → Prop} {st st' : Store ι} {o o' : Bytes} {s s' : Slice} {e : Entry}
  {k spare : ℕ} {i : ι}

def Made (From : Bytes → Entry → Prop) (o : Bytes) (x : Option Entry) : Prop :=
  ∃ e, x = some e ∧ From o e

structure Held (From : Bytes → Entry → Prop) (st : Store ι) (o : Bytes) (s : Slice) : Prop where
  array_lt : s.array < st.heap.length
  len_le : s.len ≤ (slots st.heap s.array).length
  made : ∀ x ∈ items st.heap s, Made From o x
  apart : ∀ o' s', st.entries.lookup o' = some s' → s'.array = s.array → o' = o

structure Good (From : Bytes → Entry → Prop) (st : Store ι) : Prop where
  held : ∀ o s, st.entries.lookup o = some s → Held From st o s
  moving : ∀ i o s k, st.shifting = some (i, o, s, k) →
    st.entries.lookup o = some s ∧ k < s.len

omit [DecidableEq ι] in
lemma add_cases (st : Store ι) (spare : ℕ) (o : Bytes) (e : Entry) :
    (∃ s, st.entries.lookup o = some s ∧ s.len < (slots st.heap s.array).length ∧
      st.add spare o e = { st with
        heap := write st.heap s.array s.len (some e)
        entries := st.entries.insert o ⟨s.array, s.len + 1⟩ }) ∨
    ∃ n l, st.add spare o e = { st with
        heap := st.heap ++ [l]
        entries := st.entries.insert o ⟨st.heap.length, n⟩ } := by
  unfold Store.add append
  cases hs : st.entries.lookup o with
  | none => exact .inr ⟨_, _, rfl⟩
  | some s =>
    dsimp only
    split_ifs with hlt
    · exact .inl ⟨s, rfl, hlt, rfl⟩
    · exact .inr ⟨_, _, rfl⟩

omit [DecidableEq ι] in
lemma add_lookup (st : Store ι) (spare : ℕ) (o : Bytes) (e : Entry) (o' : Bytes) :
    (st.add spare o e).entries.lookup o' =
      if o' = o then some (append spare st.heap (st.entries.lookup o) e).1
      else st.entries.lookup o' :=
  Table.lookup_insert _ _ _ _

omit [DecidableEq ι] in
lemma Good.items_add (hg : Good From st) (spare : ℕ) (o : Bytes) (e : Entry) :
    items (st.add spare o e).heap (append spare st.heap (st.entries.lookup o) e).1 =
      itemsOf st.heap (st.entries.lookup o) ++ [some e] :=
  append_items spare (st.entries.lookup o) e fun t ht => (hg.held o t ht).len_le

omit [DecidableEq ι] in
lemma Good.itemsOf_made (hg : Good From st) {x : Option Entry}
    (hx : x ∈ itemsOf st.heap (st.entries.lookup o)) : Made From o x := by
  cases hs : st.entries.lookup o with
  | none => simp [itemsOf, hs] at hx
  | some s =>
    simp only [itemsOf, hs, Option.map_some, Option.getD_some] at hx
    exact (hg.held o s hs).made x hx

omit [DecidableEq ι] in
lemma Held.add (hs : Held From st o s) (hfrom : From o' e) (spare : ℕ) :
    Held From (st.add spare o' e) o s := by
  rcases add_cases st spare o' e with ⟨t, ht, hlt, heq⟩ | ⟨n, l, heq⟩
  · rw [heq]
    refine ⟨?_, ?_, fun x hx => ?_, fun o'' s' hs' harray => ?_⟩
    · simpa [write_length] using hs.array_lt
    · simpa [slots_write_length] using hs.len_le
    · rcases mem_items_write hx with hx | ⟨harray, rfl⟩
      · exact hs.made x hx
      · exact ⟨e, rfl, hs.apart o' t ht harray.symm ▸ hfrom⟩
    · dsimp only at hs'
      rw [Table.lookup_insert] at hs'
      split_ifs at hs' with ho
      · obtain rfl := Option.some.inj hs'
        exact ho ▸ hs.apart o' t ht harray
      · exact hs.apart o'' s' hs' harray
  · have hlt := hs.array_lt
    rw [heq]
    refine ⟨?_, ?_, fun x hx => ?_, fun o'' s' hs' harray => ?_⟩
    · simp only [List.length_append]
      omega
    · simpa [slots_concat _ l hlt] using hs.len_le
    · exact hs.made x (items_concat l hlt ▸ hx)
    · dsimp only at hs'
      rw [Table.lookup_insert] at hs'
      split_ifs at hs' with ho
      · obtain rfl := Option.some.inj hs'
        dsimp only at harray
        omega
      · exact hs.apart o'' s' hs' harray

omit [DecidableEq ι] in
lemma Good.add (hg : Good From st) (hfree : st.shifting = none) (hfrom : From o e) (spare : ℕ) :
    Good From (st.add spare o e) := by
  refine ⟨fun o' s hs => ?_, fun i o' s k hm => ?_⟩
  · have hs' := hs
    rw [add_lookup] at hs'
    split_ifs at hs' with ho
    · subst ho
      obtain rfl := Option.some.inj hs'
      obtain ⟨hlt, hle⟩ := append_valid spare (st.entries.lookup o') e
        fun t ht => ⟨(hg.held o' t ht).array_lt, (hg.held o' t ht).len_le⟩
      refine ⟨hlt, hle, fun x hx => ?_, fun o'' s' hs'' harray => ?_⟩
      · rw [hg.items_add] at hx
        rcases List.mem_append.mp hx with hx | hx
        · exact hg.itemsOf_made hx
        · exact ⟨e, List.mem_singleton.mp hx, hfrom⟩
      · by_contra hne
        rw [add_lookup, if_neg hne] at hs''
        rcases append_array spare (st.entries.lookup o') e with ⟨t, ht, hta⟩ | hta
        · exact hne ((hg.held o' t ht).apart o'' s' hs'' (harray.trans hta))
        · have hlt' := (hg.held o'' s' hs'').array_lt
          omega
    · exact (hg.held o' s hs').add hfrom spare
  · have hsame : (st.add spare o e).shifting = st.shifting := rfl
    rw [hsame, hfree] at hm
    cases hm

omit [DecidableEq ι] in
lemma shift_cases (st : Store ι) (i : ι) (o : Bytes) (s : Slice) (k : ℕ) :
    (∃ x, (items st.heap s)[k + 1]? = some x ∧ st.shift i o s k =
      (false, { st with heap := write st.heap s.array k x, shifting := some (i, o, s, k + 1) })) ∨
    (items st.heap s)[k + 1]? = none ∧ st.shift i o s k =
      (true, { st with
        entries := st.entries.insert o ⟨s.array, s.len - 1⟩, shifting := none }) := by
  unfold Store.shift
  cases hx : (items st.heap s)[k + 1]? with
  | none => exact .inr ⟨rfl, rfl⟩
  | some x => exact .inl ⟨x, rfl, rfl⟩

omit [DecidableEq ι] in
lemma Held.shift (hs : Held From st o s) (ht : Held From st o' s')
    (hl : st.entries.lookup o' = some s') (i : ι) (k : ℕ) :
    Held From (st.shift i o' s' k).2 o s := by
  rcases shift_cases st i o' s' k with ⟨y, hy, heq⟩ | ⟨-, heq⟩
  · rw [heq]
    refine ⟨?_, ?_, fun x hx => ?_, hs.apart⟩
    · simpa [write_length] using hs.array_lt
    · simpa [slots_write_length] using hs.len_le
    · rcases mem_items_write hx with hx | ⟨harray, rfl⟩
      · exact hs.made x hx
      · exact hs.apart o' s' hl harray.symm ▸ ht.made x (List.mem_of_getElem? hy)
  · rw [heq]
    refine ⟨hs.array_lt, hs.len_le, hs.made, fun o'' t hlt harray => ?_⟩
    dsimp only at hlt
    rw [Table.lookup_insert] at hlt
    split_ifs at hlt with ho
    · obtain rfl := Option.some.inj hlt
      exact ho ▸ hs.apart o' s' hl harray
    · exact hs.apart o'' t hlt harray

omit [DecidableEq ι] in
lemma Good.shift (hg : Good From st) (hm : st.shifting = some (i, o, s, k)) :
    Good From (st.shift i o s k).2 := by
  obtain ⟨hl, hk⟩ := hg.moving i o s k hm
  have hheld := hg.held o s hl
  rcases shift_cases st i o s k with ⟨y, hy, heq⟩ | ⟨-, heq⟩
  · refine ⟨fun o' s' hs' => ?_, fun i' o' s' k' hm' => ?_⟩
    · apply (hg.held o' s' _).shift hheld hl
      rw [heq] at hs'
      exact hs'
    · rw [heq] at hm' ⊢
      simp only [Option.some.injEq, Prod.mk.injEq] at hm'
      obtain ⟨-, rfl, rfl, rfl⟩ := hm'
      refine ⟨hl, ?_⟩
      have hlt := (List.getElem?_eq_some_iff.mp hy).1
      rwa [items_length hheld.len_le] at hlt
  · refine ⟨fun o' s' hs' => ?_, fun i' o' s' k' hm' => ?_⟩
    · have hs'' := hs'
      rw [heq] at hs''
      dsimp only at hs''
      rw [Table.lookup_insert] at hs''
      split_ifs at hs'' with ho
      · obtain rfl := Option.some.inj hs''
        have hkeep := hheld.shift hheld hl i k
        refine ⟨hkeep.array_lt, ?_, fun x hx => ?_, ?_⟩
        · have hle := hkeep.len_le
          dsimp only at hle ⊢
          omega
        · exact ho ▸ hkeep.made x (List.take_subset_take_left _ (Nat.sub_le _ _) hx)
        · exact fun o'' t ht ha => (hkeep.apart o'' t ht ha).trans ho.symm
      · exact (hg.held o' s' hs'').shift hheld hl i k
    · rw [heq] at hm'
      cases hm'

/-! One step. -/

def Own (From : Bytes → Entry → Prop) (_ : ι) (l : Local) (st : Store ι) : Prop :=
  match l with
  | .reading o s acc => (∀ t, s = some t → Held From st o t) ∧ ∀ x ∈ acc, Made From o x
  | .listed o items => ∀ x ∈ items, Made From o x
  | _ => True

def Adds (From : Bytes → Entry → Prop) (l : Local) : Prop :=
  ∀ o e, opOf l = some (.add o e) → From o e

inductive Effect (i : ι) (st : Store ι) : Local → Local → Store ι → Prop
  | looked (o : Bytes) (hfree : st.shifting = none) :
    Effect i st (.get o) (.reading o (st.entries.lookup o) []) st
  | read (o : Bytes) (s : Slice) (acc : List (Option Entry)) (x : Option Entry)
    (hx : (items st.heap s)[acc.length]? = some x) :
    Effect i st (.reading o (some s) acc) (.reading o (some s) (acc ++ [x])) st
  | listed (o : Bytes) (s : Option Slice) (acc : List (Option Entry))
    (hend : ∀ t, s = some t → (items st.heap t)[acc.length]? = none) :
    Effect i st (.reading o s acc) (.listed o acc) st
  | added (o : Bytes) (e : Entry) (spare : ℕ) (hfree : st.shifting = none) :
    Effect i st (.add o e) (.added e) (st.add spare o e)
  | missed (o id : Bytes) (hfree : st.shifting = none) (hfind : st.find o id = none) :
    Effect i st (.remove o id) (.removed false) st
  | found (o id : Bytes) (s : Slice) (k : ℕ) (hfree : st.shifting = none)
    (hfind : st.find o id = some (s, k)) :
    Effect i st (.remove o id) .shifting { st with shifting := some (i, o, s, k) }
  | shifted (o : Bytes) (s : Slice) (k : ℕ) (hm : st.shifting = some (i, o, s, k)) (l : Local)
    (hl : l = if (st.shift i o s k).1 then .removed true else .shifting) :
    Effect i st .shifting l (st.shift i o s k).2

lemma next_effect {l l' : Local} (h : next i spare l st = some (l', st')) :
    Effect i st l l' st' := by
  unfold next at h
  split at h
  next o =>
    split_ifs at h with hlock
    cases h
    exact .looked o (by simpa using hlock)
  next o s acc =>
    split at h
    next x hx =>
      cases h
      obtain ⟨t, rfl, ht⟩ := Option.bind_eq_some_iff.mp hx
      exact .read o t acc x ht
    next hx =>
      cases h
      refine .listed o s acc fun t ht => ?_
      simpa [ht] using hx
  next o e =>
    split_ifs at h with hlock
    cases h
    exact .added o e spare (by simpa using hlock)
  next o id =>
    split_ifs at h with hlock
    split at h
    next hfind =>
      cases h
      exact .missed o id (by simpa using hlock) hfind
    next s k hfind =>
      cases h
      exact .found o id s k (by simpa using hlock) hfind
  next =>
    split at h
    next j o s k hm =>
      split_ifs at h with hj
      · subst hj
        cases h
        exact .shifted o s k hm _ (by simp [*])
      · subst hj
        cases h
        exact .shifted o s k hm _ (by simp [*])
    next => cases h
  next => cases h

variable {l l' : Local}

omit [DecidableEq ι] in
lemma find_eq_some {id : Bytes} (h : st.find o id = some (s, k)) :
    st.entries.lookup o = some s ∧ (items st.heap s).findIdx? (hasID id) = some k := by
  obtain ⟨t, ht, hk⟩ := Option.bind_eq_some_iff.mp h
  obtain ⟨n, hn, hpair⟩ := Option.map_eq_some_iff.mp hk
  obtain ⟨rfl, rfl⟩ := Prod.mk.inj hpair
  exact ⟨ht, hn⟩

omit [DecidableEq ι] in
lemma Good.find_lt (hg : Good From st) {id : Bytes} (h : st.find o id = some (s, k)) :
    st.entries.lookup o = some s ∧ k < s.len := by
  obtain ⟨hl, hk⟩ := find_eq_some h
  obtain ⟨hlt, -⟩ := List.findIdx?_eq_some_iff_getElem.mp hk
  rw [items_length (hg.held o s hl).len_le] at hlt
  exact ⟨hl, hlt⟩

omit [DecidableEq ι] in
lemma Effect.held (he : Effect i st l l' st') (hg : Good From st) (hadds : Adds From l)
    (hs : Held From st o s) : Held From st' o s := by
  cases he with
  | added o' e spare hfree => exact hs.add (hadds o' e rfl) spare
  | shifted o' s' k hm l hl =>
    have hlook := (hg.moving i o' s' k hm).1
    exact hs.shift (hg.held o' s' hlook) hlook i k
  | found => exact ⟨hs.array_lt, hs.len_le, hs.made, hs.apart⟩
  | _ => exact hs

omit [DecidableEq ι] in
lemma Effect.good (he : Effect i st l l' st') (hg : Good From st) (hadds : Adds From l) :
    Good From st' := by
  cases he with
  | added o e spare hfree => exact hg.add hfree (hadds o e rfl) spare
  | shifted o s k hm l hl => exact hg.shift hm
  | found o id s k hfree hfind =>
    refine ⟨fun o' s' hs' => ?_, fun i' o' s' k' hm => ?_⟩
    · have hheld := hg.held o' s' hs'
      exact ⟨hheld.array_lt, hheld.len_le, hheld.made, hheld.apart⟩
    · obtain ⟨-, rfl, rfl, rfl⟩ : i = i' ∧ o = o' ∧ s = s' ∧ k = k' := by simpa using hm
      exact hg.find_lt hfind
  | _ => exact hg

omit [DecidableEq ι] in
lemma Effect.own (he : Effect i st l l' st') (hg : Good From st) (hown : Own From i l st) :
    Own From i l' st' := by
  cases he with
  | looked o hfree =>
    refine ⟨fun t ht => hg.held o t ht, fun x hx => ?_⟩
    cases hx
  | read o s acc x hx =>
    obtain ⟨hheld, hacc⟩ := hown
    refine ⟨hheld, fun y hy => ?_⟩
    rcases List.mem_append.mp hy with hy | hy
    · exact hacc y hy
    · obtain rfl := List.mem_singleton.mp hy
      exact (hheld s rfl).made y (List.mem_of_getElem? hx)
  | listed o s acc hend => exact hown.2
  | shifted o s k hm l hl =>
    subst hl
    split_ifs <;> trivial
  | _ => trivial

omit [DecidableEq ι] in
lemma Effect.other (he : Effect i st l l' st') (hg : Good From st) (hadds : Adds From l)
    {j : ι} {m : Local} (hm : Own From j m st) : Own From j m st' := by
  cases m with
  | reading o s acc => exact ⟨fun t ht => he.held hg hadds (hm.1 t ht), hm.2⟩
  | listed o items => exact hm
  | _ => trivial

variable {requests : ι → Request} {as bs : List (ι × ℕ)} {a : ι × ℕ}
  {w w' : World ι Local (Store ι)}

lemma holds_step (hw : Holds (Good From) (Own From) w) (hadds : Adds From (w.locals a.1))
    (h : step w a = some w') : Holds (Good From) (Own From) w' := by
  obtain ⟨l, st, hnext, rfl⟩ := step_eq_some h
  have he := next_effect hnext
  obtain ⟨hg, hown⟩ := hw
  refine ⟨he.good hg hadds, fun j => ?_⟩
  by_cases hj : j = a.1
  · subst hj
    simpa using he.own hg (hown a.1)
  · simpa [hj] using he.other hg hadds (hown j)

lemma holds_run (hw : Holds (Good From) (Own From) w)
    (hfrom : ∀ o e, Op.add o e ∈ history w as → From o e) (hr : run step w as = some w') :
    Holds (Good From) (Own From) w' := by
  induction as generalizing w with
  | nil => exact Option.some.inj hr ▸ hw
  | cons a as ih =>
    obtain ⟨v, hv, hr'⟩ := Option.bind_eq_some_iff.mp hr
    rw [history, hv] at hfrom
    dsimp only at hfrom
    have hadds : Adds From (w.locals a.1) := by
      intro o e hop
      exact hfrom o e (List.mem_append_left _ (by rw [hop]; exact List.mem_cons_self))
    exact ih (holds_step hw hadds hv) (fun o e h => hfrom o e (List.mem_append_right _ h)) hr'

omit [DecidableEq ι] in
lemma start_holds (requests : ι → Request) (From : Bytes → Entry → Prop) :
    Holds (Good From) (Own From) (start requests) := by
  refine ⟨⟨fun o s hs => ?_, fun i o s k hm => ?_⟩, fun i => ?_⟩
  · cases hs
  · cases hm
  · show Own From i (requests i).start _
    cases requests i with
    | get o => trivial
    | remove o id => trivial
    | add o cidr label id now =>
      simp only [Request.start]
      split_ifs <;> trivial

omit [DecidableEq ι] in
lemma Effect.not_pending (he : Effect i st l l' st') (o : Bytes) (e : Entry) :
    l' ≠ .add o e := by
  rintro rfl
  cases he with
  | shifted o s k hm _ hl => split_ifs at hl

lemma history_asked (hp : ∀ j o e, w.locals j = .add o e → (requests j).start = .add o e)
    (h : Op.add o e ∈ history w as) : ∃ j, (requests j).start = .add o e := by
  induction as generalizing w with
  | nil => cases h
  | cons a as ih =>
    rw [history] at h
    cases hv : step w a with
    | none =>
      rw [hv] at h
      cases h
    | some v =>
      rw [hv] at h
      dsimp only at h
      rcases List.mem_append.mp h with hop | hrest
      · refine ⟨a.1, hp a.1 o e ?_⟩
        cases hl : w.locals a.1 with
        | add o' e' => simpa [hl, opOf, eq_comm] using hop
        | _ => simp [hl, opOf] at hop
      · refine ih (fun j o' e' hj => ?_) hrest
        obtain ⟨l, st, hnext, rfl⟩ := step_eq_some hv
        by_cases hja : j = a.1
        · subst hja
          exact absurd (by simpa using hj) ((next_effect hnext).not_pending o' e')
        · exact hp j o' e' (by simpa [hja] using hj)

/-- Whatever a listing reads while others change the slice is an entry that was asked for and added
to its own organization. -/
theorem listed_asked (requests : ι → Request) (as : List (ι × ℕ))
    (hr : run step (start requests) as = some w) (i : ι) {o : Bytes}
    {entries : List (Option Entry)} (hl : w.locals i = .listed o entries) :
    ∀ x ∈ entries, ∃ e j, x = some e ∧ (requests j).start = .add o e ∧
      Op.add o e ∈ history (start requests) as := by
  intro x hx
  have hown := (holds_run (start_holds requests fun o e => Op.add o e ∈ history (start requests) as)
    (fun _ _ h => h) hr).2 i
  rw [hl] at hown
  obtain ⟨e, rfl, he⟩ := hown x hx
  obtain ⟨j, hj⟩ := history_asked (fun _ _ _ h => h) he
  exact ⟨e, j, rfl, hj, he⟩

def four : Fin 4 → Request
  | 0 => .add [7] [1] [] [10] 0
  | 1 => .add [7] [2] [] [11] 0
  | 2 => .remove [7] [10]
  | 3 => .get [7]

def additions : List (Fin 4 × ℕ) := [(0, 0), (1, 0)]

def overlapping : List (Fin 4 × ℕ) := [(3, 0), (2, 0), (2, 0), (3, 0), (3, 0), (3, 0)]

theorem listed_asked_four :
    ∃ w, run step (start four) (additions ++ overlapping) = some w ∧
      w.locals 3 = .listed [7]
        [some (newEntry [7] [2] [] [11] 0), some (newEntry [7] [2] [] [11] 0)] ∧
      ∃ e j, some (newEntry [7] [2] [] [11] 0) = some e ∧ (four j).start = .add [7] e ∧
        Op.add [7] e ∈ history (start four) (additions ++ overlapping) := by
  refine ⟨_, rfl, rfl, ?_⟩
  exact listed_asked four (additions ++ overlapping) rfl 3 rfl _ (List.mem_cons_self ..)

/-! What the slices hold at a time when none is being read. -/

def Rep (st : Store ι) (lists : Lists) : Prop := ∀ o, contents st o = (lists o).map some

omit [DecidableEq ι] in
lemma contents_of_free (hfree : st.shifting = none) (o : Bytes) :
    contents st o = itemsOf st.heap (st.entries.lookup o) := by
  rw [contents, hfree]

omit [DecidableEq ι] in
lemma contents_of_moving (hm : st.shifting = some (i, o, s, k)) (o' : Bytes) :
    contents st o' = if o' = o then (items st.heap s).eraseIdx k
      else itemsOf st.heap (st.entries.lookup o') := by
  simp only [contents, hm, eq_comm]

omit [DecidableEq ι] in
lemma Good.itemsOf_add (hg : Good From st) (spare : ℕ) (o : Bytes) (e : Entry) (o' : Bytes) :
    itemsOf (st.add spare o e).heap ((st.add spare o e).entries.lookup o') =
      itemsOf st.heap (st.entries.lookup o') ++ if o' = o then [some e] else [] := by
  rw [add_lookup]
  split_ifs with ho
  · subst ho
    exact hg.items_add spare o' e
  · rw [List.append_nil]
    cases hs : st.entries.lookup o' with
    | none => rfl
    | some s =>
      have hheld := hg.held o' s hs
      simp only [itemsOf, Option.map_some, Option.getD_some]
      rcases add_cases st spare o e with ⟨t, ht, -, heq⟩ | ⟨n, l, heq⟩
      · rw [heq]
        exact items_write_of_le fun harray => absurd (hheld.apart o t ht harray).symm ho
      · rw [heq]
        exact items_concat l hheld.array_lt

omit [DecidableEq ι] in
lemma Rep.add {lists : Lists} (hrep : Rep st lists) (hg : Good From st)
    (hfree : st.shifting = none) (spare : ℕ) (o : Bytes) (e : Entry) :
    Rep (st.add spare o e) ((Op.add o e).apply lists) := by
  intro o'
  have hfree' : (st.add spare o e).shifting = none := hfree
  have hbefore := hrep o'
  rw [contents_of_free hfree] at hbefore
  rw [contents_of_free hfree', hg.itemsOf_add, hbefore, Op.apply]
  by_cases ho : o' = o
  · subst ho
    simp
  · simp [ho]

omit [DecidableEq ι] in
lemma eraseP_map (l : List Entry) (id : Bytes) {k : ℕ}
    (hk : (l.map some).findIdx? (hasID id) = some k) :
    (l.map some).eraseIdx k = (l.eraseP fun e => e.id == id).map some := by
  have hp : (hasID id ∘ some) = fun e : Entry => e.id == id := rfl
  rw [List.findIdx?_map, hp] at hk
  rw [List.eraseP_eq_eraseIdx, hk, List.eraseIdx_map]

omit [DecidableEq ι] in
lemma eraseP_none (l : List Entry) (id : Bytes)
    (hk : (l.map some).findIdx? (hasID id) = none) : (l.eraseP fun e => e.id == id) = l := by
  have hp : (hasID id ∘ some) = fun e : Entry => e.id == id := rfl
  rw [List.findIdx?_map, hp] at hk
  rw [List.eraseP_eq_eraseIdx, hk]

omit [DecidableEq ι] in
lemma Rep.missed {lists : Lists} {id : Bytes} (hrep : Rep st lists) (hfree : st.shifting = none)
    (hfind : st.find o id = none) : Rep st ((Op.remove o id).apply lists) := by
  intro o'
  rw [hrep o', Op.apply]
  by_cases ho : o' = o
  · subst ho
    rw [Function.update_self]
    have hbefore := hrep o'
    rw [contents_of_free hfree] at hbefore
    cases hs : st.entries.lookup o' with
    | none =>
      have hnil : lists o' = [] := by simpa [hs, itemsOf] using hbefore.symm
      simp [hnil]
    | some s =>
      have hitems : items st.heap s = (lists o').map some := by
        simpa [hs, itemsOf] using hbefore
      have hnone : (items st.heap s).findIdx? (hasID id) = none := by
        simpa [Store.find, hs] using hfind
      rw [eraseP_none _ _ (hitems ▸ hnone)]
  · rw [Function.update_of_ne ho]

omit [DecidableEq ι] in
lemma Rep.found {lists : Lists} {id : Bytes} (hrep : Rep st lists) (hfree : st.shifting = none)
    (hfind : st.find o id = some (s, k)) (i : ι) :
    Rep { st with shifting := some (i, o, s, k) } ((Op.remove o id).apply lists) := by
  intro o'
  obtain ⟨hl, hk⟩ := find_eq_some hfind
  have hbefore := hrep o'
  rw [contents_of_free hfree] at hbefore
  rw [contents_of_moving rfl, Op.apply]
  split_ifs with ho
  · subst ho
    have hitems : items st.heap s = (lists o').map some := by
      simpa [hl, itemsOf] using hbefore
    rw [Function.update_self, hitems]
    exact eraseP_map _ _ (hitems ▸ hk)
  · rw [Function.update_of_ne ho]
    exact hbefore

omit [DecidableEq ι] in
lemma Rep.shift {lists : Lists} (hrep : Rep st lists) (hg : Good From st)
    (hm : st.shifting = some (i, o, s, k)) : Rep (st.shift i o s k).2 lists := by
  intro o'
  obtain ⟨hl, hk⟩ := hg.moving i o s k hm
  have hle := (hg.held o s hl).len_le
  have hbefore := hrep o'
  rw [contents_of_moving hm] at hbefore
  rcases shift_cases st i o s k with ⟨x, hx, heq⟩ | ⟨hx, heq⟩
  · rw [heq, contents_of_moving rfl, ← hbefore]
    split_ifs with ho
    · rw [items_write_self, eraseIdx_set_next hx]
    · cases hs : st.entries.lookup o' with
      | none => rfl
      | some t =>
        have hapart := (hg.held o' t hs).apart o s hl
        exact items_write_of_le fun harray => absurd (hapart harray).symm ho
  · rw [heq, contents_of_free rfl, ← hbefore]
    dsimp only
    rw [Table.lookup_insert]
    split_ifs with ho
    · have hge := List.getElem?_eq_none_iff.mp hx
      have hlast : k = s.len - 1 := by
        rw [items_length hle] at hge
        omega
      have hpos : 0 < s.len := by omega
      rw [hlast, ← items_pred hle hpos]
      rfl
    · rfl

omit [DecidableEq ι] in
lemma Rep.step {lists : Lists} (hrep : Rep st lists) (hg : Good From st)
    (he : Effect i st l l' st') : Rep st' ((opOf l).toList.foldl Op.apply lists) := by
  cases he with
  | added o e spare hfree => exact hrep.add hg hfree spare o e
  | missed o id hfree hfind => exact hrep.missed hfree hfind
  | found o id s k hfree hfind => exact hrep.found hfree hfind i
  | shifted o s k hm l hl => exact hrep.shift hg hm
  | _ => exact hrep

lemma Rep.run {lists : Lists} (hfrom : ∀ o e, From o e) (hw : Holds (Good From) (Own From) w)
    (hrep : Rep w.store lists) (hr : run IPWhitelist.step w as = some w') :
    Rep w'.store ((history w as).foldl Op.apply lists) := by
  induction as generalizing w lists with
  | nil =>
    obtain rfl := Option.some.inj hr
    exact hrep
  | cons a as ih =>
    obtain ⟨v, hv, hr'⟩ := Option.bind_eq_some_iff.mp hr
    have hv' := holds_step hw (fun o e _ => hfrom o e) hv
    obtain ⟨l, st, hnext, rfl⟩ := step_eq_some hv
    rw [history, hv]
    dsimp only
    rw [List.foldl_append]
    exact ih hv' (hrep.step hw.1 (next_effect hnext)) hr'

omit [DecidableEq ι] in
lemma start_rep (requests : ι → Request) : Rep (start requests).store fun _ => [] :=
  fun _ => rfl

/-- At every moment of every run the slices hold what the additions and removals make of the lists
one after the other, in the order in which they got the lock. -/
theorem contents_run (requests : ι → Request) (as : List (ι × ℕ))
    (hr : run step (start requests) as = some w) (o : Bytes) :
    contents w.store o =
      ((history (start requests) as).foldl Op.apply (fun _ => []) o).map some :=
  (start_rep requests).run (fun _ _ => trivial) (start_holds requests fun _ _ => True) hr o

theorem contents_run_four :
    ∃ w, run step (start four) (additions ++ [(2, 0), (2, 0), (2, 0)]) = some w ∧
      contents w.store [7] =
        ((history (start four) (additions ++ [(2, 0), (2, 0), (2, 0)])).foldl Op.apply
          (fun _ => []) [7]).map some :=
  ⟨_, rfl, contents_run four _ rfl [7]⟩

/-! A listing during which no item of its organization is moved. -/

def NoMove (o : Bytes) (w : World ι Local (Store ι)) (a : ι × ℕ) : Prop :=
  w.store.shifting.map (fun m => (m.1, m.2.1)) ≠ some (a.1, o)

instance (o : Bytes) (w : World ι Local (Store ι)) (a : ι × ℕ) : Decidable (NoMove o w a) :=
  inferInstanceAs (Decidable (¬ _))

structure Unmoved (st : Store ι) (o : Bytes) (s : Option Slice) (l : List (Option Entry)) :
    Prop where
  items_eq : itemsOf st.heap s = l
  len_le : ∀ t t', s = some t → st.entries.lookup o = some t' → t'.array = t.array → t.len ≤ t'.len

variable {S : Option Slice} {L : List (Option Entry)}

omit [DecidableEq ι] in
lemma itemsOf_write (h : Heap Entry) (s : Option Slice) (b n : ℕ) (x : Option Entry)
    (hs : ∀ t, s = some t → b = t.array → t.len ≤ n) :
    itemsOf (write h b n x) s = itemsOf h s := by
  cases s with
  | none => rfl
  | some t => exact items_write_of_le (hs t rfl)

omit [DecidableEq ι] in
lemma Unmoved.add (hu : Unmoved st o S L) (hheld : ∀ t, S = some t → Held From st o t)
    (spare : ℕ) (o' : Bytes) (e : Entry) :
    Unmoved (st.add spare o' e) o S L := by
  rcases add_cases st spare o' e with ⟨t, ht, -, heq⟩ | ⟨n, l, heq⟩
  · rw [heq]
    refine ⟨?_, fun u v hS hv harray => ?_⟩
    · rw [itemsOf_write, hu.items_eq]
      intro u hS harray
      have ho := (hheld u hS).apart o' t ht harray
      exact hu.len_le u t hS (ho ▸ ht) harray
    · dsimp only at hv
      rw [Table.lookup_insert] at hv
      split_ifs at hv with ho
      · obtain rfl := Option.some.inj hv
        have hle := hu.len_le u t hS (ho ▸ ht) harray
        exact Nat.le_succ_of_le hle
      · exact hu.len_le u v hS hv harray
  · rw [heq]
    refine ⟨?_, fun u v hS hv harray => ?_⟩
    · rw [← hu.items_eq]
      cases S with
      | none => rfl
      | some u => exact items_concat l (hheld u rfl).array_lt
    · dsimp only at hv
      rw [Table.lookup_insert] at hv
      split_ifs at hv with ho
      · obtain rfl := Option.some.inj hv
        have hlt := (hheld u hS).array_lt
        dsimp only at harray
        omega
      · exact hu.len_le u v hS hv harray

omit [DecidableEq ι] in
lemma Unmoved.shift (hu : Unmoved st o S L) (hheld : ∀ t, S = some t → Held From st o t)
    (hl : st.entries.lookup o' = some s') (ho : o' ≠ o) (i : ι) (k : ℕ) :
    Unmoved (st.shift i o' s' k).2 o S L := by
  rcases shift_cases st i o' s' k with ⟨x, -, heq⟩ | ⟨-, heq⟩
  · rw [heq]
    refine ⟨?_, hu.len_le⟩
    rw [itemsOf_write, hu.items_eq]
    exact fun t hS harray => absurd ((hheld t hS).apart o' s' hl harray) ho
  · rw [heq]
    refine ⟨hu.items_eq, fun u v hS hv harray => ?_⟩
    dsimp only at hv
    rw [Table.lookup_insert, if_neg ho.symm] at hv
    exact hu.len_le u v hS hv harray

omit [DecidableEq ι] in
lemma Effect.unmoved (he : Effect i st l l' st') (hg : Good From st)
    (hheld : ∀ t, S = some t → Held From st o t)
    (hmove : ∀ s k, st.shifting ≠ some (i, o, s, k)) (hu : Unmoved st o S L) :
    Unmoved st' o S L := by
  cases he with
  | added o' e spare hfree => exact hu.add hheld spare o' e
  | shifted o' s k hm l hl =>
    have ho : o' ≠ o := by
      rintro rfl
      exact hmove s k hm
    exact hu.shift hheld (hg.moving i o' s k hm).1 ho i k
  | found => exact ⟨hu.items_eq, hu.len_le⟩
  | _ => exact hu

def Snap (i : ι) (o : Bytes) (L : List (Option Entry)) (w : World ι Local (Store ι)) : Prop :=
  match w.locals i with
  | .reading o' s acc => o' = o ∧ acc = L.take acc.length ∧ Unmoved w.store o s L
  | .listed o' entries => o' = o ∧ entries = L
  | _ => False

lemma Snap.step (hs : Snap i o L w) (hw : Holds (Good From) (Own From) w)
    (hm : NoMove o w a) (h : IPWhitelist.step w a = some w') : Snap i o L w' := by
  obtain ⟨l, st, hnext, rfl⟩ := step_eq_some h
  have he := next_effect hnext
  have hown := hw.2 i
  unfold Snap at hs ⊢
  by_cases hi : a.1 = i
  · subst hi
    dsimp only
    rw [Function.update_self]
    generalize hl : w.locals a.1 = m at he hs hown
    cases he with
    | read o' s acc x hx =>
      obtain ⟨ho, hacc, hu⟩ := hs
      refine ⟨ho, ?_, hu⟩
      have hitems : L[acc.length]? = some x := by
        rw [← hu.items_eq]
        exact hx
      rw [List.length_append, List.length_singleton, List.take_add_one, ← hacc, hitems]
      rfl
    | listed o' s acc hend =>
      obtain ⟨ho, hacc, hu⟩ := hs
      refine ⟨ho, ?_⟩
      have hle : L.length ≤ acc.length := by
        rw [← hu.items_eq]
        cases s with
        | none => exact Nat.zero_le _
        | some t => exact List.getElem?_eq_none_iff.mp (hend t rfl)
      rwa [List.take_of_length_le hle] at hacc
    | _ => exact hs.elim
  · dsimp only
    rw [Function.update_of_ne (Ne.symm hi)]
    have hmove : ∀ s k, w.store.shifting ≠ some (a.1, o, s, k) := by
      intro s k heq
      exact hm (by rw [heq]; rfl)
    generalize w.locals i = m at hs hown
    cases m with
    | reading o' s acc =>
      obtain ⟨rfl, hacc, hu⟩ := hs
      exact ⟨rfl, hacc, he.unmoved hw.1 hown.1 hmove hu⟩
    | listed o' entries => exact hs
    | _ => exact hs.elim

lemma Snap.run (hfrom : ∀ o e, From o e) (hs : Snap i o L w)
    (hw : Holds (Good From) (Own From) w) (hm : Guarded IPWhitelist.step (NoMove o) w as)
    (hr : Transition.run IPWhitelist.step w as = some w') : Snap i o L w' := by
  induction as generalizing w with
  | nil => exact Option.some.inj hr ▸ hs
  | cons a as ih =>
    obtain ⟨v, hv, hr'⟩ := Option.bind_eq_some_iff.mp hr
    obtain ⟨ha, hm'⟩ := hm v hv
    exact ih (hs.step hw ha hv) (holds_step hw (fun o e _ => hfrom o e) hv) hm' hr'

/-- A listing during which no removal of its organization gets past finding its entry shows the list
as it was when it had the lock, whatever is added meanwhile. -/
theorem listed_snapshot (requests : ι → Request) (as bs : List (ι × ℕ)) (i : ι) (n : ℕ)
    {o o' : Bytes} {entries : List (Option Entry)}
    (hr : run step (start requests) as = some w) (hget : w.locals i = .get o)
    (hrun : run step w ((i, n) :: bs) = some w') (hm : Guarded step (NoMove o) w ((i, n) :: bs))
    (hl : w'.locals i = .listed o' entries) :
    o' = o ∧ entries = ((history (start requests) as).foldl Op.apply (fun _ => []) o).map some := by
  have hw := holds_run (start_holds requests fun _ _ => True) (fun _ _ _ => trivial) hr
  obtain ⟨v, hv, hrun'⟩ := Option.bind_eq_some_iff.mp hrun
  obtain ⟨-, hm'⟩ := hm v hv
  have hv' := holds_step hw (fun _ _ _ => trivial) hv
  have hsnap : Snap i o (contents w.store o) v := by
    obtain ⟨l, st, hnext, rfl⟩ := step_eq_some hv
    have he := next_effect hnext
    rw [hget] at he
    cases he with
    | looked _ hfree =>
      unfold Snap
      dsimp only
      rw [Function.update_self, contents_of_free hfree]
      refine ⟨rfl, rfl, rfl, fun t t' ht ht' _ => ?_⟩
      obtain rfl := Option.some.inj (ht.symm.trans ht')
      exact Nat.le_refl _
  have hlast := hsnap.run (fun _ _ => trivial) hv' hm' hrun'
  unfold Snap at hlast
  rw [hl] at hlast
  refine ⟨hlast.1, hlast.2.trans ?_⟩
  exact (start_rep requests).run (fun _ _ => trivial) (start_holds requests fun _ _ => True) hr o

theorem listed_snapshot_four :
    ∃ w w' entries, run step (start four) [(0, 1)] = some w ∧
      run step w [(3, 0), (1, 0), (3, 0), (3, 0)] = some w' ∧ w'.locals 3 = .listed [7] entries ∧
      entries = ((history (start four) [(0, 1)]).foldl Op.apply (fun _ => []) [7]).map some := by
  refine ⟨_, _, _, rfl, rfl, rfl, ?_⟩
  exact (listed_snapshot four [(0, 1)] [(1, 0), (3, 0), (3, 0)] 3 0 rfl rfl rfl (by decide) rfl).2

end OmniTun.Api.IPWhitelist
