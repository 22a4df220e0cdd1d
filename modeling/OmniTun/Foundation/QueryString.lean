import Mathlib.Data.List.Dedup
import Mathlib.Data.List.Intervals
import Mathlib.Data.List.TakeWhile
import Mathlib.Tactic.IntervalCases
import OmniTun.Foundation.Transport

/-! Percent-encoded text, and the parameters that the query of a URL or the body of a form
carries. -/

namespace OmniTun.Foundation.QueryString

/-! Escapes. -/

def hexDigit (d : ℕ) : UInt8 := if d < 10 then UInt8.ofNat (48 + d) else UInt8.ofNat (55 + d)

def hexValue (b : UInt8) : Option ℕ :=
  if 48 ≤ b ∧ b ≤ 57 then some (b.toNat - 48)
  else if 65 ≤ b ∧ b ≤ 70 then some (b.toNat - 55)
  else if 97 ≤ b ∧ b ≤ 102 then some (b.toNat - 87)
  else none

/-- In a query a blank is written as a plus sign. -/
inductive Mode
  | query
  | path
  deriving DecidableEq

def unreserved (b : UInt8) : Bool :=
  (48 ≤ b ∧ b ≤ 57) ∨ (65 ≤ b ∧ b ≤ 90) ∨ (97 ≤ b ∧ b ≤ 122) ∨ b ∈ ([45, 46, 95, 126] : Bytes)

def kept : Mode → UInt8 → Bool
  | .query, b => unreserved b
  | .path, b => unreserved b ∨ b ∈ ([36, 38, 43, 58, 61, 64] : Bytes)

def escapeByte (m : Mode) (b : UInt8) : Bytes :=
  if kept m b then [b]
  else if m = .query ∧ b = 32 then [43]
  else [37, hexDigit (b.toNat / 16), hexDigit (b.toNat % 16)]

def escape (m : Mode) (s : Bytes) : Bytes := s.flatMap (escapeByte m)

def unescape (m : Mode) : Bytes → Option Bytes
  | [] => some []
  | [c] => if c = 37 then none else some [if m = .query ∧ c = 43 then 32 else c]
  | [c, d] =>
    if c = 37 then none
    else (unescape m [d]).map ((if m = .query ∧ c = 43 then 32 else c) :: ·)
  | c :: d :: e :: s =>
    if c = 37 then
      (hexValue d).bind fun x => (hexValue e).bind fun y =>
        (unescape m s).map (UInt8.ofNat (16 * x + y) :: ·)
    else (unescape m (d :: e :: s)).map ((if m = .query ∧ c = 43 then 32 else c) :: ·)

lemma hexValue_hexDigit {d : ℕ} (h : d < 16) : hexValue (hexDigit d) = some d := by
  interval_cases d <;> rfl

lemma unescape_percent (m : Mode) (x y : UInt8) (s : Bytes) : unescape m (37 :: x :: y :: s) =
    (hexValue x).bind fun x => (hexValue y).bind fun y =>
      (unescape m s).map (UInt8.ofNat (16 * x + y) :: ·) := by
  rw [unescape, if_pos rfl]

lemma unescape_cons (m : Mode) {c : UInt8} (h : c ≠ 37) (s : Bytes) : unescape m (c :: s) =
    (unescape m s).map ((if m = .query ∧ c = 43 then 32 else c) :: ·) := by
  match s with
  | [] => simp [unescape, h]
  | [d] =>
    rw [unescape.eq_def]
    exact if_neg h
  | d :: e :: s => rw [unescape, if_neg h]

lemma unescape_escapeByte (m : Mode) (b : UInt8) (s : Bytes) :
    unescape m (escapeByte m b ++ s) = (unescape m s).map (b :: ·) := by
  unfold escapeByte
  split_ifs with hkept hblank
  · have hpercent : b ≠ 37 := by
      rintro rfl
      cases m <;> exact absurd hkept (by decide)
    have hplus : ¬ (m = .query ∧ b = 43) := by
      rintro ⟨rfl, rfl⟩
      exact absurd hkept (by decide)
    rw [List.singleton_append, unescape_cons m hpercent, if_neg hplus]
  · obtain ⟨rfl, rfl⟩ := hblank
    rw [List.singleton_append, unescape_cons _ (by decide), if_pos ⟨rfl, rfl⟩]
  · have hlt : b.toNat < 256 := b.toNat_lt
    have hhigh := hexValue_hexDigit (d := b.toNat / 16) (by omega)
    have hlow := hexValue_hexDigit (d := b.toNat % 16) (by omega)
    have hvalue : 16 * (b.toNat / 16) + b.toNat % 16 = b.toNat := Nat.div_add_mod _ _
    simp only [List.cons_append, List.nil_append, unescape_percent, hhigh, hlow,
      Option.bind_some, hvalue, UInt8.ofNat_toNat]

lemma unescape_escape_append (m : Mode) (s t : Bytes) :
    unescape m (escape m s ++ t) = (unescape m t).map (s ++ ·) := by
  induction s with
  | nil => simp [escape]
  | cons b s ih =>
    have hcons : escape m (b :: s) = escapeByte m b ++ escape m s := List.flatMap_cons
    rw [hcons, List.append_assoc, unescape_escapeByte, ih, Option.map_map]
    rfl

lemma unescape_escape (m : Mode) (s : Bytes) : unescape m (escape m s) = some s := by
  have h := unescape_escape_append m s []
  rwa [List.append_nil, unescape, Option.map_some, List.append_nil] at h

lemma hexDigit_mem {d : ℕ} (h : d < 16) : hexDigit d ∈ ascii "0123456789ABCDEF" := by
  interval_cases d <;> decide

lemma escape_mem {m : Mode} {s : Bytes} {c : UInt8} (h : c ∈ escape m s) :
    kept m c = true ∨ c = 37 ∨ c = 43 ∨ c ∈ ascii "0123456789ABCDEF" := by
  obtain ⟨b, -, hc⟩ := List.mem_flatMap.mp h
  unfold escapeByte at hc
  split_ifs at hc with hkept hblank
  · obtain rfl := List.mem_singleton.mp hc
    exact .inl hkept
  · obtain rfl := List.mem_singleton.mp hc
    exact .inr (.inr (.inl rfl))
  · have hlt : b.toNat < 256 := b.toNat_lt
    simp only [List.mem_cons, List.not_mem_nil, or_false] at hc
    rcases hc with rfl | rfl | rfl
    · exact .inr (.inl rfl)
    · exact .inr (.inr (.inr (hexDigit_mem (by omega))))
    · exact .inr (.inr (.inr (hexDigit_mem (by omega))))

lemma escape_not_mem {m : Mode} {s : Bytes} {c : UInt8}
    (hc : ¬ (kept m c = true ∨ c = 37 ∨ c = 43 ∨ c ∈ ascii "0123456789ABCDEF")) :
    c ∉ escape m s :=
  mt escape_mem hc

lemma unescape_length {m : Mode} {s t : Bytes} (h : unescape m s = some t) :
    t.length ≤ s.length := by
  induction hn : s.length using Nat.strong_induction_on generalizing s t with
  | _ n ih =>
    subst hn
    match s with
    | [] =>
      obtain rfl := Option.some.inj h
      exact Nat.le_refl _
    | c :: s =>
      by_cases hc : c = 37
      · subst hc
        match s with
        | [] => simp [unescape] at h
        | [x] => simp [unescape] at h
        | x :: y :: s =>
          rw [unescape_percent] at h
          obtain ⟨a, -, h⟩ := Option.bind_eq_some_iff.mp h
          obtain ⟨b, -, h⟩ := Option.bind_eq_some_iff.mp h
          obtain ⟨u, hu, rfl⟩ := Option.map_eq_some_iff.mp h
          have hle := ih s.length (by simp only [List.length_cons]; omega) hu rfl
          simp only [List.length_cons]
          omega
      · rw [unescape_cons m hc] at h
        obtain ⟨u, hu, rfl⟩ := Option.map_eq_some_iff.mp h
        have hle := ih s.length (Nat.lt_succ_self _) hu rfl
        simp only [List.length_cons]
        omega

lemma unescape_query_eq_self_iff (s : Bytes) :
    unescape .query s = some s ↔ 37 ∉ s ∧ 43 ∉ s := by
  induction s with
  | nil => simp [unescape]
  | cons c s ih =>
    by_cases hc : c = 37
    · subst hc
      refine iff_of_false (fun h => ?_) (by simp)
      match s with
      | [] => simp [unescape] at h
      | [x] => simp [unescape] at h
      | x :: y :: s =>
        rw [unescape_percent] at h
        obtain ⟨a, -, h⟩ := Option.bind_eq_some_iff.mp h
        obtain ⟨b, -, h⟩ := Option.bind_eq_some_iff.mp h
        obtain ⟨u, hu, hcons⟩ := Option.map_eq_some_iff.mp h
        obtain ⟨-, rfl⟩ := List.cons.inj hcons
        have hle := unescape_length hu
        simp only [List.length_cons] at hle
        omega
    · rw [unescape_cons _ hc]
      by_cases hplus : c = 43
      · subst hplus
        refine iff_of_false (fun h => ?_) (by simp)
        obtain ⟨u, -, hcons⟩ := Option.map_eq_some_iff.mp h
        exact absurd (List.cons.inj hcons).1 (by decide)
      · have hmap : (unescape .query s).map (c :: ·) = some (c :: s) ↔
            unescape .query s = some s := by
          simp
        simp [hplus, hmap, ih, Ne.symm hc, Ne.symm hplus]

/-! Parameters. -/

abbrev Pairs := List (Bytes × Bytes)

def get (ps : Pairs) (key : Bytes) : List Bytes :=
  ps.filterMap fun p => if p.1 = key then some p.2 else none

def set (ps : Pairs) (key value : Bytes) : Pairs := ps.filter (·.1 ≠ key) ++ [(key, value)]

def encodePair (p : Bytes × Bytes) : Bytes := escape .query p.1 ++ 61 :: escape .query p.2

def encodePairs (ps : Pairs) : Bytes := [38].intercalate (ps.map encodePair)

/-- The keys are sorted when parameters are written. -/
def byKey (ps : Pairs) : Pairs :=
  ((ps.map Prod.fst).dedup.mergeSort fun a b => decide (a ≤ b)).flatMap fun key =>
    (get ps key).map fun v => (key, v)

def encode (ps : Pairs) : Bytes := encodePairs (byKey ps)

/-- What cannot be read is left out. -/
def parsePair (seg : Bytes) : Option (Bytes × Bytes) :=
  if seg = [] ∨ 59 ∈ seg then none
  else
    (unescape .query (seg.takeWhile (· ≠ 61))).bind fun key =>
      (unescape .query (seg.dropWhile (· ≠ 61)).tail).map fun value => (key, value)

def parse (s : Bytes) : Pairs := (s.splitOn 38).filterMap parsePair

def rawQuery (url : Bytes) : Bytes := ((url.takeWhile (· ≠ 35)).dropWhile (· ≠ 63)).tail

def readQuery (url : Bytes) : Pairs := parse (rawQuery url)

@[simp] lemma parse_nil : parse [] = [] := rfl

lemma parse_append (s t : Bytes) : parse (s ++ 38 :: t) = parse s ++ parse t := by
  rw [parse, List.splitOn_append_cons_self, List.filterMap_append]
  rfl

lemma parsePair_encodePair (p : Bytes × Bytes) : parsePair (encodePair p) = some p := by
  have hkey : ∀ b ∈ escape .query p.1, decide (b ≠ 61) = true := by
    intro b hb
    have hne : b ≠ 61 := fun h => escape_not_mem (by decide) (h ▸ hb)
    simpa using hne
  have hnil : encodePair p ≠ [] := by simp [encodePair]
  have hsemi : 59 ∉ encodePair p := by
    have hfirst : 59 ∉ escape .query p.1 := escape_not_mem (by decide)
    have hsecond : 59 ∉ escape .query p.2 := escape_not_mem (by decide)
    simp [encodePair, hfirst, hsecond]
  have htake : (encodePair p).takeWhile (· ≠ 61) = escape .query p.1 := by
    rw [encodePair, List.takeWhile_append_of_pos hkey]
    simp
  have hdrop : (encodePair p).dropWhile (· ≠ 61) = 61 :: escape .query p.2 := by
    rw [encodePair, List.dropWhile_append_of_pos hkey]
    simp
  rw [parsePair, if_neg (not_or.mpr ⟨hnil, hsemi⟩), htake, hdrop, List.tail_cons,
    unescape_escape, unescape_escape]
  rfl

lemma amp_not_mem_encodePair (p : Bytes × Bytes) : 38 ∉ encodePair p := by
  have hfirst : 38 ∉ escape .query p.1 := escape_not_mem (by decide)
  have hsecond : 38 ∉ escape .query p.2 := escape_not_mem (by decide)
  simp [encodePair, hfirst, hsecond]

/-- Parameters that were written are read back, in their order. -/
theorem parse_encodePairs (ps : Pairs) : parse (encodePairs ps) = ps := by
  cases ps with
  | nil => rfl
  | cons p ps =>
    have hamp : ∀ seg ∈ (p :: ps).map encodePair, 38 ∉ seg := by
      intro seg hseg
      obtain ⟨q, -, rfl⟩ := List.mem_map.mp hseg
      exact amp_not_mem_encodePair q
    rw [parse, encodePairs, List.splitOn_intercalate 38 hamp (by simp), List.filterMap_map]
    have hsome : parsePair ∘ encodePair = some := funext parsePair_encodePair
    rw [hsome, List.filterMap_some]

lemma get_append (ps qs : Pairs) (key : Bytes) : get (ps ++ qs) key = get ps key ++ get qs key :=
  List.filterMap_append ..

lemma get_eq_nil {ps : Pairs} {key : Bytes} (h : key ∉ ps.map Prod.fst) : get ps key = [] := by
  rw [get, List.filterMap_eq_nil_iff]
  intro p hp
  have hne : p.1 ≠ key := fun hkey => h (List.mem_map.mpr ⟨p, hp, hkey⟩)
  exact if_neg hne

lemma get_map_key (vs : List Bytes) (k key : Bytes) :
    get (vs.map fun v => (k, v)) key = if k = key then vs else [] := by
  rw [get, List.filterMap_map]
  split_ifs with hk
  · simp [hk]
  · simp [hk]

lemma get_flatMap (ps : Pairs) {keys : List Bytes} (hnodup : keys.Nodup) (key : Bytes) :
    get (keys.flatMap fun k => (get ps k).map fun v => (k, v)) key =
      if key ∈ keys then get ps key else [] := by
  induction keys with
  | nil => rfl
  | cons k keys ih =>
    obtain ⟨hk, hrest⟩ := List.nodup_cons.mp hnodup
    rw [List.flatMap_cons, get_append, get_map_key, ih hrest]
    by_cases hkey : k = key
    · subst hkey
      simp [hk]
    · simp [hkey, Ne.symm hkey]

lemma get_byKey (ps : Pairs) (key : Bytes) : get (byKey ps) key = get ps key := by
  have hperm := List.mergeSort_perm (ps.map Prod.fst).dedup fun a b => decide (a ≤ b)
  have hnodup := hperm.nodup_iff.mpr (List.nodup_dedup _)
  have hmem := hperm.mem_iff.trans (List.mem_dedup (a := key))
  rw [byKey, get_flatMap ps hnodup key]
  split_ifs with hkey
  · rfl
  · exact (get_eq_nil (mt hmem.mpr hkey)).symm

lemma get_parse_encode (ps : Pairs) (key : Bytes) : get (parse (encode ps)) key = get ps key := by
  rw [encode, parse_encodePairs, get_byKey]

lemma get_singleton (k v key : Bytes) : get [(k, v)] key = if key = k then [v] else [] := by
  rw [← List.map_singleton (f := fun v => (k, v)), get_map_key]
  simp only [eq_comm]

lemma get_set (ps : Pairs) (k v key : Bytes) :
    get (set ps k v) key = if key = k then [v] else get ps key := by
  rw [set, get_append, get_singleton, get, List.filterMap_filter]
  split_ifs with hkey
  · subst hkey
    simp
  · have hsame : (fun p : Bytes × Bytes => if (decide (p.1 ≠ k)) = true then
        (if p.1 = key then some p.2 else none) else none) =
        fun p => if p.1 = key then some p.2 else none := by
      funext p
      by_cases hp : p.1 = key
      · simp [hp, hkey]
      · simp [hp]
    rw [hsame, List.append_nil]
    rfl

def setAll (ps params : Pairs) : Pairs := params.foldl (fun ps p => set ps p.1 p.2) ps

lemma get_setAll (ps : Pairs) {params : Pairs} (h : (params.map Prod.fst).Nodup) (key : Bytes) :
    get (setAll ps params) key =
      if key ∈ params.map Prod.fst then get params key else get ps key := by
  induction params using List.reverseRecOn with
  | nil => rfl
  | append_singleton params p ih =>
    rw [List.map_append, List.map_singleton, List.nodup_append] at h
    obtain ⟨hparams, -, hdisjoint⟩ := h
    rw [setAll, List.foldl_append]
    have hrest := ih hparams
    rw [setAll] at hrest
    simp only [List.foldl_cons, List.foldl_nil]
    rw [get_set, hrest, get_append, get_singleton, List.map_append, List.map_singleton]
    by_cases hkey : key = p.1
    · have hnot : key ∉ params.map Prod.fst := by
        intro hmem
        exact hdisjoint key hmem p.1 (List.mem_singleton_self _) hkey
      simp [hkey, get_eq_nil (hkey ▸ hnot)]
    · simp only [hkey, if_false, List.append_nil, List.mem_append, List.mem_singleton, or_false]

lemma get_setAll_nil {params : Pairs} (h : (params.map Prod.fst).Nodup) (key : Bytes) :
    get (setAll [] params) key = get params key := by
  rw [get_setAll [] h]
  split_ifs with hkey
  · rfl
  · exact (get_eq_nil hkey).symm

lemma encodePairs_singleton (p : Bytes × Bytes) : encodePairs [p] = encodePair p := by
  simp [encodePairs]

lemma encodePairs_cons (p q : Bytes × Bytes) (ps : Pairs) :
    encodePairs (p :: q :: ps) = encodePair p ++ 38 :: encodePairs (q :: ps) := by
  simp [encodePairs]

/-! URLs. -/

def base (url : Bytes) : Bytes := url.takeWhile fun c => c ≠ 35 ∧ c ≠ 63

def fragment (url : Bytes) : Bytes :=
  if url.dropWhile (· ≠ 35) = [35] then [] else url.dropWhile (· ≠ 35)

def setQuery (url : Bytes) (f : Pairs → Pairs) : Bytes :=
  base url ++ 63 :: encode (f (readQuery url)) ++ fragment url

lemma takeWhile_hash {s back : Bytes} (hs : 35 ∉ s) (hback : ∀ c ∈ back.head?, c = 35) :
    (s ++ back).takeWhile (· ≠ 35) = s := by
  have hall : ∀ c ∈ s, decide (c ≠ 35) = true := by
    intro c hc
    have hne : c ≠ 35 := fun h => hs (h ▸ hc)
    simpa using hne
  rw [List.takeWhile_append_of_pos hall]
  cases back with
  | nil => simp
  | cons c back =>
    obtain rfl := hback c rfl
    simp

lemma takeWhile_self {s : Bytes} (hs : 35 ∉ s) : s.takeWhile (· ≠ 35) = s := by
  have h := @takeWhile_hash s [] hs (by simp)
  rwa [List.append_nil] at h

lemma rawQuery_append {front q back : Bytes} (hhash : 35 ∉ front) (hmark : 63 ∉ front)
    (hq : 35 ∉ q) (hback : ∀ c ∈ back.head?, c = 35) : rawQuery (front ++ 63 :: q ++ back) = q := by
  have hall : ∀ c ∈ front, decide (c ≠ 63) = true := by
    intro c hc
    have hne : c ≠ 63 := fun h => hmark (h ▸ hc)
    simpa using hne
  rw [rawQuery, takeWhile_hash (by simp [hhash, hq]) hback, List.dropWhile_append_of_pos hall]
  simp

lemma rawQuery_mark {url q : Bytes} (hmark : 63 ∉ url) (hhash : 35 ∉ url) (hq : 35 ∉ q) :
    rawQuery url = [] ∧ rawQuery (url ++ 63 :: q) = q := by
  have hnone : url.dropWhile (· ≠ 63) = [] := by
    rw [List.dropWhile_eq_nil_iff]
    intro c hc
    have hne : c ≠ 63 := fun h => hmark (h ▸ hc)
    simpa using hne
  have hquery : rawQuery (url ++ 63 :: q ++ []) = q := rawQuery_append hhash hmark hq (by simp)
  rw [List.append_nil] at hquery
  refine ⟨?_, hquery⟩
  rw [rawQuery, takeWhile_self hhash, hnone]
  rfl

lemma rawQuery_amp {url q : Bytes} (hmark : 63 ∈ url) (hhash : 35 ∉ url) (hq : 35 ∉ q) :
    rawQuery (url ++ 38 :: q) = rawQuery url ++ 38 :: q := by
  have hfirst := takeWhile_self hhash
  have hboth : (url ++ 38 :: q).takeWhile (· ≠ 35) = url ++ 38 :: q :=
    takeWhile_self (by simp [hhash, hq])
  obtain ⟨c, rest, hrest⟩ : ∃ c rest, url.dropWhile (· ≠ 63) = c :: rest := by
    apply List.exists_cons_of_ne_nil
    rw [Ne, List.dropWhile_eq_nil_iff]
    intro hnone
    simpa using hnone 63 hmark
  rw [rawQuery, rawQuery, hfirst, hboth, List.dropWhile_append, hrest]
  rfl

lemma rawQuery_fragment {url : Bytes} (hhash : 35 ∈ url) (q : Bytes) :
    rawQuery (url ++ q) = rawQuery url := by
  have hlength : (url.takeWhile (· ≠ 35)).length ≠ url.length := by
    intro hlen
    have heq := (List.takeWhile_prefix (p := fun c => decide (c ≠ 35)) (l := url)).eq_of_length hlen
    rw [← heq] at hhash
    simpa using List.mem_takeWhile_imp hhash
  rw [rawQuery, rawQuery, List.takeWhile_append, if_neg hlength]

lemma mem_intercalate {sep c : UInt8} {l : List Bytes} (h : c ∈ [sep].intercalate l) :
    c = sep ∨ ∃ s ∈ l, c ∈ s := by
  induction l with
  | nil => simp at h
  | cons s l ih =>
    cases l with
    | nil => exact .inr ⟨s, List.mem_cons_self, by simpa using h⟩
    | cons t l =>
      rw [List.intercalate_cons_cons, List.mem_append, List.mem_append, List.mem_singleton] at h
      rcases h with (h | h) | h
      · exact .inr ⟨s, List.mem_cons_self, h⟩
      · exact .inl h
      · exact (ih h).imp_right fun ⟨u, hu, hc⟩ => ⟨u, List.mem_cons_of_mem _ hu, hc⟩

lemma hash_not_mem_encodePairs (ps : Pairs) : 35 ∉ encodePairs ps := by
  intro h
  rcases mem_intercalate h with h | ⟨seg, hseg, h⟩
  · exact absurd h (by decide)
  · obtain ⟨p, -, rfl⟩ := List.mem_map.mp hseg
    have hfirst : 35 ∉ escape .query p.1 := escape_not_mem (by decide)
    have hsecond : 35 ∉ escape .query p.2 := escape_not_mem (by decide)
    simp [encodePair, hfirst, hsecond] at h

lemma base_append {front : Bytes} (hhash : 35 ∉ front) (hmark : 63 ∉ front) (back : Bytes) :
    base (front ++ 63 :: back) = front := by
  have hall : ∀ c ∈ front, decide (c ≠ 35 ∧ c ≠ 63) = true := by
    intro c hc
    have hne : c ≠ 35 ∧ c ≠ 63 := ⟨fun h => hhash (h ▸ hc), fun h => hmark (h ▸ hc)⟩
    simpa using hne
  rw [base, List.takeWhile_append_of_pos hall]
  simp

lemma base_not_mem (url : Bytes) : 35 ∉ base url ∧ 63 ∉ base url := by
  constructor
  · intro h
    simpa using List.mem_takeWhile_imp h
  · intro h
    simpa using List.mem_takeWhile_imp h

lemma fragment_head (url : Bytes) : ∀ c ∈ (fragment url).head?, c = 35 := by
  intro c hc
  unfold fragment at hc
  split_ifs at hc with hempty
  · simp at hc
  · cases hdrop : url.dropWhile (· ≠ 35) with
    | nil =>
      rw [hdrop] at hc
      exact absurd hc (by simp)
    | cons d rest =>
      have hhead := List.head?_dropWhile_not (fun c : UInt8 => decide (c ≠ 35)) url
      rw [hdrop] at hhead hc
      obtain rfl := Option.some.inj hc
      simpa using hhead

/-- Whoever gets the URL reads the parameters that were set. -/
theorem get_readQuery_setQuery (url : Bytes) (f : Pairs → Pairs) (key : Bytes) :
    get (readQuery (setQuery url f)) key = get (f (readQuery url)) key := by
  obtain ⟨hhash, hmark⟩ := base_not_mem url
  have hquery := rawQuery_append hhash hmark (hash_not_mem_encodePairs (byKey (f (readQuery url))))
    (fragment_head url)
  rw [readQuery, setQuery, encode, hquery, parse_encodePairs, get_byKey]

end OmniTun.Foundation.QueryString
