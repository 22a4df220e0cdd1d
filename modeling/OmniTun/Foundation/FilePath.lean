import OmniTun.Foundation.NetAddress

/-! Slash-separated paths: how their segments are walked, and what cleaning makes of them. -/

namespace OmniTun.Foundation.FilePath

open NetAddress

def dot : Bytes := [46]
def dotdot : Bytes := [46, 46]

/-- How many levels a path goes up, and the names by which it then goes down. -/
@[ext] structure Route where
  up : ℕ
  down : List Bytes
  deriving DecidableEq

namespace Route

def step (r : Route) (seg : Bytes) : Route :=
  if seg = [] ∨ seg = dot then r
  else if seg = dotdot then
    if r.down = [] then { r with up := r.up + 1 } else { r with down := r.down.dropLast }
  else { r with down := r.down ++ [seg] }

def walk (r : Route) (segs : List Bytes) : Route := segs.foldl step r

def segments (r : Route) : List Bytes := List.replicate r.up dotdot ++ r.down

def text (r : Route) : Bytes := if r.segments = [] then dot else [47].intercalate r.segments

end Route

def routeOf (path : Bytes) : Route := Route.walk ⟨0, []⟩ (path.splitOn 47)

/-- The shortest path to the same place, told by the text alone. Nothing lies above the root. -/
def clean (path : Bytes) : Bytes :=
  if path.head? = some 47 then 47 :: [47].intercalate (routeOf path).down else (routeOf path).text

def join (elems : List Bytes) : Bytes :=
  match elems.dropWhile (· = []) with
  | [] => []
  | elem :: elems => clean ([47].intercalate (elem :: elems))

def Below (dir path : Bytes) : Prop := dir ++ [47] <+: path

namespace Route

variable {r r' : Route} {base segs : List Bytes} {seg path : Bytes}

def Plain (seg : Bytes) : Prop := seg ≠ [] ∧ seg ≠ dot ∧ seg ≠ dotdot ∧ 47 ∉ seg

instance (seg : Bytes) : Decidable (Plain seg) :=
  inferInstanceAs (Decidable (seg ≠ [] ∧ seg ≠ dot ∧ seg ≠ dotdot ∧ 47 ∉ seg))

def Good (r : Route) : Prop := ∀ seg ∈ r.down, Plain seg

def under (base : List Bytes) (r : Route) : Route :=
  ⟨r.up - base.length, base.take (base.length - r.up) ++ r.down⟩

lemma step_name (h : Plain seg) (r : Route) : r.step seg = ⟨r.up, r.down ++ [seg]⟩ := by
  obtain ⟨hne, hdot, hdotdot, -⟩ := h
  rw [step, if_neg (not_or.mpr ⟨hne, hdot⟩), if_neg hdotdot]

lemma Good.step (h : r.Good) (hseg : 47 ∉ seg) : (r.step seg).Good := by
  rw [Route.step]
  split_ifs with hstay hup hnil
  · exact h
  · exact h
  · exact fun name hname => h name (List.mem_of_mem_dropLast hname)
  · intro name hname
    rcases List.mem_append.mp hname with hold | hnew
    · exact h name hold
    · obtain ⟨hne, hdot⟩ := not_or.mp hstay
      rw [List.mem_singleton.mp hnew]
      exact ⟨hne, hdot, hup, hseg⟩

lemma Good.append (h : r.Good) (hseg : Plain seg) : (Route.mk r.up (r.down ++ [seg])).Good := by
  intro name hname
  rcases List.mem_append.mp hname with hold | hnew
  · exact h name hold
  · rw [List.mem_singleton.mp hnew]
    exact hseg

lemma Good.walk (h : r.Good) (hsegs : ∀ seg ∈ segs, 47 ∉ seg) : (r.walk segs).Good := by
  induction segs generalizing r with
  | nil => exact h
  | cons seg segs ih =>
    apply ih (h.step (hsegs seg List.mem_cons_self))
    exact fun seg' hseg' => hsegs seg' (List.mem_cons_of_mem _ hseg')

lemma walk_append (r : Route) (segs segs' : List Bytes) :
    r.walk (segs ++ segs') = (r.walk segs).walk segs' := List.foldl_append

lemma walk_dotdots (up n : ℕ) : walk ⟨up, []⟩ (List.replicate n dotdot) = ⟨up + n, []⟩ := by
  induction n generalizing up with
  | zero => rfl
  | succ n ih =>
    have hstep : Route.step ⟨up, []⟩ dotdot = ⟨up + 1, []⟩ := rfl
    rw [List.replicate_succ, walk, List.foldl_cons, hstep]
    have hrest := ih (up + 1)
    rw [walk] at hrest
    rw [hrest]
    congr 1
    omega

lemma walk_names (r : Route) (h : ∀ seg ∈ segs, Plain seg) :
    r.walk segs = ⟨r.up, r.down ++ segs⟩ := by
  induction segs generalizing r with
  | nil => rw [List.append_nil, walk, List.foldl_nil]
  | cons seg segs ih =>
    have hstep := step_name (h seg List.mem_cons_self) r
    have hrest := ih (r.step seg) fun seg' hseg' => h seg' (List.mem_cons_of_mem _ hseg')
    rw [walk, List.foldl_cons]
    rw [walk] at hrest
    rw [hrest, hstep, List.append_assoc, List.singleton_append]

lemma walk_segments (h : r.Good) : walk ⟨0, []⟩ r.segments = r := by
  rw [segments, walk_append, walk_dotdots, walk_names _ h, Nat.zero_add, List.nil_append]

lemma step_under_up (base : List Bytes) (up : ℕ) :
    (under base ⟨up, []⟩).step dotdot = under base ⟨up + 1, []⟩ := by
  have hstay : ¬ (dotdot = [] ∨ dotdot = dot) := by decide
  by_cases hlt : up < base.length
  · have hne : base.take (base.length - up) ≠ [] := by
      apply List.ne_nil_of_length_pos
      rw [List.length_take]
      omega
    have hlen : min (min (base.length - up) base.length - 1) (base.length - up) =
        base.length - (up + 1) := by omega
    have hzero : up - base.length = 0 := by omega
    have hzero' : up + 1 - base.length = 0 := by omega
    simp only [under, step, if_neg hstay, if_true, List.append_nil, if_neg hne, hzero, hzero']
    rw [List.dropLast_eq_take, List.take_take, List.length_take, hlen]
  · have hzero : base.length - up = 0 := by omega
    have hzero' : base.length - (up + 1) = 0 := by omega
    have hup : up - base.length + 1 = up + 1 - base.length := by omega
    simp only [under, step, if_neg hstay, if_true, hzero, hzero', List.take_zero, List.append_nil,
      hup]

lemma step_under (base : List Bytes) (r : Route) (seg : Bytes) :
    (under base r).step seg = under base (r.step seg) := by
  by_cases hstay : seg = [] ∨ seg = dot
  · simp only [step, if_pos hstay]
  · by_cases hup : seg = dotdot
    · by_cases hdown : r.down = []
      · have hr : r = ⟨r.up, []⟩ := Route.ext rfl hdown
        have hstep : r.step seg = ⟨r.up + 1, []⟩ := by
          rw [step, if_neg hstay, if_pos hup, if_pos hdown, hdown]
        rw [hstep, hr, hup]
        exact step_under_up base r.up
      · have hne : (under base r).down ≠ [] := List.append_ne_nil_of_right_ne_nil _ hdown
        simp only [step, if_neg hstay, if_pos hup, if_neg hdown, if_neg hne]
        rw [under, under, List.dropLast_append_of_ne_nil hdown]
    · simp only [step, if_neg hstay, if_neg hup, under, List.append_assoc]

lemma walk_under (base : List Bytes) (r : Route) (segs : List Bytes) :
    (under base r).walk segs = under base (r.walk segs) := by
  induction segs generalizing r with
  | nil => rfl
  | cons seg segs ih =>
    have h := ih (r.step seg)
    rw [walk, List.foldl_cons, step_under]
    exact h

lemma segments_slash (h : r.Good) : ∀ seg ∈ r.segments, 47 ∉ seg := by
  intro seg hseg
  rcases List.mem_append.mp hseg with hup | hdown
  · rw [List.eq_of_mem_replicate hup]
    decide
  · exact (h seg hdown).2.2.2

lemma splitOn_text (h : r.Good) : r.text.splitOn 47 =
    if r.segments = [] then [dot] else r.segments := by
  rw [text]
  split_ifs with hnil
  · rfl
  · exact List.splitOn_intercalate 47 (segments_slash h) hnil

lemma routeOf_text (h : r.Good) : routeOf r.text = r := by
  rw [routeOf, splitOn_text h]
  split_ifs with hnil
  · have hwalk := walk_segments h
    rw [hnil] at hwalk
    exact hwalk
  · exact walk_segments h

lemma text_inj (h : r.Good) (h' : r'.Good) (heq : r.text = r'.text) : r = r' := by
  rw [← routeOf_text h, ← routeOf_text h', heq]

lemma slash_not_mem_splitOn (h : seg ∈ path.splitOn 47) : 47 ∉ seg := by
  induction path generalizing seg with
  | nil =>
    rw [List.splitOn_nil, List.mem_singleton] at h
    rw [h]
    exact List.not_mem_nil
  | cons c path ih =>
    rw [List.splitOn_cons_eq_if_modifyHead] at h
    split_ifs at h with hc
    · rcases List.mem_cons.mp h with rfl | h
      · exact List.not_mem_nil
      · exact ih h
    · cases hsplit : path.splitOn 47 with
      | nil => exact absurd hsplit (List.splitOn_ne_nil 47 path)
      | cons first rest =>
        rw [hsplit, List.modifyHead_cons] at h
        rw [hsplit] at ih
        rcases List.mem_cons.mp h with rfl | h
        · intro hmem
          rcases List.mem_cons.mp hmem with heq | hmem
          · exact hc (beq_iff_eq.mpr heq.symm)
          · exact ih List.mem_cons_self hmem
        · exact ih (List.mem_cons_of_mem _ h)

lemma routeOf_good (path : Bytes) : (routeOf path).Good := by
  have hstart : (Route.mk 0 []).Good := by
    intro seg hseg
    cases hseg
  exact hstart.walk fun seg hseg => slash_not_mem_splitOn hseg

lemma routeOf_append (path seg : Bytes) :
    routeOf (path ++ 47 :: seg) = (routeOf path).walk (seg.splitOn 47) := by
  rw [routeOf, List.splitOn_append_cons_self, walk_append, routeOf]

lemma segments_ne_nil (h : r.Good) : ∀ seg ∈ r.segments, seg ≠ [] := by
  intro seg hseg
  rcases List.mem_append.mp hseg with hup | hdown
  · rw [List.eq_of_mem_replicate hup]
    decide
  · exact (h seg hdown).1

lemma text_eq_cons (h : r.Good) : ∃ c rest, r.text = c :: rest ∧ c ≠ 47 := by
  rw [text]
  split_ifs with hnil
  · exact ⟨46, [], rfl, by decide⟩
  · obtain ⟨seg, segs, hsegs⟩ := List.exists_cons_of_ne_nil hnil
    have hmem : seg ∈ r.segments := by
      rw [hsegs]
      exact List.mem_cons_self
    obtain ⟨c, name, rfl⟩ := List.exists_cons_of_ne_nil (segments_ne_nil h seg hmem)
    have hc : c ≠ 47 := by
      rintro rfl
      exact segments_slash h _ hmem List.mem_cons_self
    rw [hsegs]
    cases segs with
    | nil => exact ⟨c, name, by simp [List.intercalate], hc⟩
    | cons seg' segs =>
      have hparts := intercalate_append 47 (List.cons_ne_nil (c :: name) [])
        (List.cons_ne_nil seg' segs)
      have hfirst : [47].intercalate [c :: name] = c :: name := by simp [List.intercalate]
      rw [hfirst] at hparts
      exact ⟨c, name ++ 47 :: [47].intercalate (seg' :: segs), hparts, hc⟩

lemma join_text (h : r.Good) (hseg : Plain seg) :
    join [r.text, seg] = (Route.mk r.up (r.down ++ [seg])).text := by
  obtain ⟨c, rest, htext, hc⟩ := text_eq_cons h
  have hne : r.text ≠ [] := by
    rw [htext]
    exact List.cons_ne_nil _ _
  have hdrop : [r.text, seg].dropWhile (· = []) = [r.text, seg] := by
    rw [List.dropWhile_cons_of_neg]
    simpa using hne
  have hjoin : [47].intercalate [r.text, seg] = r.text ++ 47 :: seg := by
    simp [List.intercalate]
  have hhead : (r.text ++ 47 :: seg).head? ≠ some 47 := by
    rw [htext, List.cons_append, List.head?_cons]
    exact fun heq => hc (Option.some.inj heq)
  have hsplit : seg.splitOn 47 = [seg] := List.splitOn_eq_singleton hseg.2.2.2
  rw [join, hdrop]
  simp only [hjoin]
  rw [clean, if_neg hhead, routeOf_append, routeOf_text h, hsplit, walk, List.foldl_cons,
    List.foldl_nil, step_name hseg]

lemma below_iff (h : r.Good) (hbase : ∀ seg ∈ base, Plain seg) (hne : base ≠ []) :
    Below (Route.mk 0 base).text r.text ↔ r.up = 0 ∧ ∃ rest ≠ [], r.down = base ++ rest := by
  have hsegs : (Route.mk 0 base).segments = base := rfl
  have hgood : (Route.mk 0 base).Good := hbase
  constructor
  · rintro ⟨path, hpath⟩
    have hsplit : base ++ path.splitOn 47 = r.text.splitOn 47 := by
      rw [← hpath, List.append_assoc, List.singleton_append, List.splitOn_append_cons_self,
        splitOn_text hgood, hsegs, if_neg hne]
    obtain ⟨first, base', rfl⟩ := List.exists_cons_of_ne_nil hne
    have hfirst : Plain first := hbase first List.mem_cons_self
    rw [splitOn_text h] at hsplit
    split_ifs at hsplit with hnil
    · exact absurd (List.cons.inj hsplit).1 hfirst.2.1
    · rw [segments] at hsplit
      cases hup : r.up with
      | zero =>
        rw [hup] at hsplit
        exact ⟨rfl, path.splitOn 47, List.splitOn_ne_nil 47 path, hsplit.symm⟩
      | succ n =>
        rw [hup, List.replicate_succ] at hsplit
        exact absurd (List.cons.inj hsplit).1 hfirst.2.2.1
  · rintro ⟨hup, rest, hrest, hdown⟩
    have hall : r.segments = base ++ rest := by
      rw [segments, hup, hdown]
      rfl
    rw [Below, text, text, hsegs, hall, if_neg hne, if_neg (List.append_ne_nil_of_left_ne_nil hne _),
      intercalate_append 47 hne hrest]
    exact ⟨[47].intercalate rest, by simp⟩

end Route

end OmniTun.Foundation.FilePath
