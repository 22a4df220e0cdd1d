import OmniTun.Scim.Handlers

/-! Which users a filter finds, and what the pages of users and groups add up to. -/

namespace OmniTun.Scim

open OmniTun.Foundation Numerals TiedPages

section Definitions

def quoted (text v : Bytes) : Bytes := text ++ 34 :: (v ++ [34])

/-- The filter stands for these users: every answer counts them and lists no other, and one that is
large enough lists them all. -/
structure Finds (t : Tables) (filter : Bytes) (wanted : List UserRow) : Prop where
  listed : ∀ o startIndex count l, listUsers o t filter startIndex count = .ok l →
    l.totalResults = wanted.length ∧ ∀ v ∈ l.resources, ∃ u ∈ wanted, v = u.toSCIM
  complete : ∀ (order : Sorting UserRow.createdAt) (count : ℕ), wanted.length ≤ count →
    count < 2 ^ 63 → ∃ l, listUsers { order := order } t filter [] (intNumeral count) = .ok l ∧
      l.resources.Perm (wanted.map UserRow.toSCIM)

/-- Every page is answered and not too long, and together they give every resource once. -/
def PagesExact {α : Type} (answer : ℕ → Except SCIMError (SCIMListResponse α)) (count n : ℕ)
    (wanted : List α) : Prop :=
  ∃ ls : ℕ → SCIMListResponse α,
    (∀ k < n, answer k = .ok (ls k) ∧ (ls k).resources.length ≤ count) ∧
    ((List.range n).flatMap fun k => (ls k).resources).Perm wanted

def startOf (count k : ℕ) : Bytes := intNumeral (1 + k * count : ℕ)

def matchingUsers (t : Tables) (filter : Bytes) : List UserRow := t.users.filter (userWhere filter)

def liveGroups (t : Tables) : List OrganizationRow :=
  t.organizations.filter fun org => org.deletedAt.isNone

inductive Query
  | userName (v : Bytes)
  | externalID (v : Bytes)
  | userPages (filter : Bytes) (count n : ℕ)
  | groupPages (count n : ℕ)

/-- The numbers are those of 64-bit integers, and the pages are enough for what is to be listed. -/
def Query.Asked (t : Tables) : Query → Prop
  | .userName _ | .externalID _ => t.users.length < 2 ^ 63
  | .userPages filter count n => 0 < count ∧ count < 2 ^ 63 ∧ (∀ k < n, 1 + k * count < 2 ^ 63) ∧
      (matchingUsers t filter).length ≤ n * count
  | .groupPages count n => 0 < count ∧ count < 2 ^ 63 ∧ (∀ k < n, 1 + k * count < 2 ^ 63) ∧
      (liveGroups t).length ≤ n * count

def Query.Exact (t : Tables) : Query → Prop
  | .userName v =>
    Finds t (quoted userNamePrefix v) (t.users.filter fun u => u.live ∧ u.email = v)
  | .externalID v =>
    Finds t (quoted externalIDPrefix v) (t.users.filter fun u => u.live ∧ u.externalID = some v)
  | .userPages filter count n => ∀ orders : ℕ → Sorting UserRow.createdAt,
      PagesExact
        (fun k => listUsers { order := orders k } t filter (startOf count k) (intNumeral count))
        count n ((matchingUsers t filter).map UserRow.toSCIM)
  | .groupPages count n => ∀ orders : ℕ → Sorting OrganizationRow.createdAt,
      PagesExact (fun k => listGroups { order := orders k } t (startOf count k) (intNumeral count))
        count n ((liveGroups t).map OrganizationRow.toSCIM)

/-- Quotes at the ends of the value do not count, an external id is looked for among the ids, the
pages of users are cut from lists that agree where no tie lies across a border, and every page of
groups has them all. -/
def Query.Answerable (t : Tables) : Query → Prop
  | .userName v => trimWhile (· = 34) v = v ∨
      ∀ u ∈ t.users, u.live → u.email ≠ v ∧ u.email ≠ trimWhile (· = 34) v
  | .externalID v =>
    ∀ u ∈ t.users, u.live → (u.id = trimWhile (· = 34) v ↔ u.externalID = some v)
  | .userPages filter count _ =>
    ∀ k, ¬ Straddled UserRow.createdAt (matchingUsers t filter) (k * count)
  | .groupPages _ n => n = 1 ∨ liveGroups t = []

end Definitions

section Answers

variable {t : Tables} {filter : Bytes}

lemma sscanfInt_intNumeral (default : ℤ) {n : ℕ} (h : n < 2 ^ 63) :
    sscanfInt default (intNumeral n) = n := by
  have hne : intNumeral n ≠ [] := by
    intro hnil
    have hscan := scanInt64_intNumeral (n := (n : ℤ)) (by omega) (by omega)
    rw [hnil] at hscan
    cases hscan
  rw [sscanfInt, if_neg hne, scanInt64_intNumeral (by omega) (by omega), Option.getD_some]

lemma listUsers_eq (order : Sorting UserRow.createdAt) (startIndex count : Bytes) {first : ℤ}
    {n m : ℕ} (hfirst : sscanfInt 1 startIndex = first) (hcount : sscanfInt 50 count = n)
    (hoffset : max 0 ((first - 1).bmod (2 ^ 64)) = m) :
    listUsers { order := order } t filter startIndex count = .ok
      { schemas := [scimListSchema]
        totalResults := (matchingUsers t filter).length
        startIndex := first
        itemsPerPage := n
        resources := (((order.sort (matchingUsers t filter)).drop m).take n).map
          UserRow.toSCIM } := by
  simp only [listUsers, hfirst, hcount, hoffset, Int.toNat_natCast, Bool.false_eq_true, or_self,
    if_false]
  rfl

lemma bmod_start {n : ℕ} (h : 1 + n < 2 ^ 63) :
    max 0 ((((1 + n : ℕ) : ℤ) - 1).bmod (2 ^ 64)) = n := by
  have hsub : ((1 + n : ℕ) : ℤ) - 1 = n := by omega
  rw [hsub, Int.bmod_eq_of_le (by omega) (by omega)]
  omega

end Answers

section Filters

variable {t : Tables} {filter : Bytes}

lemma toSCIM_injOn {u w : UserRow} (hu : u ∈ t.users) (hw : w ∈ t.users)
    (h : u.toSCIM = w.toSCIM) : u = w := by
  have hid : u.id = w.id := congrArg SCIMUser.id h
  exact List.inj_on_of_nodup_map t.userKeys hu hw hid

lemma listUsers_whole (t : Tables) (filter : Bytes) (order : Sorting UserRow.createdAt) {count : ℕ}
    (h : count < 2 ^ 63) (hcount : (matchingUsers t filter).length ≤ count) :
    ∃ l, listUsers { order := order } t filter [] (intNumeral count) = .ok l ∧
      l.resources.Perm ((matchingUsers t filter).map UserRow.toSCIM) := by
  refine ⟨_, listUsers_eq order [] (intNumeral count) rfl (sscanfInt_intNumeral 50 h)
    (bmod_start (n := 0) (by decide)), ?_⟩
  rw [List.drop_zero, List.take_of_length_le]
  · exact (order.perm _).map _
  · rw [(order.perm _).length_eq]
    exact hcount

lemma listed_matching {o : ListOutcome UserRow.createdAt} {startIndex count : Bytes}
    {l : SCIMListResponse SCIMUser} (h : listUsers o t filter startIndex count = .ok l) :
    l.totalResults = (matchingUsers t filter).length ∧
      ∀ v ∈ l.resources, ∃ u ∈ matchingUsers t filter, v = u.toSCIM := by
  simp only [listUsers] at h
  split_ifs at h
  obtain rfl := Except.ok.inj h
  refine ⟨rfl, fun v hv => ?_⟩
  obtain ⟨u, hu, rfl⟩ := List.mem_map.mp hv
  have hsorted := List.mem_of_mem_drop (List.mem_of_mem_take hu)
  exact ⟨u, (o.order.perm _).mem_iff.mp hsorted, rfl⟩

lemma finds_iff {p : UserRow → Bool} (h : t.users.length < 2 ^ 63) :
    Finds t filter (t.users.filter p) ↔ ∀ u ∈ t.users, userWhere filter u = p u := by
  constructor
  · intro hfinds u hu
    have hcount : (t.users.filter p).length < 2 ^ 63 := lt_of_le_of_lt (List.length_filter_le _ _) h
    obtain ⟨l, hl, hperm⟩ := hfinds.complete (Sorting.merging _) _ le_rfl hcount
    have htotal : (matchingUsers t filter).length = (t.users.filter p).length :=
      (listed_matching hl).1.symm.trans (hfinds.listed _ _ _ l hl).1
    obtain ⟨l', hl', hperm'⟩ := listUsers_whole t filter (Sorting.merging _) hcount
      (le_of_eq htotal)
    obtain rfl := Except.ok.inj (hl.symm.trans hl')
    have hboth := hperm.symm.trans hperm'
    rw [Bool.eq_iff_iff]
    constructor
    · intro hwhere
      have hmem : u.toSCIM ∈ (t.users.filter p).map UserRow.toSCIM :=
        hboth.mem_iff.mpr (List.mem_map_of_mem (List.mem_filter.mpr ⟨hu, hwhere⟩))
      obtain ⟨w, hw, heq⟩ := List.mem_map.mp hmem
      obtain ⟨hw, hp⟩ := List.mem_filter.mp hw
      rwa [toSCIM_injOn hw hu heq] at hp
    · intro hp
      have hmem : u.toSCIM ∈ (matchingUsers t filter).map UserRow.toSCIM :=
        hboth.mem_iff.mp (List.mem_map_of_mem (List.mem_filter.mpr ⟨hu, hp⟩))
      obtain ⟨w, hw, heq⟩ := List.mem_map.mp hmem
      obtain ⟨hw, hwhere⟩ := List.mem_filter.mp hw
      rwa [toSCIM_injOn hw hu heq] at hwhere
  · intro hall
    have hrows : matchingUsers t filter = t.users.filter p := List.filter_congr hall
    rw [← hrows]
    exact ⟨fun o startIndex count l hl => listed_matching hl,
      fun order count hle hlt => listUsers_whole t filter order hlt hle⟩

lemma trimWhile_quoted {p : UInt8 → Bool} {a : UInt8} (ha : p a = true) (v : Bytes) :
    trimWhile p (a :: (v ++ [a])) = trimWhile p v := by
  rw [trimWhile, trimWhile, List.dropWhile_cons_of_pos ha, List.dropWhile_append]
  split_ifs with hempty
  · rw [List.isEmpty_iff.mp hempty, List.dropWhile_cons_of_pos ha]
    rfl
  · rw [List.reverse_append, List.reverse_singleton, List.singleton_append,
      List.dropWhile_cons_of_pos ha]

lemma filterValue_quoted (text v : Bytes) :
    filterValue text (quoted text v) = trimWhile (· = 34) v := by
  rw [filterValue, quoted, List.drop_left]
  exact trimWhile_quoted (decide_eq_true rfl) v

lemma userWhere_userName (v : Bytes) (u : UserRow) :
    userWhere (quoted userNamePrefix v) u = (u.live && decide (u.email = trimWhile (· = 34) v)) := by
  have hfront : userNamePrefix <+: quoted userNamePrefix v := List.prefix_append _ _
  rw [userWhere, if_pos hfront, filterValue_quoted]

lemma userWhere_externalID (v : Bytes) (u : UserRow) :
    userWhere (quoted externalIDPrefix v) u = (u.live && decide (u.id = trimWhile (· = 34) v)) := by
  have hnot : ¬ userNamePrefix <+: quoted externalIDPrefix v := by
    rintro ⟨s, hs⟩
    have hhead : some (117 : UInt8) = some 101 := congrArg List.head? hs
    exact absurd hhead (by decide)
  have hfront : externalIDPrefix <+: quoted externalIDPrefix v := List.prefix_append _ _
  rw [userWhere, if_neg hnot, if_pos hfront, filterValue_quoted]

lemma userName_iff (v : Bytes) (h : t.users.length < 2 ^ 63) :
    (Query.userName v).Exact t ↔ (Query.userName v).Answerable t := by
  rw [Query.Exact, finds_iff h, Query.Answerable]
  simp only [userWhere_userName]
  by_cases heq : trimWhile (· = 34) v = v
  · simp [heq]
  · simp only [heq, false_or]
    apply forall₂_congr
    intro u _
    cases u.live with
    | false => simp
    | true =>
      simp only [Bool.true_and, true_and, decide_eq_decide, forall_const]
      constructor
      · intro hiff
        exact ⟨fun hv => heq ((hiff.mpr hv).symm.trans hv), fun hw => heq (hw.symm.trans (hiff.mp hw))⟩
      · rintro ⟨hv, hw⟩
        exact ⟨fun h => absurd h hw, fun h => absurd h hv⟩

lemma externalID_iff (v : Bytes) (h : t.users.length < 2 ^ 63) :
    (Query.externalID v).Exact t ↔ (Query.externalID v).Answerable t := by
  rw [Query.Exact, finds_iff h, Query.Answerable]
  simp only [userWhere_externalID]
  apply forall₂_congr
  intro u _
  cases u.live with
  | false => simp
  | true => simp

end Filters

section Pages

variable {t : Tables} {filter : Bytes} {count n : ℕ}

lemma pagesExact_iff {α : Type} {answer : ℕ → Except SCIMError (SCIMListResponse α)}
    {wanted : List α} (ls : ℕ → SCIMListResponse α) (h : ∀ k < n, answer k = .ok (ls k)) :
    PagesExact answer count n wanted ↔ (∀ k < n, (ls k).resources.length ≤ count) ∧
      ((List.range n).flatMap fun k => (ls k).resources).Perm wanted := by
  constructor
  · rintro ⟨ls', hall, hperm⟩
    have heq : ∀ k < n, ls' k = ls k := by
      intro k hk
      exact Except.ok.inj ((hall k hk).1.symm.trans (h k hk))
    have hflat : ((List.range n).flatMap fun k => (ls' k).resources) =
        (List.range n).flatMap fun k => (ls k).resources := by
      apply List.flatMap_congr
      intro k hk
      rw [heq k (List.mem_range.mp hk)]
    rw [hflat] at hperm
    refine ⟨fun k hk => ?_, hperm⟩
    rw [← heq k hk]
    exact (hall k hk).2
  · rintro ⟨hlen, hperm⟩
    exact ⟨ls, fun k hk => ⟨h k hk, hlen k hk⟩, hperm⟩

def userPage (order : Sorting UserRow.createdAt) (t : Tables) (filter : Bytes) (count k : ℕ) :
    SCIMListResponse SCIMUser where
  schemas := [scimListSchema]
  totalResults := (matchingUsers t filter).length
  startIndex := (1 + k * count : ℕ)
  itemsPerPage := count
  resources := (page (order.sort (matchingUsers t filter)) count k).map UserRow.toSCIM

lemma listUsers_page (order : Sorting UserRow.createdAt) {k : ℕ} (hcount : count < 2 ^ 63)
    (hstart : 1 + k * count < 2 ^ 63) :
    listUsers { order := order } t filter (startOf count k) (intNumeral count) =
      .ok (userPage order t filter count k) :=
  listUsers_eq order _ _ (sscanfInt_intNumeral 1 hstart) (sscanfInt_intNumeral 50 hcount)
    (bmod_start hstart)

lemma userPages_iff (h : (Query.userPages filter count n).Asked t) :
    (Query.userPages filter count n).Exact t ↔ (Query.userPages filter count n).Answerable t := by
  obtain ⟨hpos, hcount, hstart, henough⟩ := h
  have hkeys : ((matchingUsers t filter).map UserRow.toSCIM).Nodup := by
    apply List.Nodup.of_map SCIMUser.id
    rw [List.map_map]
    exact (List.filter_sublist.map _).nodup t.userKeys
  rw [Query.Answerable, ← pages_perm_iff hkeys henough, Query.Exact]
  apply forall_congr'
  intro orders
  have hlen : ∀ k < n, (userPage (orders k) t filter count k).resources.length ≤ count := by
    intro k _
    rw [userPage, List.length_map, page]
    exact List.length_take_le _ _
  rw [pagesExact_iff (fun k => userPage (orders k) t filter count k)
    fun k hk => listUsers_page (orders k) hcount (hstart k hk), and_iff_right hlen, pages,
    List.map_flatMap]
  rfl

def groupPage (order : Sorting OrganizationRow.createdAt) (t : Tables) (startIndex count : Bytes) :
    SCIMListResponse SCIMGroup where
  schemas := [scimListSchema]
  totalResults := (order.sort (liveGroups t)).length
  startIndex := sscanfInt 1 startIndex
  itemsPerPage := sscanfInt 50 count
  resources := (order.sort (liveGroups t)).map OrganizationRow.toSCIM

lemma listGroups_page (order : Sorting OrganizationRow.createdAt) (startIndex count : Bytes) :
    listGroups { order := order } t startIndex count =
      .ok (groupPage order t startIndex count) := rfl

lemma groupPage_perm (order : Sorting OrganizationRow.createdAt) (startIndex count : Bytes) :
    (groupPage order t startIndex count).resources.Perm
      ((liveGroups t).map OrganizationRow.toSCIM) := (order.perm _).map _

lemma groupPages_iff (h : (Query.groupPages count n).Asked t) :
    (Query.groupPages count n).Exact t ↔ (Query.groupPages count n).Answerable t := by
  obtain ⟨hpos, hcount, hstart, henough⟩ := h
  rw [Query.Answerable, Query.Exact]
  constructor
  · intro hall
    have hmerge := hall fun _ => Sorting.merging _
    rw [pagesExact_iff _ fun k _ => listGroups_page (Sorting.merging _) _ _] at hmerge
    have hlen := hmerge.2.length_eq
    simp only [List.length_flatMap, (groupPage_perm (Sorting.merging _) _ _).length_eq,
      List.map_const', List.sum_replicate_nat, List.length_range, List.length_map] at hlen
    have hn : n = 1 ∨ (liveGroups t).length = 0 := by
      rcases Nat.eq_zero_or_pos (liveGroups t).length with hzero | hlive
      · exact .inr hzero
      · exact .inl (Nat.eq_of_mul_eq_mul_right hlive (by omega))
    rwa [List.length_eq_zero_iff] at hn
  · intro hcond orders
    rw [pagesExact_iff _ fun k _ => listGroups_page (orders k) _ _]
    simp only [(groupPage_perm (orders _) _ _).length_eq, List.length_map]
    rcases hcond with rfl | hnone
    · rw [Nat.one_mul] at henough
      refine ⟨fun _ _ => henough, ?_⟩
      rw [List.range_one, List.flatMap_singleton]
      exact groupPage_perm (orders 0) _ _
    · have hempty : ∀ k, (groupPage (orders k) t (startOf count k) (intNumeral count)).resources =
          [] := by
        intro k
        apply List.Perm.eq_nil
        have hperm := groupPage_perm (t := t) (orders k) (startOf count k) (intNumeral count)
        rwa [hnone] at hperm
      simp [hnone, hempty]

end Pages

/-- A filter, or a run of pages, finds what it asks for just when the handler can tell. -/
theorem listing_exact_iff (t : Tables) (q : Query) (h : q.Asked t) :
    q.Exact t ↔ q.Answerable t := by
  cases q with
  | userName v => exact userName_iff v h
  | externalID v => exact externalID_iff v h
  | userPages filter count n => exact userPages_iff h
  | groupPages count n => exact groupPages_iff h

def organizationAt (id name : Bytes) (createdAt : ℤ) : OrganizationRow :=
  ⟨id, name, name, ascii "free", createdAt, createdAt, none⟩

def userAt (id org email : Bytes) (externalID : Option Bytes) (createdAt : ℤ) : UserRow :=
  ⟨id, org, email, email, ascii "member", externalID, createdAt, createdAt, none⟩

def imported : Tables where
  organizations := [organizationAt (ascii "o") (ascii "a") 3, organizationAt (ascii "p") (ascii "b") 4]
  users := [userAt (ascii "u") (ascii "o") (ascii "a@b.cc") (some (ascii "7")) 5,
    userAt (ascii "v") (ascii "p") (ascii "b@b.cc") none 5]
  organizationKeys := by decide
  slugs := by decide
  userKeys := by decide
  addresses := by decide

def hired : Tables where
  organizations := imported.organizations
  users := imported.users ++ [userAt (ascii "w") (ascii "o") (ascii "c@b.cc") none 6]
  organizationKeys := by decide
  slugs := by decide
  userKeys := by decide
  addresses := by decide

theorem listing_exact_iff_hired : (Query.userPages [] 2 2).Exact hired := by
  have hasked : (Query.userPages [] 2 2).Asked hired := by
    refine ⟨by decide, by decide, fun k hk => ?_, by decide⟩
    omega
  apply (listing_exact_iff hired (.userPages [] 2 2) hasked).mpr
  rintro k ⟨u, hu, hlow, hhigh⟩
  have hplaces : ∀ u ∈ matchingUsers hired [],
      earlier UserRow.createdAt (matchingUsers hired []) u = 0 ∧
          upTo UserRow.createdAt (matchingUsers hired []) u = 2 ∨
        earlier UserRow.createdAt (matchingUsers hired []) u = 2 ∧
          upTo UserRow.createdAt (matchingUsers hired []) u = 3 := by
    decide
  rcases hplaces u hu with ⟨hfrom, hto⟩ | ⟨hfrom, hto⟩
  · omega
  · omega

theorem listing_not_exact :
    ¬ (Query.externalID (ascii "7")).Exact imported ∧ ¬ (Query.groupPages 1 2).Exact imported ∧
      ¬ (Query.userPages [] 1 2).Exact imported := by
  have hlen : imported.users.length < 2 ^ 63 := by decide
  have hgroups : (Query.groupPages 1 2).Asked imported := by
    refine ⟨by decide, by decide, fun k hk => ?_, by decide⟩
    omega
  have husers : (Query.userPages [] 1 2).Asked imported := by
    refine ⟨by decide, by decide, fun k hk => ?_, by decide⟩
    omega
  rw [externalID_iff _ hlen, groupPages_iff hgroups, userPages_iff husers]
  refine ⟨fun h => ?_, fun h => ?_, fun h => ?_⟩
  · have hiff := h (userAt (ascii "u") (ascii "o") (ascii "a@b.cc") (some (ascii "7")) 5)
      List.mem_cons_self rfl
    exact absurd (hiff.mpr rfl) (by decide)
  · rcases h with h | h
    · cases h
    · exact absurd (congrArg List.length h) (by decide)
  · exact h 1 ⟨userAt (ascii "u") (ascii "o") (ascii "a@b.cc") (some (ascii "7")) 5, by decide,
      by decide, by decide⟩

end OmniTun.Scim
