import OmniTun.Abuse.Manager
import OmniTun.Foundation.Window

/-! The pages of the abuse reports. -/

namespace OmniTun.Abuse

open OmniTun.Foundation

def withStatus (m : Manager) (status : Bytes) : List Report :=
  m.reports.filter fun r => status = [] ∨ r.status = status

def ListsPage (m : Manager) (status : Bytes) (limit offset : Int64) : Prop :=
  listReports m status limit offset =
    some (window (withStatus m status) offset.toInt limit.toInt, (withStatus m status).length)

/-- The page starts beyond the reports, or it is a page of 64-bit positions. -/
def Paged (m : Manager) (status : Bytes) (limit offset : Int64) : Prop :=
  (withStatus m status).length ≤ offset.toInt ∨
    0 ≤ offset.toInt ∧ 0 ≤ limit.toInt ∧ offset.toInt + limit.toInt < 2 ^ 63

def pageThrough (m : Manager) (status : Bytes) (limit : Int64) : ℕ → Int64 → Option (List Report)
  | 0, _ => none
  | fuel + 1, offset => do
    let (page, _) ← listReports m status limit offset
    if page = [] then return []
    let rest ← pageThrough m status limit fuel (offset + limit)
    return page ++ rest

section

variable {m : Manager} {status : Bytes} {limit offset : Int64}

lemma withStatus_length (m : Manager) (status : Bytes) :
    8 * (withStatus m status).length < 2 ^ 63 := by
  have hle : (withStatus m status).length ≤ m.reports.length := List.length_filter_le _ _
  have hfits := m.fits
  omega

lemma toInt_length (m : Manager) (status : Bytes) :
    (Int64.ofNat (withStatus m status).length).toInt = (withStatus m status).length := by
  have hlen := withStatus_length m status
  apply Int64.toInt_ofNat_of_lt
  omega

lemma filtered_eq (m : Manager) (status : Bytes) :
    (m.reports.filter fun r => ¬ (status ≠ [] ∧ r.status ≠ status)) = withStatus m status := by
  apply List.filter_congr
  intro r _
  simp only [decide_eq_decide]
  tauto

lemma listReports_beyond (h : (withStatus m status).length ≤ offset.toInt) :
    listReports m status limit offset = some ([], (withStatus m status).length) := by
  have hle : Int64.ofNat (withStatus m status).length ≤ offset := by
    rw [Int64.le_iff_toInt_le, toInt_length]
    exact h
  simp only [listReports, filtered_eq]
  rw [if_pos hle]

lemma listReports_within (h : offset.toInt < (withStatus m status).length) (stop : Int64)
    (hstop : stop = if Int64.ofNat (withStatus m status).length < offset + limit then
      Int64.ofNat (withStatus m status).length else offset + limit) :
    listReports m status limit offset =
      if makeable (stop - offset) then
        (slice (withStatus m status) offset stop).map fun result =>
          (result, (withStatus m status).length)
      else none := by
  have hnot : ¬ Int64.ofNat (withStatus m status).length ≤ offset := by
    rw [Int64.le_iff_toInt_le, toInt_length]
    omega
  simp only [listReports, filtered_eq, hstop]
  rw [if_neg hnot]

lemma toInt_add (h : -2 ^ 63 ≤ offset.toInt + limit.toInt)
    (h' : offset.toInt + limit.toInt < 2 ^ 63) :
    (offset + limit).toInt = offset.toInt + limit.toInt := by
  rw [Int64.toInt_add]
  apply Int.bmod_eq_of_le
  · omega
  · omega

lemma listReports_page (h : offset.toInt < (withStatus m status).length)
    (h0 : 0 ≤ offset.toInt) (hlimit : 0 ≤ limit.toInt)
    (hsum : offset.toInt + limit.toInt < 2 ^ 63) : ListsPage m status limit offset := by
  have hlen := withStatus_length m status
  have hend : (offset + limit).toInt = offset.toInt + limit.toInt := toInt_add (by omega) hsum
  obtain ⟨stop, hstop⟩ : ∃ stop : Int64, stop =
      if Int64.ofNat (withStatus m status).length < offset + limit then
        Int64.ofNat (withStatus m status).length else offset + limit := ⟨_, rfl⟩
  have htoInt :
      stop.toInt = min ((withStatus m status).length : ℤ) (offset.toInt + limit.toInt) := by
    rw [hstop]
    split_ifs with hlt
    · rw [Int64.lt_iff_toInt_lt, toInt_length, hend] at hlt
      rw [toInt_length]
      omega
    · rw [Int64.lt_iff_toInt_lt, toInt_length, hend] at hlt
      rw [hend]
      omega
  have hdiff : (stop - offset).toInt = stop.toInt - offset.toInt := by
    rw [Int64.toInt_sub]
    apply Int.bmod_eq_of_le
    · omega
    · omega
  have hmake : makeable (stop - offset) := by
    rw [makeable, Int64.le_iff_toInt_le, Int64.toInt_zero, hdiff]
    omega
  have hslice : 0 ≤ offset ∧ offset ≤ stop ∧ stop ≤ Int64.ofNat (withStatus m status).length := by
    simp only [Int64.le_iff_toInt_le, Int64.toInt_zero, toInt_length, htoInt]
    omega
  rw [ListsPage, listReports_within h stop hstop, if_pos hmake, slice, if_pos hslice,
    Option.map_some]
  obtain ⟨a, ha⟩ := Int.eq_ofNat_of_zero_le h0
  obtain ⟨n, hn⟩ := Int.eq_ofNat_of_zero_le hlimit
  rw [ha, hn, window.eq_drop_take, htoInt, ha, hn]
  have htake : (min ((withStatus m status).length : ℤ) ((a : ℤ) + n)).toNat - (a : ℤ).toNat =
      min n ((withStatus m status).drop a).length := by
    rw [List.length_drop]
    omega
  rw [htake, Int.toNat_natCast, ← List.take_eq_take_min]

lemma listReports_panic (h : offset.toInt < (withStatus m status).length)
    (hbad : offset.toInt < 0 ∨ limit.toInt < 0 ∨ 2 ^ 63 ≤ offset.toInt + limit.toInt) :
    listReports m status limit offset = none := by
  have hlen := withStatus_length m status
  have hlimit := Int64.toInt_lt limit
  have hlimit' := Int64.le_toInt limit
  obtain ⟨stop, hstop⟩ : ∃ stop : Int64, stop =
      if Int64.ofNat (withStatus m status).length < offset + limit then
        Int64.ofNat (withStatus m status).length else offset + limit := ⟨_, rfl⟩
  have hslice : slice (withStatus m status) offset stop = none := by
    apply if_neg
    simp only [Int64.le_iff_toInt_le, Int64.toInt_zero]
    rintro ⟨h0, hle, -⟩
    have hstop_le : stop.toInt ≤ (offset + limit).toInt := by
      rw [hstop]
      split_ifs with hlt
      · exact (Int64.lt_iff_toInt_lt.mp hlt).le
      · exact le_rfl
    rcases hbad with hneg | hneg | hover
    · omega
    · rw [toInt_add (by omega) (by omega)] at hstop_le
      omega
    · have hwrap : (offset + limit).toInt = offset.toInt + limit.toInt - 2 ^ 64 := by
        rw [Int64.toInt_add, ← Int.sub_bmod_right]
        apply Int.bmod_eq_of_le
        · omega
        · omega
      omega
  rw [listReports_within h stop hstop, hslice, Option.map_none, ite_self]

lemma listsPage_iff : ListsPage m status limit offset ↔ Paged m status limit offset := by
  by_cases h : (withStatus m status).length ≤ offset.toInt
  · refine iff_of_true ?_ (.inl h)
    rw [ListsPage, listReports_beyond h, window.eq_nil_of_length_le h]
  · have hlt := not_le.mp h
    constructor
    · intro hpage
      refine .inr ?_
      by_contra hbad
      have hnone : listReports m status limit offset = none :=
        listReports_panic hlt (by omega)
      rw [ListsPage, hnone] at hpage
      cases hpage
    · rintro (hbeyond | ⟨h0, hlimit, hsum⟩)
      · exact absurd hbeyond h
      · exact listReports_page hlt h0 hlimit hsum

lemma pageThrough_drop {fuel j : ℕ} (hlimit : 1 ≤ limit.toInt) (hj : offset.toInt = j)
    (hstart : j = 0 ∨ limit.toInt ≤ j) (hpos : 0 < fuel)
    (hfuel : (withStatus m status).length < j + fuel) :
    pageThrough m status limit fuel offset = some ((withStatus m status).drop j) := by
  have hlen := withStatus_length m status
  have hlt := Int64.toInt_lt limit
  obtain ⟨n, hn⟩ := Int.eq_ofNat_of_zero_le (show 0 ≤ limit.toInt by omega)
  induction fuel generalizing offset j with
  | zero => omega
  | succ fuel ih =>
    rw [pageThrough]
    by_cases h : (withStatus m status).length ≤ offset.toInt
    · rw [listReports_beyond h, List.drop_eq_nil_of_le (by omega)]
      rfl
    · have hpage : ListsPage m status limit offset :=
        listReports_page (not_le.mp h) (by omega) (by omega) (by omega)
      have hnext : (offset + limit).toInt = (j + n : ℕ) := by
        rw [toInt_add (by omega) (by omega), hj, hn, Nat.cast_add]
      have hrest := ih hnext (.inr (by omega)) (by omega) (by omega)
      have hne : window (withStatus m status) j n ≠ [] := window.ne_nil (by omega) (by omega)
      rw [ListsPage, hj, hn] at hpage
      rw [hpage, ← window.append_drop (withStatus m status) j n]
      simp only [Option.bind_eq_bind, Option.bind_some, if_neg hne, hrest]
      rfl

theorem list_reports_iff (m : Manager) (status : Bytes) :
    (∀ limit offset, ListsPage m status limit offset ↔ Paged m status limit offset) ∧
    ∀ limit : Int64, 1 ≤ limit → ∀ fuel > (withStatus m status).length,
      pageThrough m status limit fuel 0 = some (withStatus m status) := by
  refine ⟨fun limit offset => listsPage_iff, fun limit hlimit fuel hfuel => ?_⟩
  rw [Int64.le_iff_toInt_le, Int64.toInt_one] at hlimit
  have hdrop : pageThrough m status limit fuel 0 = some ((withStatus m status).drop 0) :=
    pageThrough_drop hlimit Int64.toInt_zero (.inl rfl) (by omega) (by omega)
  rwa [List.drop_zero] at hdrop

end

lemma queryInt_intNumeral (default n : Int64) :
    queryInt default (Numerals.intNumeral n.toInt) = n := by
  have hscan := Numerals.scanInt64_intNumeral (Int64.le_toInt n) (Int64.toInt_lt n)
  have hne : Numerals.intNumeral n.toInt ≠ [] := by
    intro hnil
    rw [hnil] at hscan
    cases hscan
  rw [queryInt, if_neg hne, hscan, Option.map_some, Option.getD_some, Int64.ofInt_toInt]

lemma handleAdminListReports_intNumeral (m : Manager) (status : Bytes) (limit offset : Int64) :
    handleAdminListReports m status (Numerals.intNumeral limit.toInt)
        (Numerals.intNumeral offset.toInt) = listReports m status limit offset := by
  rw [handleAdminListReports, queryInt_intNumeral, queryInt_intNumeral]

def reportOf (id status : String) : Report :=
  ⟨ascii id, ascii "o1", ascii "u1", ascii "t1", ascii "spam", [], ascii status, [], 0, 0⟩

def threeReports : Manager where
  reports := [reportOf "r1" "pending", reportOf "r2" "resolved", reportOf "r3" "pending"]
  blacklist := []
  fits := by decide

theorem list_reports_iff_three :
    pageThrough threeReports (ascii "pending") 1 3 0 =
      some [reportOf "r1" "pending", reportOf "r3" "pending"] :=
  (list_reports_iff threeReports (ascii "pending")).2 1 (by decide) 3 (by decide)

def oneReport : Manager where
  reports := [reportOf "r1" "pending"]
  blacklist := []
  fits := by decide

theorem negative_offset_panics :
    handleAdminListReports oneReport [] (ascii "10") (ascii "-1") = none ∧
      ¬ ListsPage oneReport [] 10 (-1) := by
  have hlt : (-1 : Int64).toInt < (withStatus oneReport []).length := by decide
  have hpanic : listReports oneReport [] 10 (-1) = none := listReports_panic hlt (.inl (by decide))
  refine ⟨?_, ?_⟩
  · have hlimit : queryInt 50 (ascii "10") = 10 := by decide
    have hoffset : queryInt 0 (ascii "-1") = -1 := by decide
    rw [handleAdminListReports, hlimit, hoffset, hpanic]
  · rw [ListsPage, hpanic]
    simp

end OmniTun.Abuse
