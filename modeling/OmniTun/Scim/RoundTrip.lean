import OmniTun.Foundation.OwnedRows
import OmniTun.Scim.Handlers

/-! Which attributes of a stored user the readers give back. -/

namespace OmniTun.Scim

open OmniTun.Foundation

section Definitions

def SCIMUser.SameAttributes (u v : SCIMUser) : Prop :=
  v.userName = u.userName ∧ v.name = u.name ∧ v.externalID = u.externalID

inductive Stored (u : SCIMUser) (t' : Tables) : Bytes → Prop
  | created (o : CreateOutcome) (t : Tables) (v : SCIMUser)
      (h : createUser o t (some u) = (.ok v, t')) : Stored u t' o.userID
  | replaced (now : ℤ) (t : Tables) (id : Bytes) (v : SCIMUser) (hactive : u.active = true)
      (h : replaceUser false now t id (some u) = (.ok v, t')) : Stored u t' id

inductive Returned (t : Tables) (id : Bytes) : SCIMUser → Prop
  | got (v : SCIMUser) (h : getUser false t id = .ok v) : Returned t id v
  | listed (o : ListOutcome UserRow.createdAt) (filter startIndex count : Bytes)
      (l : SCIMListResponse SCIMUser) (h : listUsers o t filter startIndex count = .ok l)
      (v : SCIMUser) (hv : v ∈ l.resources) (hid : v.id = id) : Returned t id v

def RoundTrips (u : SCIMUser) (t : Tables) (id : Bytes) : Prop :=
  (∃ v, getUser false t id = .ok v) ∧ ∀ v, Returned t id v → u.SameAttributes v

/-- No reader selects the external id, and the names are told apart at a blank. -/
def Readable (u : SCIMUser) : Prop :=
  u.externalID = [] ∧ 32 ∉ u.name.givenName ∧
    (u.name.givenName = [] → u.name.familyName = [] → u.userName = [32])

end Definitions

section Names

variable {u : SCIMUser}

def splitName (displayName : Bytes) : SCIMUserName where
  givenName := displayName.takeWhile (· ≠ 32)
  familyName := (displayName.dropWhile (· ≠ 32)).drop 1

lemma SCIMUserName.eq_empty {name : SCIMUserName} (hgiven : name.givenName = [])
    (hfamily : name.familyName = []) : name = {} := by
  cases name with
  | mk given family =>
    cases hgiven
    cases hfamily
    rfl

lemma displayName_of_empty (h : u.name = {}) : u.displayName = u.userName := by
  rw [SCIMUser.displayName, h]
  exact if_pos rfl

lemma displayName_of_name (h : u.name ≠ {}) :
    u.displayName = u.name.givenName ++ 32 :: u.name.familyName := by
  have hne : u.name.givenName ++ ascii " " ++ u.name.familyName ≠ ascii " " := by
    intro heq
    apply h
    have hlen := congrArg List.length heq
    simp only [List.length_append] at hlen
    have hgiven : u.name.givenName = [] := List.eq_nil_of_length_eq_zero (by omega)
    have hfamily : u.name.familyName = [] := List.eq_nil_of_length_eq_zero (by omega)
    exact SCIMUserName.eq_empty hgiven hfamily
  have hblank : ascii " " = [32] := rfl
  rw [SCIMUser.displayName, if_neg hne, hblank, List.append_assoc, List.singleton_append]

lemma splitName_eq_empty_iff {text : Bytes} (h : text ≠ []) :
    splitName text = {} ↔ text = [32] := by
  cases text with
  | nil => exact absurd rfl h
  | cons c cs =>
    by_cases hc : c = 32
    · simp [splitName, hc]
    · simp [splitName, hc]

lemma splitName_append_iff (given family : Bytes) :
    splitName (given ++ 32 :: family) = ⟨given, family⟩ ↔ 32 ∉ given := by
  constructor
  · intro h hmem
    have hgiven : (given ++ 32 :: family).takeWhile (· ≠ 32) = given :=
      congrArg SCIMUserName.givenName h
    rw [← hgiven] at hmem
    simpa using List.mem_takeWhile_imp hmem
  · intro h
    have hall : ∀ c ∈ given, (decide (c ≠ 32)) = true := by
      intro c hc
      exact decide_eq_true fun heq => h (heq ▸ hc)
    rw [splitName, List.takeWhile_append_of_pos hall, List.dropWhile_append_of_pos hall]
    simp

lemma splitName_displayName_iff (hname : u.userName ≠ []) :
    splitName u.displayName = u.name ↔ 32 ∉ u.name.givenName ∧
      (u.name.givenName = [] → u.name.familyName = [] → u.userName = [32]) := by
  by_cases h : u.name = {}
  · rw [displayName_of_empty h, h, splitName_eq_empty_iff hname]
    simp
  · rw [displayName_of_name h]
    have hvacuous : u.name.givenName = [] → u.name.familyName = [] → u.userName = [32] := by
      intro hgiven hfamily
      exact absurd (SCIMUserName.eq_empty hgiven hfamily) h
    rw [splitName_append_iff u.name.givenName u.name.familyName, and_iff_left hvacuous]

end Names

section Rows

variable {u v : SCIMUser} {t t' : Tables} {id : Bytes} {row : UserRow}

structure Holds (u : SCIMUser) (t : Tables) (id : Bytes) (row : UserRow) : Prop where
  mem : row ∈ t.users
  id : row.id = id
  live : row.live = true
  email : row.email = u.userName
  displayName : row.displayName = u.displayName

lemma createUser_holds {o : CreateOutcome} (h : createUser o t (some u) = (.ok v, t')) :
    Holds u t' o.userID (newUser o u) := by
  by_cases hname : u.userName = []
  · rw [createUser, if_pos hname] at h
    cases h
  · simp only [createUser, if_neg hname] at h
    cases hins : if o.userFails then none
      else ((if o.orgFails then none
        else t.insertOrganization (newOrganization o u.userName)).getD t).insertUser (newUser o u) with
    | none =>
      rw [hins] at h
      cases h
    | some t₁ =>
      rw [hins] at h
      obtain ⟨-, rfl⟩ := Prod.mk.inj h
      have hrow := (Option.ite_none_left_eq_some.mp hins).2
      rw [Tables.insertUser] at hrow
      obtain ⟨hok, heq⟩ := Option.dite_none_right_eq_some.mp hrow
      refine ⟨?_, rfl, rfl, rfl, rfl⟩
      rw [← Option.some.inj heq]
      exact List.mem_append_right _ List.mem_cons_self

lemma updateUsers_assigns {n : ℕ} {p : UserRow → Bool} {now : ℤ} {c : Assignment}
    (h : t.updateUsers id p now c = some (n, t')) (hn : n ≠ 0) :
    ∃ row ∈ t.users, row.id = id ∧ c.apply now row ∈ t'.users := by
  rw [Tables.updateUsers] at h
  obtain ⟨hok, heq⟩ := Option.dite_none_right_eq_some.mp h
  obtain ⟨hcount, rfl⟩ := Prod.mk.inj (Option.some.inj heq)
  rw [← hcount, ← Nat.pos_iff_ne_zero, List.countP_pos_iff] at hn
  obtain ⟨row, hrow, hmatch⟩ := hn
  rw [decide_eq_true_eq] at hmatch
  exact ⟨row, hrow, hmatch.1, List.mem_map.mpr ⟨row, hrow, if_pos hmatch⟩⟩

lemma replaceUser_holds {now : ℤ} (hactive : u.active = true)
    (h : replaceUser false now t id (some u) = (.ok v, t')) : ∃ row, Holds u t' id row := by
  simp only [replaceUser, Bool.false_eq_true, if_false] at h
  split at h
  · cases h
  · cases h
  · rename_i n t₁ hpos hupdate
    obtain ⟨-, rfl⟩ := Prod.mk.inj h
    obtain ⟨row, -, hid, hmem⟩ := updateUsers_assigns hupdate hpos
    refine ⟨_, hmem, hid, ?_, rfl, rfl⟩
    rw [SCIMUser.assignment, hactive]
    rfl

lemma Stored.holds (h : Stored u t id) : ∃ row, Holds u t id row := by
  cases h with
  | created o t v h => exact ⟨newUser o u, createUser_holds h⟩
  | replaced now t id v hactive h => exact replaceUser_holds hactive h

lemma Holds.getUser_eq (h : Holds u t id row) :
    getUser false t id =
      .ok (userToSCIM id u.userName u.displayName row.createdAt row.updatedAt) := by
  have hfind : t.user id = some row := by
    rw [Tables.user, ← h.id, OwnedRows.find_of_mem t.userKeys h.mem fun _ => of_decide_eq_true]
    exact if_pos (decide_eq_true rfl)
  simp only [getUser, hfind, Bool.false_eq_true, if_false, Option.filter_some, h.live, if_true,
    h.email, h.displayName]

lemma Holds.returned (h : Holds u t id row) (hv : Returned t id v) :
    v.userName = u.userName ∧ v.name = splitName u.displayName ∧ v.externalID = [] := by
  cases hv with
  | got v hget =>
    rw [h.getUser_eq] at hget
    cases hget
    exact ⟨rfl, rfl, rfl⟩
  | listed o filter startIndex count l hl v hv hid =>
    simp only [listUsers] at hl
    split_ifs at hl
    obtain rfl := Except.ok.inj hl
    obtain ⟨w, hw, rfl⟩ := List.mem_map.mp hv
    have hmem : w ∈ t.users := by
      have hsorted := List.mem_of_mem_drop (List.mem_of_mem_take hw)
      exact List.mem_of_mem_filter ((o.order.perm _).mem_iff.mp hsorted)
    have hrow : w = row := List.inj_on_of_nodup_map t.userKeys hmem h.mem (hid.trans h.id.symm)
    rw [hrow]
    exact ⟨h.email, congrArg splitName h.displayName, rfl⟩

end Rows

/-- A stored user comes back with the attributes it was sent with just when it has no external id and
its names stand on the two sides of the first blank. -/
theorem user_round_trip_iff {u : SCIMUser} {t : Tables} {id : Bytes} (hname : u.userName ≠ [])
    (h : Stored u t id) : RoundTrips u t id ↔ Readable u := by
  obtain ⟨row, hrow⟩ := h.holds
  have hread : ∀ v, Returned t id v → (u.SameAttributes v ↔ Readable u) := by
    intro v hv
    obtain ⟨huser, hnames, hext⟩ := hrow.returned hv
    rw [SCIMUser.SameAttributes, huser, hnames, hext, splitName_displayName_iff hname, Readable]
    rw [and_iff_right rfl, and_comm, eq_comm (a := [])]
  constructor
  · rintro ⟨⟨v, hget⟩, hall⟩
    exact (hread v (.got v hget)).mp (hall v (.got v hget))
  · intro hreadable
    exact ⟨⟨_, hrow.getUser_eq⟩, fun v hv => (hread v hv).mpr hreadable⟩

def noTables : Tables where
  organizations := []
  users := []
  organizationKeys := List.nodup_nil
  slugs := List.nodup_nil
  userKeys := List.nodup_nil
  addresses := List.nodup_nil

def provisioned (u : SCIMUser) : Tables :=
  (createUser { orgID := ascii "o", userID := ascii "u" } noTables (some u)).2

def mary : SCIMUser where
  userName := ascii "m@b.cc"
  name := ⟨ascii "Mary", ascii "Ann Lee"⟩

theorem user_round_trip_iff_mary :
    mary.userName ≠ [] ∧ Stored mary (provisioned mary) (ascii "u") ∧
      (RoundTrips mary (provisioned mary) (ascii "u") ↔ Readable mary) := by
  have hname : mary.userName ≠ [] := List.cons_ne_nil _ _
  have hstored : Stored mary (provisioned mary) (ascii "u") :=
    .created { orgID := ascii "o", userID := ascii "u" } noTables _ rfl
  exact ⟨hname, hstored, user_round_trip_iff hname hstored⟩

def maryAnn : SCIMUser where
  externalID := ascii "7"
  userName := ascii "m@b.cc"
  name := ⟨ascii "Mary Ann", ascii "Lee"⟩

theorem mary_ann_does_not_round_trip :
    maryAnn.userName ≠ [] ∧ Stored maryAnn (provisioned maryAnn) (ascii "u") ∧
      ¬ RoundTrips maryAnn (provisioned maryAnn) (ascii "u") := by
  refine ⟨List.cons_ne_nil _ _,
    .created { orgID := ascii "o", userID := ascii "u" } noTables _ rfl, ?_⟩
  rintro ⟨-, hall⟩
  have hsame := hall _ (.got _ rfl)
  have hext : ([] : Bytes) = ascii "7" := hsame.2.2
  exact absurd hext (List.cons_ne_nil _ _).symm

end OmniTun.Scim
