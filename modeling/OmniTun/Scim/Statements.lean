import OmniTun.Foundation.OwnedRows
import OmniTun.Scim.Handlers

/-! What the statements of a patch leave in the tables, whichever of them fail. -/

namespace OmniTun.Scim

open OmniTun.Foundation

section Effects

def effects (now : ℤ) (fails : ℕ → Bool) : ℕ → List Statement → Tables → List Statement
  | _, [], _ => []
  | i, st :: rest, t =>
    match if fails i then none else st.exec now t with
    | none => effects now fails (i + 1) rest t
    | some (0, t') => effects now fails (i + 1) rest t'
    | some (_, t') => st :: effects now fails (i + 1) rest t'

def assignments (id : Bytes) (sts : List Statement) : List Assignment :=
  sts.filterMap fun
    | .users userID c => if userID = id then some c else none
    | _ => none

def names (id : Bytes) (sts : List Statement) : List Bytes :=
  sts.filterMap fun
    | .organization organizationID name => if organizationID = id then some name else none
    | _ => none

def lastSet {α : Type} (column : Assignment → Option α) (cs : List Assignment) : Option α :=
  (cs.filterMap column).getLast?

structure Restates (now : ℤ) (u : UserRow) (cs : List Assignment) : Prop where
  organizationID : ∀ v ∈ lastSet Assignment.organizationID cs, u.organizationID = v
  email : ∀ v ∈ lastSet Assignment.email cs, u.email = v
  displayName : ∀ v ∈ lastSet Assignment.displayName cs, u.displayName = v
  externalID : ∀ v ∈ lastSet Assignment.externalID cs, u.externalID = v
  deletedAt : ∀ v ∈ lastSet Assignment.deletedAt cs, u.deletedAt = v
  updatedAt : cs ≠ [] → u.updatedAt = now

structure Idle (now : ℤ) (t : Tables) (sts : List Statement) : Prop where
  users : ∀ u ∈ t.users, Restates now u (assignments u.id sts)
  organizations : ∀ org ∈ t.organizations, ∀ name ∈ (names org.id sts).getLast?,
    org.name = name ∧ org.updatedAt = now

end Effects

section Execution

variable {now : ℤ} {fails : ℕ → Bool} {i n : ℕ} {t t' : Tables} {st : Statement}
  {sts : List Statement} {u : UserRow} {id : Bytes}

def applyAll (now : ℤ) (cs : List Assignment) (u : UserRow) : UserRow :=
  cs.foldl (fun u c => c.apply now u) u

def renameAll (now : ℤ) (ns : List Bytes) (org : OrganizationRow) : OrganizationRow :=
  ns.foldl (fun org name => { org with name := name, updatedAt := now }) org

lemma applyAll_id (cs : List Assignment) (u : UserRow) : (applyAll now cs u).id = u.id := by
  induction cs generalizing u with
  | nil => rfl
  | cons c cs ih => exact ih (c.apply now u)

lemma renameAll_id (ns : List Bytes) (org : OrganizationRow) :
    (renameAll now ns org).id = org.id := by
  induction ns generalizing org with
  | nil => rfl
  | cons name ns ih => exact ih _

lemma lastSet_cons {α : Type} (column : Assignment → Option α) (c : Assignment)
    (cs : List Assignment) (v : α) :
    (lastSet column (c :: cs)).getD v = (lastSet column cs).getD ((column c).getD v) := by
  rw [lastSet, lastSet, List.filterMap_cons]
  cases hc : column c with
  | none => rfl
  | some w =>
    cases hlast : (cs.filterMap column).getLast? with
    | none =>
      rw [List.getLast?_eq_none_iff.mp hlast]
      rfl
    | some x =>
      rw [List.getLast?_cons, hlast]
      rfl

lemma applyAll_eq (cs : List Assignment) (u : UserRow) :
    applyAll now cs u =
      { u with
        organizationID := (lastSet Assignment.organizationID cs).getD u.organizationID
        email := (lastSet Assignment.email cs).getD u.email
        displayName := (lastSet Assignment.displayName cs).getD u.displayName
        externalID := (lastSet Assignment.externalID cs).getD u.externalID
        deletedAt := (lastSet Assignment.deletedAt cs).getD u.deletedAt
        updatedAt := if cs = [] then u.updatedAt else now } := by
  induction cs generalizing u with
  | nil => rfl
  | cons c cs ih =>
    have hstep : applyAll now (c :: cs) u = applyAll now cs (c.apply now u) := rfl
    rw [hstep, ih]
    simp only [lastSet_cons, Assignment.apply, ite_self, if_neg (List.cons_ne_nil c cs)]

lemma getD_eq_iff {α : Type} {o : Option α} {v : α} : o.getD v = v ↔ ∀ w ∈ o, v = w := by
  cases o with
  | none => simp
  | some w => simp [eq_comm]

lemma restates_iff (cs : List Assignment) : applyAll now cs u = u ↔ Restates now u cs := by
  rw [applyAll_eq]
  constructor
  · intro h
    obtain ⟨_, horg, hemail, hname, _, hext, _, hupdated, hdeleted⟩ := (UserRow.mk.injEq ..).mp h
    refine ⟨getD_eq_iff.mp horg, getD_eq_iff.mp hemail, getD_eq_iff.mp hname,
      getD_eq_iff.mp hext, getD_eq_iff.mp hdeleted, fun hne => ?_⟩
    rw [if_neg hne] at hupdated
    exact hupdated.symm
  · intro h
    have hupdated : (if cs = [] then u.updatedAt else now) = u.updatedAt := by
      split_ifs with hnil
      · rfl
      · exact (h.updatedAt hnil).symm
    rw [getD_eq_iff.mpr h.organizationID, getD_eq_iff.mpr h.email, getD_eq_iff.mpr h.displayName,
      getD_eq_iff.mpr h.externalID, getD_eq_iff.mpr h.deletedAt, hupdated]

lemma renameAll_eq_iff (ns : List Bytes) (org : OrganizationRow) :
    renameAll now ns org = org ↔ ∀ name ∈ ns.getLast?, org.name = name ∧ org.updatedAt = now := by
  induction ns using List.reverseRecOn with
  | nil => simp [renameAll]
  | append_singleton ns name _ =>
    have hlast : renameAll now (ns ++ [name]) org =
        { renameAll now ns org with name := name, updatedAt := now } := by
      rw [renameAll, List.foldl_append]
      rfl
    have hframe : ∀ (ns : List Bytes) (org : OrganizationRow),
        { renameAll now ns org with name := name, updatedAt := now } =
          { org with name := name, updatedAt := now } := by
      intro ns
      induction ns with
      | nil => intro org; rfl
      | cons m ns ih => intro org; exact ih _
    rw [hlast, hframe]
    simp only [List.getLast?_append, List.getLast?_singleton, Option.some_or, Option.mem_some_iff,
      forall_eq']
    constructor
    · intro h
      obtain ⟨_, hname, _, _, _, hupdated, _⟩ := (OrganizationRow.mk.injEq ..).mp h
      exact ⟨hname.symm, hupdated.symm⟩
    · rintro ⟨rfl, rfl⟩
      rfl

lemma assigned_eq (c : Assignment) : t.assigned id (fun _ => true) now c =
    t.users.map fun u => applyAll now (assignments u.id [.users id c]) u := by
  apply List.map_congr_left
  intro u _
  by_cases hid : u.id = id
  · simp [assignments, applyAll, hid]
  · simp [assignments, applyAll, hid, Ne.symm hid]

lemma renamed_eq (name : Bytes) : t.renamed id name now =
    t.organizations.map fun org => renameAll now (names org.id [.organization id name]) org := by
  apply List.map_congr_left
  intro org _
  by_cases hid : org.id = id
  · simp [names, renameAll, hid]
  · simp [names, renameAll, hid, Ne.symm hid]

lemma map_eq_self_iff {α : Type} {f : α → α} {l : List α} : l.map f = l ↔ ∀ a ∈ l, f a = a := by
  have h := List.map_inj_left (l := l) (f := f) (g := id)
  rwa [List.map_id] at h

lemma exec_cases (h : st.exec now t = some (n, t')) :
    n = 0 ∧ t' = t ∨ 0 < n ∧
      t'.users = t.users.map (fun u => applyAll now (assignments u.id [st]) u) ∧
      t'.organizations =
        t.organizations.map (fun org => renameAll now (names org.id [st]) org) := by
  cases st with
  | users id c =>
    simp only [Statement.exec, Tables.updateUsers] at h
    split_ifs at h with hok
    obtain ⟨hcount, rfl⟩ := Prod.mk.inj (Option.some.inj h)
    rcases Nat.eq_zero_or_pos n with rfl | hpos
    · refine .inl ⟨rfl, Tables.ext rfl (map_eq_self_iff.mpr fun u hu => if_neg ?_)⟩
      simpa using List.countP_eq_zero.mp hcount u hu
    · refine .inr ⟨hpos, assigned_eq c, (map_eq_self_iff.mpr fun org _ => ?_).symm⟩
      rfl
  | organization id name =>
    obtain ⟨hcount, rfl⟩ := Prod.mk.inj (Option.some.inj h)
    rcases Nat.eq_zero_or_pos n with rfl | hpos
    · refine .inl ⟨rfl, Tables.ext (map_eq_self_iff.mpr fun org horg => if_neg ?_) rfl⟩
      simpa using List.countP_eq_zero.mp hcount org horg
    · refine .inr ⟨hpos, (map_eq_self_iff.mpr fun u _ => ?_).symm, renamed_eq name⟩
      rfl
  | removeMember userID organizationID =>
    simp only [Statement.exec] at h
    split_ifs at h
    obtain ⟨rfl, rfl⟩ := Prod.mk.inj (Option.some.inj h)
    exact .inl ⟨rfl, rfl⟩

lemma assignments_cons (id : Bytes) (st : Statement) (sts : List Statement) :
    assignments id (st :: sts) = assignments id [st] ++ assignments id sts :=
  List.filterMap_append (l := [st])

lemma names_cons (id : Bytes) (st : Statement) (sts : List Statement) :
    names id (st :: sts) = names id [st] ++ names id sts :=
  List.filterMap_append (l := [st])

structure Ran (now : ℤ) (sts : List Statement) (t t' : Tables) : Prop where
  users : t'.users = t.users.map fun u => applyAll now (assignments u.id sts) u
  organizations : t'.organizations =
    t.organizations.map fun org => renameAll now (names org.id sts) org

lemma ran_nil (t : Tables) : Ran now [] t t :=
  ⟨(map_eq_self_iff.mpr fun _ _ => rfl).symm, (map_eq_self_iff.mpr fun _ _ => rfl).symm⟩

lemma Ran.cons {t₁ t₂ : Tables} (hst : Ran now [st] t t₁) (hsts : Ran now sts t₁ t₂) :
    Ran now (st :: sts) t t₂ := by
  refine ⟨?_, ?_⟩
  · rw [hsts.users, hst.users, List.map_map]
    apply List.map_congr_left
    intro u _
    rw [Function.comp_apply, applyAll_id, assignments_cons u.id st sts, applyAll, applyAll,
      applyAll, List.foldl_append]
  · rw [hsts.organizations, hst.organizations, List.map_map]
    apply List.map_congr_left
    intro org _
    rw [Function.comp_apply, renameAll_id, names_cons org.id st sts, renameAll, renameAll,
      renameAll, List.foldl_append]

lemma execAll_ran (i : ℕ) (sts : List Statement) (t : Tables) :
    Ran now (effects now fails i sts t) t (execAll now fails i sts t) := by
  induction sts generalizing i t with
  | nil => exact ran_nil t
  | cons st sts ih =>
    simp only [effects, execAll]
    cases hexec : if fails i then none else st.exec now t with
    | none => exact ih (i + 1) t
    | some r =>
      obtain ⟨n, t'⟩ := r
      have hst : st.exec now t = some (n, t') := (Option.ite_none_left_eq_some.mp hexec).2
      rcases exec_cases hst with ⟨rfl, rfl⟩ | ⟨hpos, husers, horgs⟩
      · exact ih (i + 1) t'
      · obtain ⟨m, rfl⟩ := Nat.exists_eq_succ_of_ne_zero (Nat.ne_of_gt hpos)
        exact Ran.cons ⟨husers, horgs⟩ (ih (i + 1) t')

lemma Ran.eq_iff (h : Ran now sts t t') : t' = t ↔ Idle now t sts := by
  rw [Tables.ext_iff, h.users, h.organizations, map_eq_self_iff, map_eq_self_iff]
  constructor
  · rintro ⟨horgs, husers⟩
    exact ⟨fun u hu => (restates_iff _).mp (husers u hu),
      fun org horg => (renameAll_eq_iff _ _).mp (horgs org horg)⟩
  · intro hidle
    exact ⟨fun org horg => (renameAll_eq_iff _ _).mpr (hidle.organizations org horg),
      fun u hu => (restates_iff _).mpr (hidle.users u hu)⟩

end Execution

end OmniTun.Scim
