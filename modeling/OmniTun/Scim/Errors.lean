import OmniTun.Scim.Statements

/-! What the requests leave in the tables when they are refused, and how a request is answered that
the database has carried out. -/

namespace OmniTun.Scim

open OmniTun.Foundation

inductive Request
  | createUser (o : CreateOutcome) (body : Option SCIMUser)
  | replaceUser (fails : Bool) (now : ℤ) (id : Bytes) (body : Option SCIMUser)
  | patchUser (o : PatchOutcome) (id : Bytes) (body : Option (List SCIMPatchOperation))
  | patchGroup (o : PatchOutcome) (id : Bytes) (body : Option (List SCIMPatchOperation))

def errorOf {α : Type} : Except SCIMError α → Option SCIMError
  | .error err => some err
  | .ok _ => none

def Request.run (t : Tables) : Request → Option SCIMError × Tables
  | .createUser o body => (errorOf (Scim.createUser o t body).1, (Scim.createUser o t body).2)
  | .replaceUser fails now id body =>
    (errorOf (Scim.replaceUser fails now t id body).1, (Scim.replaceUser fails now t id body).2)
  | .patchUser o id body => (errorOf (Scim.patchUser o t id body).1, (Scim.patchUser o t id body).2)
  | .patchGroup o id body =>
    (errorOf (Scim.patchGroup o t id body).1, (Scim.patchGroup o t id body).2)

section Requests

def Tables.FreeOrganization (t : Tables) (id slug : Bytes) : Prop :=
  ∀ org ∈ t.organizations, org.id ≠ id ∧ org.slug ≠ slug

def Tables.FreeUser (t : Tables) (u : UserRow) : Prop :=
  ∀ v ∈ t.users, v.id ≠ u.id ∧ v.address ≠ u.address

def InsertsOrganization (o : CreateOutcome) (t : Tables) (email : Bytes) : Prop :=
  o.orgFails = false ∧ t.FreeOrganization o.orgID (emailToSlug email)

def InsertsUser (o : CreateOutcome) (t : Tables) (u : SCIMUser) : Prop :=
  o.userFails = false ∧ (InsertsOrganization o t u.userName ∨ t.HasOrganization o.orgID) ∧
    t.FreeUser (newUser o u)

def userStatements (o : PatchOutcome) (id : Bytes) (ops : List SCIMPatchOperation) :
    List Statement :=
  ops.flatMap (SCIMPatchOperation.userStatements o.now id)

def groupStatements (id : Bytes) (ops : List SCIMPatchOperation) : List Statement :=
  ops.flatMap (SCIMPatchOperation.groupStatements id)

def effective (o : PatchOutcome) (t : Tables) (sts : List Statement) : List Statement :=
  effects o.now o.fails 0 sts t

def Applied (t : Tables) : Request → Prop
  | .createUser o body => ∃ u ∈ body, u.userName ≠ [] ∧ InsertsOrganization o t u.userName ∧
      InsertsUser o t u
  | .replaceUser fails now id body => ∃ u ∈ body, fails = false ∧
      ∃ n t', t.updateUsers id UserRow.live now (u.assignment now) = some (n + 1, t')
  | .patchUser o id body => ∃ ops ∈ body, userStatements o id ops ≠ [] ∧
      effective o t (userStatements o id ops) = userStatements o id ops
  | .patchGroup o id body => ∃ ops ∈ body, groupStatements id ops ≠ [] ∧
      effective o t (groupStatements id ops) = groupStatements id ops

/-- A refusal changes nothing, and what is applied is not refused. -/
def ErrorsChangeNothing (t : Tables) (r : Request) : Prop :=
  (∀ err ∈ (r.run t).1, 400 ≤ err.status → err.status < 500 → (r.run t).2 = t) ∧
    (Applied t r → (r.run t).1 = none)

def UserGone (o : PatchOutcome) (t : Tables) (id : Bytes) (sts : List Statement) : Prop :=
  o.selectFails = true ∨ ∀ u ∈ t.users, u.id = id →
    (lastSet Assignment.deletedAt (assignments id sts)).getD u.deletedAt ≠ none

def GroupGone (o : PatchOutcome) (t : Tables) (id : Bytes) : Prop :=
  o.selectFails = true ∨ ∀ org ∈ t.organizations, org.id = id → org.deletedAt ≠ none

/-- The organisation is there without the user, or statements of a patch take effect on what is gone
when it is answered. -/
def Strays (t : Tables) : Request → Prop
  | .createUser o body => ∃ u ∈ body, u.userName ≠ [] ∧ InsertsOrganization o t u.userName ∧
      ¬ InsertsUser o t u
  | .replaceUser _ _ _ _ => False
  | .patchUser o id body => ∃ ops ∈ body,
      UserGone o t id (effective o t (userStatements o id ops)) ∧
        (Applied t (.patchUser o id body) ∨
          ¬ Idle o.now t (effective o t (userStatements o id ops)))
  | .patchGroup o id body => ∃ ops ∈ body, GroupGone o t id ∧
      (Applied t (.patchGroup o id body) ∨
        ¬ Idle o.now t (effective o t (groupStatements id ops)))

end Requests

section Answers

variable {t t' : Tables} {id : Bytes} {now : ℤ} {sts : List Statement} {o : PatchOutcome}

lemma find_map_eq_none_iff {α : Type} {key : α → Bytes} {f : α → α} {live : α → Bool} {l : List α}
    (hkeys : (l.map key).Nodup) (hf : ∀ a, key (f a) = key a) :
    ((l.map f).find? fun a => key a = id).filter live = none ↔
      ∀ a ∈ l, key a = id → live (f a) = false := by
  have hkey : ((fun a => decide (key a = id)) ∘ f) = fun a => decide (key a = id) := by
    funext a
    rw [Function.comp_apply, hf]
  rw [List.find?_map, hkey, Option.filter_eq_none_iff]
  constructor
  · rintro hall a ha rfl
    have hfind : l.find? (fun b => key b = key a) = some a := by
      rw [OwnedRows.find_of_mem hkeys ha fun _ => of_decide_eq_true, if_pos (decide_eq_true rfl)]
    have hnot := hall (f a) (by rw [hfind, Option.map_some])
    simpa using hnot
  · intro hall a ha
    obtain ⟨b, hb, rfl⟩ := Option.map_eq_some_iff.mp ha
    have hid : key b = id := by simpa using List.find?_some hb
    simp [hall b (List.mem_of_find?_eq_some hb) hid]

lemma Ran.userGone_iff (h : Ran now sts t t') :
    (if o.selectFails then none else (t'.user id).filter UserRow.live) = none ↔
      UserGone o t id sts := by
  have hrow : (t'.user id).filter UserRow.live = none ↔ ∀ u ∈ t.users, u.id = id →
      (lastSet Assignment.deletedAt (assignments id sts)).getD u.deletedAt ≠ none := by
    rw [Tables.user, h.users,
      find_map_eq_none_iff t.userKeys fun u => applyAll_id (assignments u.id sts) u]
    refine forall₂_congr fun u hu => forall_congr' fun hid => ?_
    subst hid
    rw [UserRow.live, applyAll_eq, Option.isNone_eq_false_iff, Option.isSome_iff_ne_none]
  rw [UserGone, ← hrow]
  cases o.selectFails <;> simp

lemma Ran.groupGone_iff (h : Ran now sts t t') :
    (if o.selectFails then none
      else (t'.organization id).filter fun org => org.deletedAt.isNone) = none ↔
      GroupGone o t id := by
  have hdeleted : ∀ (ns : List Bytes) (org : OrganizationRow),
      (renameAll now ns org).deletedAt = org.deletedAt := by
    intro ns
    induction ns with
    | nil => exact fun _ => rfl
    | cons name ns ih => exact fun org => ih _
  have hrow : (t'.organization id).filter (fun org => org.deletedAt.isNone) = none ↔
      ∀ org ∈ t.organizations, org.id = id → org.deletedAt ≠ none := by
    rw [Tables.organization, h.organizations,
      find_map_eq_none_iff t.organizationKeys fun org => renameAll_id (names org.id sts) org]
    refine forall₂_congr fun org _ => forall_congr' fun _ => ?_
    rw [hdeleted, Option.isNone_eq_false_iff, Option.isSome_iff_ne_none]
  rw [GroupGone, ← hrow]
  cases o.selectFails <;> simp

lemma writeSCIMError_refuses {status : ℕ} (scimType : Bytes) (h : 400 ≤ status)
    (h' : status < 500) (t t' : Tables) :
    (∀ err ∈ some (writeSCIMError status scimType), 400 ≤ err.status → err.status < 500 → t' = t) ↔
      t' = t := by
  constructor
  · intro hall
    exact hall _ rfl h h'
  · intro heq _ _ _ _
    exact heq

lemma patch_iff {α β : Type} {gone applied : Prop} {found : Option α} {f : α → β}
    {answer : Except SCIMError β × Tables} (hran : Ran now sts t t') (hgone : found = none ↔ gone)
    (hnone : found = none → answer = (.error (writeSCIMError 404 []), t'))
    (hsome : ∀ a, found = some a → answer = (.ok (f a), t')) :
    ((∀ err ∈ errorOf answer.1, 400 ≤ err.status → err.status < 500 → answer.2 = t) ∧
      (applied → errorOf answer.1 = none)) ↔ ¬ (gone ∧ (applied ∨ ¬ Idle now t sts)) := by
  rw [← hgone]
  cases found with
  | none =>
    have hrefuses := writeSCIMError_refuses [] (by decide : 400 ≤ 404) (by decide) t t'
    rw [hran.eq_iff] at hrefuses
    simp only [hnone rfl, errorOf, hran.eq_iff, hrefuses, reduceCtorEq, imp_false, true_and,
      not_or, not_not]
    exact and_comm
  | some a => simp [hsome a rfl, errorOf]

end Answers

section Creation

variable {t t' : Tables} {o : CreateOutcome} {u : SCIMUser}

lemma insertOrganization_cases (t : Tables) (org : OrganizationRow) :
    t.FreeOrganization org.id org.slug ∧ (∃ t', t.insertOrganization org = some t' ∧
      t'.organizations = t.organizations ++ [org] ∧ t'.users = t.users) ∨
    ¬ t.FreeOrganization org.id org.slug ∧ t.insertOrganization org = none := by
  have hfree : ((t.organizations ++ [org]).map OrganizationRow.id).Nodup ∧
      ((t.organizations ++ [org]).map OrganizationRow.slug).Nodup ↔
        t.FreeOrganization org.id org.slug := by
    rw [OwnedRows.nodup_concat_iff t.organizationKeys, OwnedRows.nodup_concat_iff t.slugs,
      Tables.FreeOrganization, ← forall₂_and]
  by_cases h : t.FreeOrganization org.id org.slug
  · exact .inl ⟨h, _, dif_pos (hfree.mpr h), rfl, rfl⟩
  · exact .inr ⟨h, dif_neg (hfree.not.mpr h)⟩

lemma insertUser_eq_none_iff (t : Tables) (u : UserRow) :
    t.insertUser u = none ↔ ¬ (t.HasOrganization u.organizationID ∧ t.FreeUser u) := by
  have hfree : t.HasOrganization u.organizationID ∧ ((t.users ++ [u]).map UserRow.id).Nodup ∧
      ((t.users ++ [u]).map UserRow.address).Nodup ↔
        t.HasOrganization u.organizationID ∧ t.FreeUser u := by
    rw [OwnedRows.nodup_concat_iff t.userKeys, OwnedRows.nodup_concat_iff t.addresses,
      Tables.FreeUser, ← forall₂_and]
  rw [← hfree, Tables.insertUser, dite_eq_right_iff]
  simp

def organizationTried (o : CreateOutcome) (t : Tables) (email : Bytes) : Tables :=
  (if o.orgFails then none else t.insertOrganization (newOrganization o email)).getD t

lemma organizationTried_inserted {email : Bytes} (h : InsertsOrganization o t email) :
    (organizationTried o t email).organizations = t.organizations ++ [newOrganization o email] ∧
      (organizationTried o t email).users = t.users := by
  obtain ⟨hfails, hfree⟩ := h
  rcases insertOrganization_cases t (newOrganization o email) with
    ⟨-, t', ht', horgs, husers⟩ | ⟨hnot, -⟩
  · rw [organizationTried, hfails, if_neg Bool.false_ne_true, ht', Option.getD_some]
    exact ⟨horgs, husers⟩
  · exact absurd hfree hnot

lemma organizationTried_unchanged {email : Bytes} (h : ¬ InsertsOrganization o t email) :
    organizationTried o t email = t := by
  rw [organizationTried]
  split_ifs with hfails
  · rfl
  · rw [Bool.not_eq_true] at hfails
    rcases insertOrganization_cases t (newOrganization o email) with ⟨hfree, -⟩ | ⟨-, hnone⟩
    · exact absurd ⟨hfails, hfree⟩ h
    · rw [hnone, Option.getD_none]

lemma organizationTried_eq_iff (email : Bytes) :
    organizationTried o t email = t ↔ ¬ InsertsOrganization o t email := by
  constructor
  · intro heq h
    have horgs := (organizationTried_inserted h).1
    rw [heq] at horgs
    simp at horgs
  · exact organizationTried_unchanged

lemma insertsUser_iff (u : SCIMUser) :
    InsertsUser o t u ↔ (if o.userFails then none
      else (organizationTried o t u.userName).insertUser (newUser o u)) ≠ none := by
  have hrow : (organizationTried o t u.userName).HasOrganization o.orgID ∧
      (organizationTried o t u.userName).FreeUser (newUser o u) ↔
        (InsertsOrganization o t u.userName ∨ t.HasOrganization o.orgID) ∧
          t.FreeUser (newUser o u) := by
    by_cases h : InsertsOrganization o t u.userName
    · obtain ⟨horgs, husers⟩ := organizationTried_inserted h
      have hhas : (organizationTried o t u.userName).HasOrganization o.orgID := by
        refine ⟨newOrganization o u.userName, ?_, rfl⟩
        rw [horgs]
        exact List.mem_append_right _ List.mem_cons_self
      simp only [hhas, h, true_or, true_and, Tables.FreeUser, husers]
    · rw [organizationTried_unchanged h]
      simp only [h, false_or]
  cases hfails : o.userFails with
  | true => simp [InsertsUser, hfails]
  | false =>
    rw [if_neg Bool.false_ne_true, ne_eq, insertUser_eq_none_iff, not_not, InsertsUser, hfails]
    exact (and_iff_right rfl).trans hrow.symm

end Creation

section Handlers

variable {t : Tables}

lemma createUser_iff (o : CreateOutcome) (u : SCIMUser) (hname : u.userName ≠ []) :
    ErrorsChangeNothing t (.createUser o (some u)) ↔
      ¬ (InsertsOrganization o t u.userName ∧ ¬ InsertsUser o t u) := by
  have hinserts := insertsUser_iff (t := t) (o := o) u
  cases hins : if o.userFails then none
      else (organizationTried o t u.userName).insertUser (newUser o u) with
  | none =>
    have hrun : createUser o t (some u) = (.error (writeSCIMError 409 (ascii "uniqueness")),
        organizationTried o t u.userName) := by
      rw [organizationTried] at hins ⊢
      simp only [createUser, if_neg hname, hins]
    rw [hins] at hinserts
    have hnot : ¬ InsertsUser o t u := fun h => hinserts.mp h rfl
    have happlied : ¬ Applied t (.createUser o (some u)) := by
      rintro ⟨_, hu, -, -, h⟩
      cases hu
      exact hnot h
    have hrefuses := writeSCIMError_refuses (ascii "uniqueness") (by decide : 400 ≤ 409)
      (by decide) t (organizationTried o t u.userName)
    rw [organizationTried_eq_iff] at hrefuses
    simp only [ErrorsChangeNothing, Request.run, hrun, errorOf, organizationTried_eq_iff, hrefuses,
      happlied, hnot, false_implies, and_true, not_false_eq_true]
  | some t' =>
    have hrun : createUser o t (some u) =
        (.ok (userToSCIM o.userID u.userName u.displayName o.now o.now), t') := by
      rw [organizationTried] at hins
      simp only [createUser, if_neg hname, hins]
    rw [hins] at hinserts
    have hyes : InsertsUser o t u := hinserts.mpr (Option.some_ne_none t')
    simp [ErrorsChangeNothing, Request.run, hrun, errorOf, hyes]

lemma replaceUser_changes_nothing (fails : Bool) (now : ℤ) (id : Bytes) (body : Option SCIMUser) :
    ErrorsChangeNothing t (.replaceUser fails now id body) := by
  simp only [ErrorsChangeNothing, Request.run]
  cases body with
  | none =>
    refine ⟨fun _ _ _ _ => rfl, ?_⟩
    rintro ⟨_, hu, -⟩
    cases hu
  | some u =>
    simp only [replaceUser]
    cases hrows : if fails then none else t.updateUsers id UserRow.live now (u.assignment now) with
    | none =>
      refine ⟨fun _ _ _ _ => rfl, ?_⟩
      rintro ⟨_, hu, rfl, n, t', hsome⟩
      cases hu
      cases hrows.symm.trans hsome
    | some r =>
      obtain ⟨n, t'⟩ := r
      cases n with
      | zero =>
        refine ⟨fun _ _ _ _ => rfl, ?_⟩
        rintro ⟨_, hu, rfl, n, t'', hsome⟩
        cases hu
        cases hrows.symm.trans hsome
      | succ n =>
        refine ⟨fun err herr => ?_, fun _ => rfl⟩
        cases herr

lemma idle_nil (now : ℤ) (t : Tables) : Idle now t [] := (ran_nil t).eq_iff.mp rfl

lemma patchUser_iff (o : PatchOutcome) (id : Bytes) (ops : List SCIMPatchOperation) :
    ErrorsChangeNothing t (.patchUser o id (some ops)) ↔
      ¬ (UserGone o t id (effective o t (userStatements o id ops)) ∧
        (Applied t (.patchUser o id (some ops)) ∨
          ¬ Idle o.now t (effective o t (userStatements o id ops)))) := by
  by_cases hops : ops = []
  · subst hops
    have happlied : ¬ Applied t (.patchUser o id (some [])) := by
      rintro ⟨_, h, hne, -⟩
      cases h
      exact hne rfl
    have hidle : Idle o.now t (effective o t (userStatements o id [])) := idle_nil o.now t
    simp [ErrorsChangeNothing, Request.run, patchUser, errorOf, happlied, hidle]
  · have hran : Ran o.now (effective o t (userStatements o id ops)) t
        (execAll o.now o.fails 0 (userStatements o id ops) t) := execAll_ran 0 _ t
    rw [userStatements] at hran
    apply patch_iff hran hran.userGone_iff
    · intro hnone
      simp only [patchUser, if_neg hops, hnone]
    · intro u hsome
      simp only [patchUser, if_neg hops, hsome]
      rfl

lemma patchGroup_iff (o : PatchOutcome) (id : Bytes) (ops : List SCIMPatchOperation) :
    ErrorsChangeNothing t (.patchGroup o id (some ops)) ↔
      ¬ (GroupGone o t id ∧
        (Applied t (.patchGroup o id (some ops)) ∨
          ¬ Idle o.now t (effective o t (groupStatements id ops)))) := by
  by_cases hops : ops = []
  · subst hops
    have happlied : ¬ Applied t (.patchGroup o id (some [])) := by
      rintro ⟨_, h, hne, -⟩
      cases h
      exact hne rfl
    have hidle : Idle o.now t (effective o t (groupStatements id [])) := idle_nil o.now t
    simp [ErrorsChangeNothing, Request.run, patchGroup, errorOf, happlied, hidle]
  · have hran : Ran o.now (effective o t (groupStatements id ops)) t
        (execAll o.now o.fails 0 (groupStatements id ops) t) := execAll_ran 0 _ t
    rw [groupStatements] at hran
    apply patch_iff hran hran.groupGone_iff
    · intro hnone
      simp only [patchGroup, if_neg hops, hnone]
    · intro org hsome
      simp only [patchGroup, if_neg hops, hsome]
      rfl

end Handlers

/-- A refused request leaves the tables as they were and no applied one is refused, but for a new
organisation that stays without its user, and for patches of what is gone in the end. -/
theorem scim_errors_iff (t : Tables) (r : Request) : ErrorsChangeNothing t r ↔ ¬ Strays t r := by
  cases r with
  | createUser o body =>
    cases body with
    | none => simp [ErrorsChangeNothing, Request.run, createUser, Applied, Strays]
    | some u =>
      by_cases hname : u.userName = []
      · simp [ErrorsChangeNothing, Request.run, createUser, Applied, Strays, hname]
      · simp only [createUser_iff o u hname, Strays, Option.mem_some_iff, exists_eq_left', ne_eq,
          hname, not_false_eq_true, true_and]
  | replaceUser fails now id body =>
    simp only [replaceUser_changes_nothing, Strays, not_false_eq_true]
  | patchUser o id body =>
    cases body with
    | none => simp [ErrorsChangeNothing, Request.run, patchUser, Applied, Strays]
    | some ops =>
      rw [patchUser_iff]
      simp only [Strays, Option.mem_some_iff, exists_eq_left']
  | patchGroup o id body =>
    cases body with
    | none => simp [ErrorsChangeNothing, Request.run, patchGroup, Applied, Strays]
    | some ops =>
      rw [patchGroup_iff]
      simp only [Strays, Option.mem_some_iff, exists_eq_left']

def oneUser : Tables where
  organizations := [⟨ascii "o", ascii "a@b.cc", ascii "a-b-cc", ascii "free", 0, 0, none⟩]
  users := [⟨ascii "u", ascii "o", ascii "a@b.cc", ascii "A B", ascii "member", none, 0, 0, none⟩]
  organizationKeys := List.nodup_singleton _
  slugs := List.nodup_singleton _
  userKeys := List.nodup_singleton _
  addresses := List.nodup_singleton _

def deactivation : List SCIMPatchOperation :=
  [⟨ascii "replace", .null, .obj [(ascii "active", .bool false)]⟩]

theorem patchUser_deactivates_with_404 :
    (patchUser { now := 7 } oneUser (ascii "u") (some deactivation)).1 =
      .error (writeSCIMError 404 []) ∧
    ((patchUser { now := 7 } oneUser (ascii "u") (some deactivation)).2.users.map
      UserRow.deletedAt) = [some 7] ∧
    ¬ ErrorsChangeNothing oneUser (.patchUser { now := 7 } (ascii "u") (some deactivation)) := by
  have hanswer : (patchUser { now := 7 } oneUser (ascii "u") (some deactivation)).1 =
      .error (writeSCIMError 404 []) := by rfl
  have husers : (patchUser { now := 7 } oneUser (ascii "u") (some deactivation)).2.users.map
      UserRow.deletedAt = [some 7] := by rfl
  refine ⟨hanswer, husers, fun h => ?_⟩
  have hsame := h.1 (writeSCIMError 404 []) (by rw [Request.run, hanswer]; rfl) (by decide)
    (by decide)
  rw [Request.run] at hsame
  rw [hsame] at husers
  exact absurd husers (by decide)

end OmniTun.Scim
