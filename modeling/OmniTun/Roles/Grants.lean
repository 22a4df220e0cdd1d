import OmniTun.Foundation.Transition
import OmniTun.Roles.Handlers

/-! What the stored roles grant, along any sequence of requests. -/

namespace OmniTun.Roles

open OmniTun.Foundation OmniTun.Api Transition

inductive Request
  | create (o : Outcome) (body : Option RoleRequest)
  | update (o : Outcome) (id : Bytes) (body : Option RoleRequest)
  | delete (o : Outcome) (id : Bytes)

def Request.run (formatTime : ℤ → Bytes) (roles : List CustomRole) :
    Request → Response × List CustomRole
  | .create o body => createRole formatTime o roles body
  | .update o id body => updateRole formatTime o roles id body
  | .delete o id => deleteRole o roles id

def step (formatTime : ℤ → Bytes) (roles : List CustomRole) (r : Request) :
    Option (List CustomRole) := some (r.run formatTime roles).2

structure Grants (role : CustomRole) : Prop where
  named : role.name ≠ []
  granting : role.permissions ≠ []
  nodup : role.permissions.Nodup
  valid : ∀ p ∈ role.permissions, p ∈ validPermissions

def AllGrant (roles : List CustomRole) : Prop := ∀ role ∈ roles, Grants role

def Request.Rejected (formatTime : ℤ → Bytes) (roles : List CustomRole) (r : Request) : Prop :=
  400 ≤ (r.run formatTime roles).1.status

def RoleRequest.GrantsNothing (req : RoleRequest) : Prop :=
  ∀ p ∈ req.permissions, p ∉ validPermissions

def Request.Breaking : Request → Prop
  | .create _ body => ∀ req ∈ body, req.name = [] ∨ req.GrantsNothing
  | .update _ _ body => ∀ req ∈ body, req.permissions ≠ [] ∧ req.GrantsNothing
  | .delete _ _ => False

structure Request.Careful (formatTime : ℤ → Bytes) (roles : List CustomRole) (r : Request) :
    Prop where
  unchanged : r.Rejected formatTime roles → (r.run formatTime roles).2 = roles
  rejects : r.Breaking → r.Rejected formatTime roles

/-- The roles of the id are given permissions none of which is valid. -/
def Request.Empties (roles : List CustomRole) : Request → Prop
  | .update o id (some req) => o.execFails = false ∧ (∃ role ∈ roles, role.id = id) ∧
      req.permissions ≠ [] ∧ req.GrantsNothing
  | _ => False

section Filter

variable {perms seen : List Bytes} {p : Bytes}

lemma unseen_iff : (validPermissions.contains p && !seen.contains p) = true ↔
    p ∈ validPermissions ∧ p ∉ seen := by
  simp

lemma mem_filterUnseen : p ∈ filterUnseen seen perms ↔
    p ∈ perms ∧ p ∈ validPermissions ∧ p ∉ seen := by
  induction perms generalizing seen with
  | nil => simp [filterUnseen]
  | cons q perms ih =>
    rw [filterUnseen]
    split_ifs with hq <;> rw [unseen_iff] at hq
    · rw [List.mem_cons, ih, List.mem_cons, List.mem_cons]
      by_cases hpq : p = q
      · simp [hpq, hq]
      · simp [hpq]
    · rw [ih, List.mem_cons]
      by_cases hpq : p = q
      · subst hpq
        simp only [true_or, hq, and_false]
      · simp [hpq]

lemma filterUnseen_nodup : (filterUnseen seen perms).Nodup := by
  induction perms generalizing seen with
  | nil => exact List.nodup_nil
  | cons q perms ih =>
    rw [filterUnseen]
    split_ifs with hq
    · apply List.nodup_cons.mpr
      refine ⟨fun hmem => ?_, ih⟩
      exact (mem_filterUnseen.mp hmem).2.2 List.mem_cons_self
    · exact ih

lemma mem_filterValidPermissions :
    p ∈ filterValidPermissions perms ↔ p ∈ perms ∧ p ∈ validPermissions := by
  simp [filterValidPermissions, mem_filterUnseen]

lemma filterValidPermissions_nodup : (filterValidPermissions perms).Nodup := filterUnseen_nodup

lemma filterValidPermissions_eq_nil_iff {req : RoleRequest} :
    filterValidPermissions req.permissions = [] ↔ req.GrantsNothing := by
  simp [List.eq_nil_iff_forall_not_mem, mem_filterValidPermissions, RoleRequest.GrantsNothing]

end Filter

section Requests

variable {formatTime : ℤ → Bytes} {roles : List CustomRole} {o : Outcome} {id : Bytes}

lemma createRole_cases (formatTime : ℤ → Bytes) (o : Outcome) (roles : List CustomRole)
    (body : Option RoleRequest) :
    400 ≤ (createRole formatTime o roles body).1.status ∧
        (createRole formatTime o roles body).2 = roles ∨
      ∃ req, body = some req ∧ req.name ≠ [] ∧ ¬ req.GrantsNothing ∧
        (createRole formatTime o roles body).1.status = 201 ∧
        (createRole formatTime o roles body).2 =
          roles ++ [⟨o.id, req.name, filterValidPermissions req.permissions, o.now, o.now⟩] := by
  cases body with
  | none => exact .inl ⟨le_rfl, rfl⟩
  | some req =>
    simp only [createRole, List.length_eq_zero_iff]
    split_ifs with hname hlen hvalid hfails
    · exact .inl ⟨le_rfl, rfl⟩
    · exact .inl ⟨le_rfl, rfl⟩
    · exact .inl ⟨le_rfl, rfl⟩
    · exact .inl ⟨(by decide : 400 ≤ 409), rfl⟩
    · rw [filterValidPermissions_eq_nil_iff] at hvalid
      exact .inr ⟨req, rfl, hname, hvalid, rfl, rfl⟩

lemma updateRole_cases (formatTime : ℤ → Bytes) (o : Outcome) (roles : List CustomRole) (id : Bytes)
    (body : Option RoleRequest) :
    400 ≤ (updateRole formatTime o roles id body).1.status ∧
        (updateRole formatTime o roles id body).2 = roles ∧
        ¬ (Request.update o id body).Empties roles ∨
      ∃ req, body = some req ∧ o.execFails = false ∧ (∃ role ∈ roles, role.id = id) ∧
        (updateRole formatTime o roles id body).1.status = 200 ∧
        (updateRole formatTime o roles id body).2 =
          roles.map fun role => if role.id = id then req.set o.now role else role := by
  cases body with
  | none => exact .inl ⟨le_rfl, rfl, not_false⟩
  | some req =>
    by_cases hnone : req.name = [] ∧ req.permissions.length = 0
    · rw [updateRole, if_pos hnone]
      refine .inl ⟨le_rfl, rfl, ?_⟩
      rintro ⟨-, -, hperms, -⟩
      exact hperms (List.length_eq_zero_iff.mp hnone.2)
    · by_cases hmissing : o.execFails ∨ roles.countP (·.id = id) = 0
      · rw [updateRole, if_neg hnone, if_pos hmissing]
        refine .inl ⟨(by decide : 400 ≤ 404), rfl, ?_⟩
        rintro ⟨hfails, ⟨role, hrole, hid⟩, -, -⟩
        rcases hmissing with hexec | hcount
        · rw [hfails] at hexec
          cases hexec
        · exact List.countP_eq_zero.mp hcount role hrole (decide_eq_true hid)
      · obtain ⟨hfails, hcount⟩ := not_or.mp hmissing
        obtain ⟨role, hrole, hid⟩ := List.countP_pos_iff.mp (Nat.pos_of_ne_zero hcount)
        rw [updateRole, if_neg hnone, if_neg hmissing]
        refine .inr ⟨req, rfl, eq_false_of_ne_true hfails, ⟨role, hrole, of_decide_eq_true hid⟩, ?_⟩
        dsimp only
        split
        · exact ⟨rfl, rfl⟩
        · exact ⟨rfl, rfl⟩

lemma deleteRole_cases (o : Outcome) (roles : List CustomRole) (id : Bytes) :
    400 ≤ (deleteRole o roles id).1.status ∧ (deleteRole o roles id).2 = roles ∨
      (deleteRole o roles id).1.status = 200 ∧
        (deleteRole o roles id).2 = roles.filter fun role => role.id ≠ id := by
  simp only [deleteRole]
  split
  · exact .inl ⟨(by decide : 400 ≤ 404), rfl⟩
  · split_ifs
    · exact .inl ⟨(by decide : 400 ≤ 409), rfl⟩
    · exact .inl ⟨(by decide : 400 ≤ 404), rfl⟩
    · exact .inr ⟨rfl, rfl⟩

end Requests

section Steps

variable {formatTime : ℤ → Bytes} {roles : List CustomRole} {o : Outcome} {id : Bytes}

lemma createRole_grants (body : Option RoleRequest) (h : AllGrant roles) :
    AllGrant (createRole formatTime o roles body).2 ∧
      (Request.create o body).Careful formatTime roles := by
  rcases createRole_cases formatTime o roles body with
    ⟨hstatus, hsame⟩ | ⟨req, rfl, hname, hgrants, hstatus, hroles⟩
  · rw [hsame]
    exact ⟨h, fun _ => hsame, fun _ => hstatus⟩
  · refine ⟨?_, ?_, ?_⟩
    · rw [hroles]
      intro role hrole
      rcases List.mem_append.mp hrole with hold | hnew
      · exact h role hold
      · rw [List.mem_singleton.mp hnew]
        refine ⟨hname, ?_, filterValidPermissions_nodup, fun p hp => ?_⟩
        · exact filterValidPermissions_eq_nil_iff.not.mpr hgrants
        · exact (mem_filterValidPermissions.mp hp).2
    · intro hrejected
      rw [Request.Rejected, Request.run, hstatus] at hrejected
      omega
    · intro hbreaking
      rcases hbreaking req rfl with hempty | hnothing
      · exact absurd hempty hname
      · exact absurd hnothing hgrants

lemma set_permissions (req : RoleRequest) (now : ℤ) (role : CustomRole) :
    (req.set now role).permissions =
      if req.permissions = [] then role.permissions
      else filterValidPermissions req.permissions := by
  simp only [RoleRequest.set, List.length_pos_iff, ite_not]

lemma set_grants {req : RoleRequest} {now : ℤ} {role : CustomRole} (h : Grants role)
    (hreq : ¬ (req.permissions ≠ [] ∧ req.GrantsNothing)) : Grants (req.set now role) := by
  have hname : (req.set now role).name ≠ [] := by
    simp only [RoleRequest.set]
    split_ifs with hne
    · exact hne
    · exact h.named
  by_cases hperms : req.permissions = []
  · have hsame : (req.set now role).permissions = role.permissions := by
      rw [set_permissions, if_pos hperms]
    refine ⟨hname, ?_, ?_, ?_⟩
    · rw [hsame]
      exact h.granting
    · rw [hsame]
      exact h.nodup
    · rw [hsame]
      exact h.valid
  · have hset : (req.set now role).permissions = filterValidPermissions req.permissions := by
      rw [set_permissions, if_neg hperms]
    refine ⟨hname, ?_, ?_, ?_⟩
    · rw [hset, ne_eq, filterValidPermissions_eq_nil_iff]
      exact fun hnothing => hreq ⟨hperms, hnothing⟩
    · rw [hset]
      exact filterValidPermissions_nodup
    · rw [hset]
      exact fun p hp => (mem_filterValidPermissions.mp hp).2

lemma updateRole_grants_iff (body : Option RoleRequest) (h : AllGrant roles) :
    AllGrant (updateRole formatTime o roles id body).2 ∧
      (Request.update o id body).Careful formatTime roles ↔
        ¬ (Request.update o id body).Empties roles := by
  rcases updateRole_cases formatTime o roles id body with
    ⟨hstatus, hsame, hnot⟩ | ⟨req, rfl, hfails, ⟨role, hrole, hid⟩, hstatus, hroles⟩
  · rw [hsame]
    exact iff_of_true ⟨h, fun _ => hsame, fun _ => hstatus⟩ hnot
  · have hempties : (Request.update o id (some req)).Empties roles ↔
        req.permissions ≠ [] ∧ req.GrantsNothing := by
      rw [Request.Empties]
      exact ⟨fun h => h.2.2, fun h => ⟨hfails, ⟨role, hrole, hid⟩, h⟩⟩
    have haccepted : ¬ (Request.update o id (some req)).Rejected formatTime roles := by
      rw [Request.Rejected, Request.run, hstatus]
      decide
    rw [hempties]
    constructor
    · rintro ⟨-, hcareful⟩ hbreaking
      apply haccepted
      apply hcareful.rejects
      rintro _ ⟨⟩
      exact hbreaking
    · intro hnot
      refine ⟨?_, fun hrejected => absurd hrejected haccepted, fun hbreaking => ?_⟩
      · rw [hroles]
        intro role' hrole'
        obtain ⟨old, hold, rfl⟩ := List.mem_map.mp hrole'
        split_ifs
        · exact set_grants (h old hold) hnot
        · exact h old hold
      · exact absurd (hbreaking req rfl) hnot

lemma deleteRole_grants (h : AllGrant roles) :
    AllGrant (deleteRole o roles id).2 ∧ (Request.delete o id).Careful formatTime roles := by
  rcases deleteRole_cases o roles id with ⟨hstatus, hsame⟩ | ⟨hstatus, hroles⟩
  · rw [hsame]
    exact ⟨h, fun _ => hsame, False.elim⟩
  · refine ⟨?_, fun hrejected => ?_, False.elim⟩
    · rw [hroles]
      exact fun role hrole => h role (List.mem_filter.mp hrole).1
    · rw [Request.Rejected, Request.run, hstatus] at hrejected
      omega

end Steps

/-- Every stored role grants something valid, and what would break this is rejected, along every run
in which no role is left without permissions by an update that names invalid ones only. -/
theorem roles_grant_iff (formatTime : ℤ → Bytes) (roles : List CustomRole) (rs : List Request)
    (h : AllGrant roles) :
    Always (step formatTime) AllGrant roles rs ∧
      Guarded (step formatTime) (fun roles r => r.Careful formatTime roles) roles rs ↔
        Guarded (step formatTime) (fun roles r => ¬ r.Empties roles) roles rs := by
  apply always_and_guarded_iff h
  intro roles r roles' hgrant hstep
  obtain rfl := Option.some.inj hstep
  cases r with
  | create o body =>
    exact iff_of_true (createRole_grants body hgrant) not_false
  | update o id body => exact updateRole_grants_iff body hgrant
  | delete o id => exact iff_of_true (deleteRole_grants hgrant) not_false

def viewer : Request :=
  .create { id := ascii "1" } (some ⟨ascii "Viewer", [ascii "tunnels:read"]⟩)

def renamedPermissions : Request :=
  .update {} (ascii "1") (some ⟨[], [ascii "tunnel:read"]⟩)

def viewerRole : CustomRole := ⟨ascii "1", ascii "Viewer", [ascii "tunnels:read"], 0, 0⟩

def keptRequests : List Request :=
  [.create { id := ascii "2" } (some ⟨ascii "Editor", [ascii "tunnels:update"]⟩),
    .update {} (ascii "1") (some ⟨[], [ascii "tunnel:read", ascii "tunnels:stop"]⟩),
    .delete {} (ascii "2")]

theorem roles_grant_iff_viewer :
    Always (step fun _ => []) AllGrant [viewerRole] keptRequests ∧
      Guarded (step fun _ => []) (fun roles r => r.Careful (fun _ => []) roles) [viewerRole]
        keptRequests := by
  have hviewer : Grants viewerRole := ⟨by decide, by decide, by decide, by decide⟩
  apply (roles_grant_iff (fun _ => []) [viewerRole] keptRequests
    fun role hrole => List.mem_singleton.mp hrole ▸ hviewer).mpr
  rintro roles ⟨rfl⟩
  refine ⟨not_false, ?_⟩
  rintro roles ⟨rfl⟩
  refine ⟨?_, ?_⟩
  · rintro ⟨-, -, -, hnothing⟩
    exact hnothing (ascii "tunnels:stop") (by decide) (by decide)
  rintro roles ⟨rfl⟩
  exact ⟨not_false, trivial⟩

theorem update_leaves_nothing :
    ¬ Always (step fun _ => []) AllGrant [] [viewer, renamedPermissions] := by
  intro h
  have hroles : (renamedPermissions.run (fun _ => []) (viewer.run (fun _ => []) []).2).2 =
      [⟨ascii "1", ascii "Viewer", [], 0, 0⟩] := by rfl
  have hlast : AllGrant (renamedPermissions.run (fun _ => []) (viewer.run (fun _ => []) []).2).2 :=
    (h.2 _ rfl).2 _ rfl
  rw [hroles] at hlast
  exact (hlast _ List.mem_cons_self).granting rfl

end OmniTun.Roles
