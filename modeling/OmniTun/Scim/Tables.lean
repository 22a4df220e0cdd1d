import Mathlib.Algebra.Ring.Int.Defs
import Mathlib.Data.List.Nodup
import Mathlib.Tactic.Common
import OmniTun.Foundation.Transport

/-! The tables of users and organisations with the columns that provisioning reads and writes. -/

namespace OmniTun.Scim

open OmniTun.Foundation

structure OrganizationRow where
  id : Bytes
  name : Bytes
  slug : Bytes
  plan : Bytes
  createdAt : ℤ
  updatedAt : ℤ
  deletedAt : Option ℤ
  deriving DecidableEq

structure UserRow where
  id : Bytes
  organizationID : Bytes
  email : Bytes
  displayName : Bytes
  role : Bytes
  externalID : Option Bytes
  createdAt : ℤ
  updatedAt : ℤ
  deletedAt : Option ℤ
  deriving DecidableEq

namespace UserRow

def address (u : UserRow) : Bytes × Bytes := (u.organizationID, u.email)

def live (u : UserRow) : Bool := u.deletedAt.isNone

end UserRow

/-- The constraints of the migrations are part of the tables. -/
@[ext] structure Tables where
  organizations : List OrganizationRow
  users : List UserRow
  organizationKeys : (organizations.map OrganizationRow.id).Nodup
  slugs : (organizations.map OrganizationRow.slug).Nodup
  userKeys : (users.map UserRow.id).Nodup
  addresses : (users.map UserRow.address).Nodup

structure Assignment where
  organizationID : Option Bytes := none
  email : Option Bytes := none
  displayName : Option Bytes := none
  externalID : Option (Option Bytes) := none
  deletedAt : Option (Option ℤ) := none
  deriving DecidableEq

def Assignment.apply (now : ℤ) (c : Assignment) (u : UserRow) : UserRow :=
  { u with
    organizationID := c.organizationID.getD u.organizationID
    email := c.email.getD u.email
    displayName := c.displayName.getD u.displayName
    externalID := c.externalID.getD u.externalID
    updatedAt := now
    deletedAt := c.deletedAt.getD u.deletedAt }

namespace Tables

variable (t : Tables)

def HasOrganization (id : Bytes) : Prop := ∃ org ∈ t.organizations, org.id = id

instance (id : Bytes) : Decidable (t.HasOrganization id) :=
  inferInstanceAs (Decidable (∃ org ∈ t.organizations, org.id = id))

def user (id : Bytes) : Option UserRow := t.users.find? fun u => u.id = id

def organization (id : Bytes) : Option OrganizationRow :=
  t.organizations.find? fun org => org.id = id

def insertOrganization (org : OrganizationRow) : Option Tables :=
  if h : ((t.organizations ++ [org]).map OrganizationRow.id).Nodup ∧
      ((t.organizations ++ [org]).map OrganizationRow.slug).Nodup then
    some
      { t with
        organizations := t.organizations ++ [org]
        organizationKeys := h.1
        slugs := h.2 }
  else none

def insertUser (u : UserRow) : Option Tables :=
  if h : t.HasOrganization u.organizationID ∧ ((t.users ++ [u]).map UserRow.id).Nodup ∧
      ((t.users ++ [u]).map UserRow.address).Nodup then
    some { t with users := t.users ++ [u], userKeys := h.2.1, addresses := h.2.2 }
  else none

def assigned (id : Bytes) (p : UserRow → Bool) (now : ℤ) (c : Assignment) : List UserRow :=
  t.users.map fun u => if u.id = id ∧ p u then c.apply now u else u

lemma assigned_keys (id : Bytes) (p : UserRow → Bool) (now : ℤ) (c : Assignment) :
    (t.assigned id p now c).map UserRow.id = t.users.map UserRow.id := by
  rw [assigned, List.map_map]
  apply List.map_congr_left
  intro u _
  simp only [Function.comp_apply]
  split_ifs
  · rfl
  · rfl

def updateUsers (id : Bytes) (p : UserRow → Bool) (now : ℤ) (c : Assignment) :
    Option (ℕ × Tables) :=
  if h : (∀ u ∈ t.users, u.id = id ∧ p u → ∀ org ∈ c.organizationID, t.HasOrganization org) ∧
      ((t.assigned id p now c).map UserRow.address).Nodup then
    some (t.users.countP fun u => u.id = id ∧ p u,
      { t with
        users := t.assigned id p now c
        userKeys := by
          rw [assigned_keys]
          exact t.userKeys
        addresses := h.2 })
  else none

def renamed (id name : Bytes) (now : ℤ) : List OrganizationRow :=
  t.organizations.map fun org =>
    if org.id = id then { org with name := name, updatedAt := now } else org

lemma renamed_map {α : Type} {f : OrganizationRow → α} (id name : Bytes) (now : ℤ)
    (hf : ∀ org : OrganizationRow, f { org with name := name, updatedAt := now } = f org) :
    (t.renamed id name now).map f = t.organizations.map f := by
  rw [renamed, List.map_map]
  apply List.map_congr_left
  intro org _
  simp only [Function.comp_apply]
  split_ifs
  · exact hf org
  · rfl

def renameOrganization (id name : Bytes) (now : ℤ) : ℕ × Tables :=
  (t.organizations.countP fun org => org.id = id,
    { t with
      organizations := t.renamed id name now
      organizationKeys := by
        rw [renamed_map t id name now fun _ => rfl]
        exact t.organizationKeys
      slugs := by
        rw [renamed_map t id name now fun _ => rfl]
        exact t.slugs })

end Tables

end OmniTun.Scim
