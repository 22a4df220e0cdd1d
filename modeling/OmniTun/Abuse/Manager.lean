import OmniTun.Foundation.Numerals

/-! The abuse reports and the IP blacklist that the server keeps in memory. -/

namespace OmniTun.Abuse

open OmniTun.Foundation

structure Report where
  id : Bytes
  orgID : Bytes
  reporterID : Bytes
  tunnelID : Bytes
  reason : Bytes
  description : Bytes
  status : Bytes
  resolution : Bytes
  createdAt : ℤ
  updatedAt : ℤ
  deriving DecidableEq, Repr

structure IPBlacklistEntry where
  id : Bytes
  cidr : Bytes
  reason : Bytes
  createdBy : Bytes
  createdAt : ℤ
  expiresAt : Option ℤ
  deriving DecidableEq, Repr

/-- The bytes of a slice of pointers can be counted. -/
structure Manager where
  reports : List Report
  blacklist : List IPBlacklistEntry
  fits : 8 * reports.length < 2 ^ 63

def newManager : Manager := ⟨[], [], by decide⟩

def makeable (n : Int64) : Prop := 0 ≤ n ∧ 8 * n.toInt < 2 ^ 63

instance (n : Int64) : Decidable (makeable n) := inferInstanceAs (Decidable (_ ∧ _))

def slice {α : Type} (xs : List α) (low high : Int64) : Option (List α) :=
  if 0 ≤ low ∧ low ≤ high ∧ high ≤ Int64.ofNat xs.length then
    some ((xs.drop low.toInt.toNat).take (high.toInt.toNat - low.toInt.toNat))
  else none

/-- A run-time panic is `none`. -/
def listReports (m : Manager) (status : Bytes) (limit offset : Int64) :
    Option (List Report × ℕ) :=
  let filtered := m.reports.filter fun r => ¬ (status ≠ [] ∧ r.status ≠ status)
  let total := filtered.length
  if Int64.ofNat total ≤ offset then some ([], total)
  else
    let stop := if Int64.ofNat total < offset + limit then Int64.ofNat total else offset + limit
    if makeable (stop - offset) then (slice filtered offset stop).map fun result => (result, total)
    else none

def queryInt (default : Int64) (text : Bytes) : Int64 :=
  if text = [] then default else ((Numerals.scanInt64 text).map Int64.ofInt).getD default

def handleAdminListReports (m : Manager) (status limit offset : Bytes) :
    Option (List Report × ℕ) :=
  listReports m status (queryInt 50 limit) (queryInt 0 offset)

end OmniTun.Abuse
