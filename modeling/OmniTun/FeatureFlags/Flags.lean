import OmniTun.Foundation.Json
import OmniTun.Foundation.Processes

/-! Feature flags: rows of a database, and a cache in front of them that readers, writers and a
ticker fill from what they have read. -/

namespace OmniTun.FeatureFlags

open OmniTun.Foundation

structure Flag where
  id : Bytes
  key : Bytes
  name : Bytes
  description : Bytes
  type : Bytes
  value : Bytes
  enabled : Bool
  createdAt : ℤ
  updatedAt : ℤ
  deriving DecidableEq

/-- How JSON is read by the service, and how the database writes what it has read. -/
structure JsonText where
  unmarshal : Bytes → Option Json
  jsonb : Bytes → Option Bytes

variable (text : JsonText)

/-! Evaluation of a flag for an organization. -/

def fnv32a (s : Bytes) : UInt32 := s.foldl (fun h b => (h ^^^ b.toUInt32) * 16777619) 2166136261

def evaluatePercentage (orgID : Bytes) (percentage : ℤ) : Bool :=
  if percentage ≤ 0 then false
  else if 100 ≤ percentage then true
  else (fnv32a orgID % 100).toNat < percentage

def booleanValue (j : Json) : Option Bool :=
  j.fields.bind fun fs => Json.field Json.readBool false fs (ascii "enabled")

def percentageValue (j : Json) : Option ℤ :=
  j.fields.bind fun fs => Json.intField fs (ascii "percentage")

def whitelistValue (j : Json) : Option (List Bytes) :=
  j.fields.bind fun fs => Json.listField Json.readString fs (ascii "orgs")

def Flag.evaluate (f : Flag) (orgID : Bytes) : Bool :=
  if !f.enabled then false
  else if f.type = ascii "boolean" then ((text.unmarshal f.value).bind booleanValue).getD false
  else if f.type = ascii "percentage" then
    ((text.unmarshal f.value).bind percentageValue).any fun percentage =>
      evaluatePercentage orgID percentage
  else if f.type = ascii "whitelist" then
    ((text.unmarshal f.value).bind whitelistValue).any fun orgs => orgs.any (· = orgID)
  else false

/-! The table of flags, in the order in which they were created. -/

structure Rows where
  flags : List Flag
  unique : (flags.map Flag.key).Nodup

namespace Rows

variable (rows : Rows)

def find (key : Bytes) : Option Flag := rows.flags.find? fun f => f.key = key

def update (flag : Flag) (value : Bytes) (now : ℤ) : Rows where
  flags := rows.flags.map fun f =>
    if f.key = flag.key then
      { f with
        name := flag.name
        description := flag.description
        type := flag.type
        value := value
        enabled := flag.enabled
        updatedAt := now }
    else f
  unique := by
    have hkey : (rows.flags.map fun f =>
        if f.key = flag.key then
          { f with
            name := flag.name
            description := flag.description
            type := flag.type
            value := value
            enabled := flag.enabled
            updatedAt := now }
        else f).map Flag.key = rows.flags.map Flag.key := by
      rw [List.map_map]
      apply List.map_congr_left
      intro f _
      simp only [Function.comp_apply]
      split_ifs <;> rfl
    rw [hkey]
    exact rows.unique

def delete (key : Bytes) : Rows where
  flags := rows.flags.filter fun f => f.key ≠ key
  unique := rows.unique.sublist (List.filter_sublist.map _)

def insert (flag : Flag) (h : rows.find flag.key = none) : Rows where
  flags := rows.flags ++ [flag]
  unique := by
    rw [List.map_append, List.map_singleton]
    apply List.Nodup.append rows.unique (List.nodup_singleton _)
    rw [List.disjoint_singleton]
    intro hmem
    obtain ⟨f, hf, hkey⟩ := List.mem_map.mp hmem
    have hne := List.find?_eq_none.mp h f hf
    exact hne (by simpa using hkey)

end Rows

/-! The manager of one server, and what its users have seen. -/

structure Manager where
  cache : Table Bytes Flag
  expiry : ℤ

structure Answer where
  key : Bytes
  orgID : Bytes
  off : Bool
  result : Bool
  deriving DecidableEq

/-- A flag is off once it has been disabled or deleted, until it is turned on, which is counted. -/
structure History where
  off : Bytes → Bool
  turnedOn : Bytes → ℕ
  answers : List Answer

structure State where
  rows : Rows
  manager : Manager
  history : History

namespace State

variable (s : State)

def setCache (flag : Flag) (key : Bytes) : State :=
  { s with manager := { s.manager with cache := s.manager.cache.insert key flag } }

def uncache (key : Bytes) : State :=
  { s with manager := { s.manager with cache := s.manager.cache.erase key } }

def replaceCache (flags : List Flag) (now : ℤ) : State :=
  { s with manager := ⟨Table.keyed Flag.key flags, now + 5 * 10 ^ 9⟩ }

def answer (a : Answer) : State :=
  { s with history := { s.history with answers := a :: s.history.answers } }

def turnOn (key : Bytes) : State :=
  { s with
    history :=
      { s.history with
        off := Function.update s.history.off key false
        turnedOn := Function.update s.history.turnedOn key (s.history.turnedOn key + 1) } }

def turnOff (key : Bytes) : State :=
  { s with history := { s.history with off := Function.update s.history.off key true } }

end State

/-! The operations, between their steps. A call keeps how often its flag has been turned on. -/

inductive Call
  | idle
  | missed (key orgID : Bytes) (off : Bool) (turnedOn : ℕ)
  | loaded (key orgID : Bytes) (off : Bool) (turnedOn : ℕ) (flag : Flag)
  | refreshing (flags : List Flag)
  | updated (flag : Flag) (turnedOn : ℕ)
  | scanned (flag : Flag) (turnedOn : ℕ)
  | deleted (key : Bytes) (turnedOn : ℕ)
  | created (flag : Flag)
  deriving DecidableEq

inductive Action
  | isEnabled (key orgID : Bytes)
  | load (ok : Bool)
  -- a connection that breaks while rows are read ends the list and is no error
  | refreshCache (read : Option ℕ)
  | updateFlag (flag : Flag) (ok : Bool) (now : ℤ)
  | deleteFlag (key : Bytes) (ok : Bool)
  | createFlag (flag : Flag) (id : Option Bytes) (now : ℤ)
  | store (now : ℤ)
  deriving DecidableEq

def execUpdate (flag : Flag) (now : ℤ) (s : State) : Call × State :=
  match text.jsonb flag.value with
  | none => (.idle, s)
  | some value =>
    if (s.rows.find flag.key).isSome then
      let s := { s with rows := s.rows.update flag value now }
      let s := if flag.enabled then s.turnOn flag.key else s
      (.updated flag (s.history.turnedOn flag.key), s)
    else (.idle, if flag.enabled then s else s.turnOff flag.key)

def insertFlag (flag : Flag) (id : Bytes) (now : ℤ) (s : State) : Call × State :=
  match text.jsonb flag.value with
  | none => (.idle, s)
  | some value =>
    let flag := { flag with id := id, createdAt := now, updatedAt := now }
    if h : s.rows.find flag.key = none then
      (.created flag, { s with rows := s.rows.insert { flag with value := value } h }.turnOn flag.key)
    else (.idle, s)

def State.settle (key : Bytes) (turnedOn : ℕ) (s : State) : State :=
  if s.history.turnedOn key = turnedOn then s.turnOff key else s

def next : Action → Call → State → Option (Call × State)
  | .isEnabled key orgID, .idle, s =>
    match s.manager.cache.lookup key with
    | some f => some (.idle, s.answer ⟨key, orgID, s.history.off key, f.evaluate text orgID⟩)
    | none => some (.missed key orgID (s.history.off key) (s.history.turnedOn key), s)
  | .load ok, .missed key orgID off turnedOn, s =>
    match if ok then s.rows.find key else none with
    | some f => some (.loaded key orgID off turnedOn f, s)
    | none =>
      some (.idle, s.answer ⟨key, orgID, off && turnedOn = s.history.turnedOn key, false⟩)
  | .store _, .loaded key orgID off turnedOn f, s =>
    some (.idle, (s.setCache f key).answer
      ⟨key, orgID, off && turnedOn = s.history.turnedOn key, f.evaluate text orgID⟩)
  | .refreshCache none, .idle, s => some (.idle, s)
  | .refreshCache (some n), .idle, s => some (.refreshing (s.rows.flags.take n), s)
  | .store now, .refreshing flags, s => some (.idle, s.replaceCache flags now)
  | .updateFlag flag ok now, .idle, s => some (if ok then execUpdate text flag now s else (.idle, s))
  | .load ok, .updated flag turnedOn, s =>
    match if ok then s.rows.find flag.key else none with
    | some f =>
      some (.scanned { flag with id := f.id, createdAt := f.createdAt, updatedAt := f.updatedAt }
        turnedOn, s)
    | none => some (.idle, s)
  | .store _, .scanned flag turnedOn, s =>
    let s := s.setCache flag flag.key
    some (.idle, if flag.enabled then s else s.settle flag.key turnedOn)
  | .deleteFlag key ok, .idle, s =>
    if ok then some (.deleted key (s.history.turnedOn key), { s with rows := s.rows.delete key })
    else some (.idle, s)
  | .store _, .deleted key turnedOn, s => some (.idle, (s.uncache key).settle key turnedOn)
  | .createFlag flag id now, .idle, s =>
    match id with
    | some id => some (insertFlag text flag id now s)
    | none => some (.idle, s)
  | .store _, .created flag, s => some (.idle, s.setCache flag flag.key)
  | _, _, _ => none

def started (rows : Rows) : State where
  rows := rows
  manager := ⟨∅, 0⟩
  history := ⟨fun _ => false, fun _ => 0, []⟩

end OmniTun.FeatureFlags
