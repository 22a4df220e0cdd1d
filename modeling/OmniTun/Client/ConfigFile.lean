import OmniTun.Foundation.Json

/-! The file `~/.omnitun/config.json`, which the client's settings and its session share. -/

namespace OmniTun.Client

open OmniTun.Foundation

/-- A text that is no JSON is `none`. -/
inductive File
  | missing
  | text (j : Option Json)

/-- How JSON is written: the order in which the keys of a map come, and the text that comes out of a
string that need not be UTF-8. -/
structure Marshal where
  order : Table.RangeOrder Bytes
  utf8 : Bytes → Bytes

/-- A text that does not decode as a map of strings has no settings; a null has no map either. -/
def loadConfig : File → Option (Table Bytes Bytes)
  | .missing => some ∅
  | .text (some .null) => none
  | .text (some (.obj fs)) => some ((Json.readStrings ∅ fs).getD ∅)
  | .text _ => some ∅

structure SessionFile where
  accessToken : Bytes
  refreshToken : Bytes
  apiBaseURL : Bytes
  expiresAt : ℤ
  email : Bytes
  deriving DecidableEq

inductive Loaded
  | absent
  | failed
  | session (s : SessionFile)
  deriving DecidableEq

def SessionFile.ofFields (fs : List (Bytes × Json)) : Option SessionFile := do
  let accessToken ← Json.stringField fs (ascii "access_token")
  let refreshToken ← Json.stringField fs (ascii "refresh_token")
  let apiBaseURL ← Json.stringField fs (ascii "api_base_url")
  let expiresAt ← Json.intField fs (ascii "expires_at")
  let email ← Json.stringField fs (ascii "email")
  return ⟨accessToken, refreshToken, apiBaseURL, expiresAt, email⟩

def loadSession : File → Loaded
  | .missing => .absent
  | .text none => .failed
  | .text (some j) =>
    match j.fields.bind SessionFile.ofFields with
    | some s => .session s
    | none => .failed

section

variable (marshal : Marshal)

def written (cfg : Table Bytes Bytes) : List (Bytes × Bytes) :=
  (marshal.order.entries cfg).map fun e => (marshal.utf8 e.1, marshal.utf8 e.2)

def saveConfig (cfg : Table Bytes Bytes) : File :=
  .text (some (.obj ((written marshal cfg).map fun w => (w.1, .str w.2))))

def saveSession (s : SessionFile) : File :=
  .text (some (.obj [(ascii "access_token", .str (marshal.utf8 s.accessToken)),
    (ascii "refresh_token", .str (marshal.utf8 s.refreshToken)),
    (ascii "api_base_url", .str (marshal.utf8 s.apiBaseURL)),
    (ascii "expires_at", .num s.expiresAt), (ascii "email", .str (marshal.utf8 s.email))]))

def runConfigSet (key value : Bytes) (file : File) : File :=
  match loadConfig file with
  | none => file
  | some cfg => saveConfig marshal (cfg.insert key value)

def runConfigUnset (key : Bytes) (file : File) : File :=
  match loadConfig file with
  | none => file
  | some cfg => if cfg.lookup key = none then file else saveConfig marshal (cfg.erase key)

end

end OmniTun.Client
