import OmniTun.Client.ConfigFile

/-! When the commands for settings and the session leave each other alone. -/

namespace OmniTun.Client

open OmniTun.Foundation

def lastNamed (name : String) (ws : List (Bytes × Bytes)) : Bytes :=
  ((ws.filter fun w => Json.foldName w.1 = Json.foldName (ascii name)).map Prod.snd).getLast?.getD []

def Expires (ws : List (Bytes × Bytes)) : Prop :=
  ∃ w ∈ ws, Json.foldName w.1 = Json.foldName (ascii "expires_at")

def Spelled (ws : List (Bytes × Bytes)) : Loaded → Prop
  | .absent => False
  | .failed => Expires ws
  | .session s =>
    ¬ Expires ws ∧ s.expiresAt = 0 ∧ s.accessToken = lastNamed "access_token" ws ∧
      s.refreshToken = lastNamed "refresh_token" ws ∧
      s.apiBaseURL = lastNamed "api_base_url" ws ∧ s.email = lastNamed "email" ws

def texts (ws : List (Bytes × Bytes)) : List (Bytes × Json) := ws.map fun w => (w.1, .str w.2)

lemma named_texts (ws : List (Bytes × Bytes)) (name : Bytes) :
    Json.named (texts ws) name =
      ((ws.filter fun w => Json.foldName w.1 = Json.foldName name).map Prod.snd).map .str := by
  simp only [Json.named, texts, List.filter_map, List.map_map]
  rfl

lemma foldlM_texts (vs : List Bytes) (zero : Bytes) :
    (vs.map Json.str).foldlM (fun v j => match j with
      | .null => some v
      | j => Json.readString j) zero = some (vs.getLast?.getD zero) := by
  induction vs generalizing zero with
  | nil => rfl
  | cons v vs ih =>
    have hstep : ((v :: vs).map Json.str).foldlM (fun v j => match j with
        | .null => some v
        | j => Json.readString j) zero = (vs.map Json.str).foldlM (fun v j => match j with
        | .null => some v
        | j => Json.readString j) v := rfl
    rw [hstep, ih, List.getLast?_cons]
    rfl

lemma stringField_texts (ws : List (Bytes × Bytes)) (name : String) :
    Json.stringField (texts ws) (ascii name) = some (lastNamed name ws) := by
  rw [Json.stringField, Json.field, named_texts]
  exact foldlM_texts _ _

lemma intField_expires {ws : List (Bytes × Bytes)} (h : Expires ws) :
    Json.intField (texts ws) (ascii "expires_at") = none := by
  obtain ⟨w, hw, hname⟩ := h
  rw [Json.intField, Json.field, named_texts]
  generalize hvs : (ws.filter fun w => Json.foldName w.1 =
    Json.foldName (ascii "expires_at")).map Prod.snd = vs
  have hmem : w.2 ∈ vs := by
    rw [← hvs]
    exact List.mem_map_of_mem (List.mem_filter.mpr ⟨hw, by simpa using hname⟩)
  cases vs with
  | nil => cases hmem
  | cons v vs => rfl

lemma intField_texts {ws : List (Bytes × Bytes)} (h : ¬ Expires ws) :
    Json.intField (texts ws) (ascii "expires_at") = some 0 := by
  apply Json.field_missing
  apply Json.named_missing
  intro f hf hname
  obtain ⟨w, hw, rfl⟩ := List.mem_map.mp hf
  exact h ⟨w, hw, hname⟩

lemma loadSession_texts (ws : List (Bytes × Bytes)) (before : Loaded) :
    loadSession (.text (some (.obj (texts ws)))) = before ↔ Spelled ws before := by
  by_cases hexpires : Expires ws
  · have hnone : SessionFile.ofFields (texts ws) = none := by
      simp [SessionFile.ofFields, intField_expires hexpires]
    have hload : loadSession (.text (some (.obj (texts ws)))) = .failed := by
      simp [loadSession, Json.fields, hnone]
    rw [hload]
    cases before with
    | absent => simp [Spelled]
    | failed => simp [Spelled, hexpires]
    | session s => simp [Spelled, hexpires]
  · have hsome : SessionFile.ofFields (texts ws) = some ⟨lastNamed "access_token" ws,
        lastNamed "refresh_token" ws, lastNamed "api_base_url" ws, 0, lastNamed "email" ws⟩ := by
      rw [SessionFile.ofFields, stringField_texts, stringField_texts, stringField_texts,
        intField_texts hexpires, stringField_texts]
      rfl
    have hload : loadSession (.text (some (.obj (texts ws)))) = .session
        ⟨lastNamed "access_token" ws, lastNamed "refresh_token" ws, lastNamed "api_base_url" ws, 0,
          lastNamed "email" ws⟩ := by
      simp [loadSession, Json.fields, hsome]
    rw [hload]
    cases before with
    | absent => simp [Spelled]
    | failed => simp [Spelled, hexpires]
    | session s =>
      obtain ⟨accessToken, refreshToken, apiBaseURL, expiresAt, email⟩ := s
      simp only [Spelled, hexpires, not_false_eq_true, true_and, Loaded.session.injEq,
        SessionFile.mk.injEq]
      constructor
      · rintro ⟨rfl, rfl, rfl, rfl, rfl⟩
        exact ⟨rfl, rfl, rfl, rfl, rfl⟩
      · rintro ⟨rfl, rfl, rfl, rfl, rfl⟩
        exact ⟨rfl, rfl, rfl, rfl, rfl⟩

def KeepsSession (before after : File) : Prop := loadSession after = loadSession before

def KeepsSettings (before after : File) : Prop :=
  ∀ cfg, loadConfig before = some cfg → ∀ key value, cfg.lookup key = some value →
    ∃ cfg', loadConfig after = some cfg' ∧ cfg'.lookup key = some value

variable {marshal : Marshal} {file : File} {key value : Bytes}

lemma keepsSession_saveConfig (cfg : Table Bytes Bytes) :
    KeepsSession file (saveConfig marshal cfg) ↔
      Spelled (written marshal cfg) (loadSession file) :=
  loadSession_texts _ _

lemma keepsSession_set :
    KeepsSession file (runConfigSet marshal key value file) ↔
      ∀ cfg, loadConfig file = some cfg →
        Spelled (written marshal (cfg.insert key value)) (loadSession file) := by
  rw [runConfigSet]
  cases loadConfig file with
  | none => simp [KeepsSession]
  | some cfg => simp [keepsSession_saveConfig]

lemma keepsSession_unset :
    KeepsSession file (runConfigUnset marshal key file) ↔
      ∀ cfg, loadConfig file = some cfg → cfg.lookup key ≠ none →
        Spelled (written marshal (cfg.erase key)) (loadSession file) := by
  rw [runConfigUnset]
  cases loadConfig file with
  | none => simp [KeepsSession]
  | some cfg =>
    by_cases hkey : cfg.lookup key = none
    · simp [KeepsSession, hkey]
    · simp [hkey, keepsSession_saveConfig]

lemma loadConfig_saveSession (s : SessionFile) : loadConfig (saveSession marshal s) = some ∅ := rfl

lemma keepsSettings_save (s : SessionFile) :
    KeepsSettings file (saveSession marshal s) ↔
      ∀ cfg, loadConfig file = some cfg → cfg = ∅ := by
  constructor
  · intro hkeeps cfg hcfg
    apply Finmap.ext_lookup
    intro key
    rw [Finmap.lookup_empty]
    cases hlookup : cfg.lookup key with
    | none => rfl
    | some value =>
      obtain ⟨cfg', hcfg', hkept⟩ := hkeeps cfg hcfg key value hlookup
      rw [loadConfig_saveSession] at hcfg'
      rw [← Option.some.inj hcfg', Finmap.lookup_empty] at hkept
      cases hkept
  · intro hempty cfg hcfg key value hlookup
    rw [hempty cfg hcfg, Finmap.lookup_empty] at hlookup
    cases hlookup

/-- The commands leave the session alone when it is made of the texts of the settings that they
write, and a login the settings when there are none. -/
theorem config_file_shared_iff (marshal : Marshal) (file : File) (key value : Bytes)
    (s : SessionFile) :
    (KeepsSession file (runConfigSet marshal key value file) ↔
      ∀ cfg, loadConfig file = some cfg →
        Spelled (written marshal (cfg.insert key value)) (loadSession file)) ∧
    (KeepsSession file (runConfigUnset marshal key file) ↔
      ∀ cfg, loadConfig file = some cfg → cfg.lookup key ≠ none →
        Spelled (written marshal (cfg.erase key)) (loadSession file)) ∧
    (KeepsSettings file (saveSession marshal s) ↔
      ∀ cfg, loadConfig file = some cfg → cfg = ∅) :=
  ⟨keepsSession_set, keepsSession_unset, keepsSettings_save s⟩

def plain : Marshal where
  order := .byCode
  utf8 := id

def ann : SessionFile where
  accessToken := ascii "at"
  refreshToken := ascii "rt"
  apiBaseURL := ascii "https://api.omnitun.io"
  expiresAt := 1700000000
  email := ascii "ann@example.com"

theorem config_file_shared_fails :
    ¬ ∀ (marshal : Marshal) (file : File) (key value : Bytes) (s : SessionFile),
      KeepsSession file (runConfigSet marshal key value file) ∧
        KeepsSession file (runConfigUnset marshal key file) ∧
        KeepsSettings file (saveSession marshal s) := by
  intro h
  obtain ⟨hset, -, -⟩ := h plain (saveSession plain ann) (ascii "theme") (ascii "dark") ann
  have hloaded : loadSession (saveSession plain ann) = .session ann := by decide
  have hspelled := keepsSession_set.mp hset ∅ (loadConfig_saveSession ann)
  rw [hloaded] at hspelled
  obtain ⟨-, hexpiresAt, -⟩ := hspelled
  cases hexpiresAt

end OmniTun.Client
