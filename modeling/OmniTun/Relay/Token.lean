import OmniTun.Foundation.Numerals

/-! Short-term tunnel tokens: `id:expiry.signature`. -/

namespace OmniTun.Relay

open OmniTun.Foundation OmniTun.Foundation.Numerals

structure TokenValidator where
  secret : Bytes
  ttl : ℤ

inductive TokenError
  | emptyToken
  | invalidTokenFormat
  | invalidTokenSignature
  | invalidPayloadFormat
  | tokenExpired
  deriving DecidableEq, Repr

def TokenError.error : TokenError → Bytes
  | .emptyToken => ascii "empty token"
  | .invalidTokenFormat => ascii "invalid token format"
  | .invalidTokenSignature => ascii "invalid token signature"
  | .invalidPayloadFormat => ascii "invalid payload format"
  | .tokenExpired => ascii "token expired"

/-- Durations and instants are in nanoseconds, instants since the Unix epoch. -/
def newTokenValidator (secret : Bytes) (ttl : ℤ) : TokenValidator :=
  ⟨secret, if ttl = 0 then 5 * 60 * 10 ^ 9 else ttl⟩

def unix (t : ℤ) : ℤ := (t / 10 ^ 9).bmod (2 ^ 64)

def splitLast (s : Bytes) (sep : UInt8) : List Bytes :=
  match s.reverse.dropWhile (· != sep) with
  | [] => [s]
  | _ :: front => [front.reverse, (s.reverse.takeWhile (· != sep)).reverse]

def splitN (s : Bytes) (sep : UInt8) : ℕ → List Bytes
  | 0 | 1 => [s]
  | n + 2 =>
    match s.dropWhile (· != sep) with
    | [] => [s]
    | _ :: rest => s.takeWhile (· != sep) :: splitN rest sep (n + 1)

def colon : UInt8 := 58
def dot : UInt8 := 46

section

variable (mac : Bytes → Bytes → Bytes) (v : TokenValidator)

def tokenPayload (tunnelID : Bytes) (expires : ℤ) : Bytes :=
  tunnelID ++ [colon] ++ intNumeral (unix expires)

/-- `mac` is HMAC-SHA256. -/
def TokenValidator.generate (now : ℤ) (tunnelID : Bytes) : Bytes × ℤ :=
  let expires := now + v.ttl
  let payload := tokenPayload tunnelID expires
  (payload ++ [dot] ++ hexEncode (mac v.secret payload), expires)

def TokenValidator.validate (now : ℤ) (token : Bytes) : Except TokenError Bytes :=
  if token = [] then .error .emptyToken
  else
    match splitLast token dot with
    | [payload, sig] =>
      if sig ≠ hexEncode (mac v.secret payload) then .error .invalidTokenSignature
      else
        match splitN payload colon 2 with
        | [tunnelID, exp] =>
          -- a number that does not scan leaves the expiry at zero
          if (scanInt64 exp).getD 0 < unix now then .error .tokenExpired else .ok tunnelID
        | _ => .error .invalidPayloadFormat
    | _ => .error .invalidTokenFormat

end

lemma unix_range (t : ℤ) : -2 ^ 63 ≤ unix t ∧ unix t < 2 ^ 63 := by
  have hl := Int.le_bmod (x := t / 10 ^ 9) (m := 2 ^ 64) (by norm_num)
  have hu := Int.bmod_lt (x := t / 10 ^ 9) (m := 2 ^ 64) (by norm_num)
  simp only [unix]
  omega

lemma unix_seconds {n : ℤ} (hl : -2 ^ 63 ≤ n) (hu : n < 2 ^ 63) : unix (n * 10 ^ 9) = n := by
  rw [unix, Int.mul_ediv_cancel _ (by norm_num)]
  exact Int.bmod_eq_of_le (by omega) (by omega)

lemma scanInt64_unix (t : ℤ) : scanInt64 (intNumeral (unix t)) = some (unix t) :=
  scanInt64_intNumeral (unix_range t).1 (unix_range t).2

lemma takeWhile_sep {a b : Bytes} {sep : UInt8} (h : sep ∉ a) :
    (a ++ sep :: b).takeWhile (· != sep) = a := by
  rw [List.takeWhile_append_of_pos]
  · simp
  · intro c hc
    simpa using ne_of_mem_of_not_mem hc h

lemma dropWhile_sep {a b : Bytes} {sep : UInt8} (h : sep ∉ a) :
    (a ++ sep :: b).dropWhile (· != sep) = sep :: b := by
  rw [List.dropWhile_append_of_pos]
  · simp
  · intro c hc
    simpa using ne_of_mem_of_not_mem hc h

lemma splitLast_append {a b : Bytes} {sep : UInt8} (h : sep ∉ b) :
    splitLast (a ++ [sep] ++ b) sep = [a, b] := by
  have hr : (a ++ [sep] ++ b).reverse = b.reverse ++ sep :: a.reverse := by simp
  have hb : sep ∉ b.reverse := by simpa using h
  simp only [splitLast, hr, dropWhile_sep hb, takeWhile_sep hb, List.reverse_reverse]

lemma eq_append_of_splitLast {s a b : Bytes} {sep : UInt8} (h : splitLast s sep = [a, b]) :
    s = a ++ [sep] ++ b := by
  have hs := s.reverse.takeWhile_append_dropWhile (p := (· != sep))
  cases hd : s.reverse.dropWhile (· != sep) with
  | nil => simp [splitLast, hd] at h
  | cons c front =>
    have hc : c = sep := by
      have hne := List.head_dropWhile_not (· != sep) (l := s.reverse) (by simp [hd])
      simpa [hd] using hne
    simp only [splitLast, hd, List.cons.injEq, and_true] at h
    obtain ⟨rfl, rfl⟩ := h
    rw [hd, hc] at hs
    simpa using (congrArg List.reverse hs).symm

lemma splitLast_of_mem {s : Bytes} {sep : UInt8} (h : sep ∈ s) :
    ∃ a b, splitLast s sep = [a, b] := by
  cases hd : s.reverse.dropWhile (· != sep) with
  | nil =>
    have hne := List.dropWhile_eq_nil_iff.mp hd sep (by simpa using h)
    simp at hne
  | cons c front =>
    exact ⟨front.reverse, (s.reverse.takeWhile (· != sep)).reverse, by simp only [splitLast, hd]⟩

lemma splitN_append {a b : Bytes} {sep : UInt8} (h : sep ∉ a) :
    splitN (a ++ [sep] ++ b) sep 2 = [a, b] := by
  simp only [splitN, List.append_assoc, List.singleton_append, dropWhile_sep h, takeWhile_sep h]

lemma dot_not_mem_hexEncode (bs : Bytes) : dot ∉ hexEncode bs := by
  intro h
  obtain ⟨d, hd, hdot⟩ := hexEncode_mem h
  revert hdot
  interval_cases d <;> decide

section Soundness

variable (mac : Bytes → Bytes → Bytes) (v : TokenValidator)

structure GenerateCall where
  tunnelID : Bytes
  now : ℤ

def GenerateCall.expires (c : GenerateCall) : ℤ := c.now + v.ttl

def GenerateCall.payload (c : GenerateCall) : Bytes := tokenPayload c.tunnelID (c.expires v)

def GenerateCall.token (c : GenerateCall) : Bytes := (v.generate mac c.now c.tunnelID).1

/-- The ideal of the signature: it verifies for signed payloads only. -/
def Unforged (calls : List GenerateCall) (token : Bytes) : Prop :=
  ∀ payload sig, splitLast token dot = [payload, sig] → sig = hexEncode (mac v.secret payload) →
    ∃ c ∈ calls, payload = c.payload v

structure TokenSound (calls : List GenerateCall) : Prop where
  issued : ∀ token now id, Unforged mac v calls token → v.validate mac now token = .ok id →
    ∃ c ∈ calls, c.tunnelID = id ∧ unix now ≤ unix (c.expires v)
  own : ∀ c ∈ calls, ∀ now id, v.validate mac now (c.token mac v) = .ok id →
    id = c.tunnelID ∧ unix now ≤ unix (c.expires v)

variable {mac v}

lemma splitLast_token (c : GenerateCall) :
    splitLast (c.token mac v) dot = [c.payload v, hexEncode (mac v.secret (c.payload v))] :=
  splitLast_append (dot_not_mem_hexEncode _)

lemma validate_payload {token payload sig : Bytes} {now : ℤ}
    (h : splitLast token dot = [payload, sig]) (hs : sig = hexEncode (mac v.secret payload)) :
    v.validate mac now token =
      match splitN payload colon 2 with
      | [tunnelID, exp] =>
        if (scanInt64 exp).getD 0 < unix now then .error .tokenExpired else .ok tunnelID
      | _ => .error .invalidPayloadFormat := by
  have hne : token ≠ [] := by
    rintro rfl
    simp [splitLast] at h
  simp only [TokenValidator.validate, if_neg hne, h, hs, ne_eq, not_true_eq_false, if_false]

lemma validate_ok {token id : Bytes} {now : ℤ} (h : v.validate mac now token = .ok id) :
    ∃ payload sig, splitLast token dot = [payload, sig] ∧
      sig = hexEncode (mac v.secret payload) := by
  simp only [TokenValidator.validate] at h
  split_ifs at h
  split at h
  · rename_i payload sig hsplit
    refine ⟨payload, sig, hsplit, ?_⟩
    by_contra hs
    simp [hs] at h
  · simp at h

lemma validate_plain {c : GenerateCall} {token : Bytes} (now : ℤ) (hc : colon ∉ c.tunnelID)
    (h : splitLast token dot = [c.payload v, hexEncode (mac v.secret (c.payload v))]) :
    v.validate mac now token =
      if unix (c.expires v) < unix now then .error .tokenExpired else .ok c.tunnelID := by
  rw [validate_payload h rfl, GenerateCall.payload, tokenPayload, splitN_append hc]
  simp only [scanInt64_unix, Option.getD_some]

lemma validate_plain_ok {c : GenerateCall} {token id : Bytes} {now : ℤ} (hc : colon ∉ c.tunnelID)
    (h : splitLast token dot = [c.payload v, hexEncode (mac v.secret (c.payload v))])
    (hv : v.validate mac now token = .ok id) :
    id = c.tunnelID ∧ unix now ≤ unix (c.expires v) := by
  rw [validate_plain now hc h] at hv
  split_ifs at hv with he
  exact ⟨(Except.ok.inj hv).symm, not_lt.mp he⟩

variable (mac v) in
lemma validate_colon {c : GenerateCall} (hc : colon ∈ c.tunnelID) :
    ∃ now id, v.validate mac now (c.token mac v) = .ok id ∧ id ≠ c.tunnelID := by
  obtain ⟨a, b, hab, ha⟩ := List.eq_append_cons_of_mem hc
  -- what stands before the first colon is read as the identifier, and the rest is scanned
  let rest := b ++ [colon] ++ intNumeral (unix (c.expires v))
  have hp : c.payload v = a ++ [colon] ++ rest := by
    simp [GenerateCall.payload, tokenPayload, hab, rest]
  have hr : -2 ^ 63 ≤ (scanInt64 rest).getD 0 ∧ (scanInt64 rest).getD 0 < 2 ^ 63 := by
    cases hs : scanInt64 rest with
    | none => norm_num
    | some n => exact scanInt64_range hs
  refine ⟨(scanInt64 rest).getD 0 * 10 ^ 9, a, ?_, ?_⟩
  · rw [validate_payload (splitLast_token c) rfl, hp, splitN_append ha]
    simp only [unix_seconds hr.1 hr.2, lt_irrefl, if_false]
  · rw [hab]
    simp

/-- Tokens are sound exactly while no identifier that was signed contains the separator. -/
theorem token_sound_iff (calls : List GenerateCall) :
    TokenSound mac v calls ↔ ∀ c ∈ calls, colon ∉ c.tunnelID := by
  constructor
  · intro h c hc hcolon
    obtain ⟨now, id, hv, hne⟩ := validate_colon mac v hcolon
    exact hne (h.own c hc now id hv).1
  · intro h
    refine ⟨fun token now id hu hv => ?_, fun c hc now id hv => ?_⟩
    · obtain ⟨payload, sig, hsplit, hsig⟩ := validate_ok hv
      obtain ⟨c, hc, rfl⟩ := hu payload sig hsplit hsig
      obtain ⟨hid, ht⟩ := validate_plain_ok (h c hc) (hsig ▸ hsplit) hv
      exact ⟨c, hc, hid.symm, ht⟩
    · exact validate_plain_ok (h c hc) (splitLast_token c) hv

theorem token_sound_fails :
    ¬ TokenSound (fun _ m => m) (newTokenValidator (ascii "s") 0) [⟨ascii "a:9999999999", 0⟩] := by
  intro h
  have hv : (newTokenValidator (ascii "s") 0).validate (fun _ m => m) (9999999999 * 10 ^ 9)
      (GenerateCall.token (fun _ m => m) (newTokenValidator (ascii "s") 0)
        ⟨ascii "a:9999999999", 0⟩) = .ok (ascii "a") := by
    decide
  exact absurd (h.own _ List.mem_cons_self _ _ hv).1 (by decide)

end Soundness

end OmniTun.Relay
