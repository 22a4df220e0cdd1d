import Mathlib.Algebra.GroupWithZero.Nat
import Mathlib.Data.List.Infix
import OmniTun.Foundation.Transport

/-! Texts with string literals between single quotes, in which a doubled quote is a quote and a
backslash and a byte stand for one byte: how a reader takes them apart. -/

namespace OmniTun.Foundation.StringLiterals

/-! A text of the source is evaluated literal by literal, and a literal as the list of its
characters, not as the bytes that encode them. -/

lemma ascii_append (s t : String) : ascii (s ++ t) = ascii s ++ ascii t := by
  simp [ascii]

lemma ascii_ofList (l : List Char) :
    ascii (String.ofList l) = l.map fun c => UInt8.ofNat c.toNat := by
  rw [ascii, String.toList_ofList]

structure Escapes where
  byte : UInt8 → UInt8
  backslash : byte 92 = 92

inductive Token
  | word (w : Bytes)
  | symbol (b : UInt8)
  | literal (content : Bytes)
  deriving DecidableEq

/-- Where the reader stands. After a quote in a literal the next byte says whether it ended. -/
inductive Mode
  | outside
  | word (w : Bytes)
  | literal (content : Bytes)
  | escaped (content : Bytes)
  | quoted (content : Bytes)
  deriving DecidableEq

def isWordByte (b : UInt8) : Bool :=
  (48 ≤ b && b ≤ 57) || (65 ≤ b && b ≤ 90) || (97 ≤ b && b ≤ 122) || b == 95 || b == 45

def startToken (b : UInt8) : List Token × Mode :=
  if b = 39 then ([], .literal [])
  else if isWordByte b then ([], .word [b])
  else ([.symbol b], .outside)

def emit (t : Token) (r : List Token × Mode) : List Token × Mode := (t :: r.1, r.2)

section

variable (esc : Escapes)

def step : Mode → UInt8 → List Token × Mode
  | .outside, b => startToken b
  | .word w, b => if isWordByte b then ([], .word (w ++ [b])) else emit (.word w) (startToken b)
  | .literal c, b =>
    if b = 39 then ([], .quoted c) else if b = 92 then ([], .escaped c) else ([], .literal (c ++ [b]))
  | .escaped c, b => ([], .literal (c ++ [esc.byte b]))
  | .quoted c, b => if b = 39 then ([], .literal (c ++ [39])) else emit (.literal c) (startToken b)

def scan : Mode → Bytes → List Token × Mode
  | m, [] => ([], m)
  | m, b :: bs =>
    let r := step esc m b
    let rest := scan r.2 bs
    (r.1 ++ rest.1, rest.2)

def finish : Mode → Option (List Token)
  | .outside => some []
  | .word w => some [.word w]
  | .quoted c => some [.literal c]
  | .literal _ => none
  | .escaped _ => none

/-- The tokens of a text, and none when a literal does not end. -/
def tokens (text : Bytes) : Option (List Token) :=
  let r := scan esc .outside text
  (finish r.2).map fun last => r.1 ++ last

end

def escape (s : Bytes) : Bytes := s.flatMap fun b => if b = 39 ∨ b = 92 then [b, b] else [b]

/-- A text that ends no literal and escapes nothing in it. -/
def Plain (s : Bytes) : Prop := ∀ b ∈ s, b ≠ 39 ∧ b ≠ 92

instance (s : Bytes) : Decidable (Plain s) := inferInstanceAs (Decidable (∀ b ∈ s, b ≠ 39 ∧ b ≠ 92))

variable {esc : Escapes} {m : Mode} {s t c : Bytes} {b : UInt8}

lemma scan_append (m : Mode) (s t : Bytes) : scan esc m (s ++ t) =
    ((scan esc m s).1 ++ (scan esc (scan esc m s).2 t).1, (scan esc (scan esc m s).2 t).2) := by
  induction s generalizing m with
  | nil => rfl
  | cons b s ih => simp only [List.cons_append, scan, ih, List.append_assoc]

lemma scan_concat {m' m'' : Mode} {ts us : List Token} (hs : scan esc m s = (ts, m'))
    (ht : scan esc m' t = (us, m'')) : scan esc m (s ++ t) = (ts ++ us, m'') := by
  rw [scan_append, hs, ht]

lemma scan_literal_escape (c s : Bytes) :
    scan esc (.literal c) (escape s) = ([], .literal (c ++ s)) := by
  induction s generalizing c with
  | nil => simp [escape, scan]
  | cons b s ih =>
    have hcons : escape (b :: s) = (if b = 39 ∨ b = 92 then [b, b] else [b]) ++ escape s := rfl
    have hbyte : scan esc (.literal c) (if b = 39 ∨ b = 92 then [b, b] else [b]) =
        ([], .literal (c ++ [b])) := by
      by_cases h39 : b = 39
      · subst h39
        rfl
      · by_cases h92 : b = 92
        · subst h92
          simp [scan, step, esc.backslash]
        · simp [scan, step, h39, h92]
    rw [hcons, scan_append, hbyte, ih, List.append_assoc]
    rfl

lemma scan_literal_plain (c : Bytes) (h : Plain s) :
    scan esc (.literal c) s = ([], .literal (c ++ s)) := by
  induction s generalizing c with
  | nil => simp [scan]
  | cons b s ih =>
    obtain ⟨hb, hs⟩ := List.forall_mem_cons.mp h
    have hbyte : step esc (.literal c) b = ([], .literal (c ++ [b])) := by
      simp [step, hb.1, hb.2]
    simp only [scan, hbyte, ih _ hs, List.append_assoc, List.nil_append, List.singleton_append]

lemma scan_word (w : Bytes) (h : ∀ b ∈ s, isWordByte b = true) :
    scan esc (.word w) s = ([], .word (w ++ s)) := by
  induction s generalizing w with
  | nil => simp [scan]
  | cons b s ih =>
    obtain ⟨hb, hs⟩ := List.forall_mem_cons.mp h
    simp only [scan, step, hb, if_true, ih _ hs, List.append_assoc, List.nil_append,
      List.singleton_append]

lemma scan_outside_word (hne : s ≠ []) (h : ∀ b ∈ s, isWordByte b = true) :
    scan esc .outside s = ([], .word s) := by
  obtain ⟨b, s, rfl⟩ := List.exists_cons_of_ne_nil hne
  obtain ⟨hb, hs⟩ := List.forall_mem_cons.mp h
  have hquote : b ≠ 39 := by
    rintro rfl
    cases hb
  simp only [scan, step, startToken, if_neg hquote, hb, if_true, scan_word _ hs, List.nil_append,
    List.singleton_append]

section Outside

def noEscapes : Escapes := ⟨id, rfl⟩

def outer (s : Bytes) : List Token := (scan noEscapes .outside s).1

def Mode.Calm : Mode → Prop
  | .outside | .word _ => True
  | .literal _ | .escaped _ | .quoted _ => False

lemma startToken_calm (h : b ≠ 39) : (startToken b).2.Calm := by
  unfold startToken
  split_ifs <;> trivial

lemma step_calm (esc : Escapes) (hm : m.Calm) (h : b ≠ 39) :
    step esc m b = step noEscapes m b ∧ (step esc m b).2.Calm := by
  cases m with
  | outside => exact ⟨rfl, startToken_calm h⟩
  | word w =>
    refine ⟨rfl, ?_⟩
    simp only [step]
    split_ifs
    · trivial
    · exact startToken_calm h
  | literal c => exact hm.elim
  | escaped c => exact hm.elim
  | quoted c => exact hm.elim

lemma scan_calm (esc : Escapes) (hm : m.Calm) (h : 39 ∉ s) :
    scan esc m s = scan noEscapes m s ∧ (scan esc m s).2.Calm := by
  induction s generalizing m with
  | nil => exact ⟨rfl, hm⟩
  | cons b s ih =>
    rw [List.mem_cons, not_or] at h
    obtain ⟨hstep, hcalm⟩ := step_calm esc hm (Ne.symm h.1)
    obtain ⟨hread, hlast⟩ := ih hcalm h.2
    refine ⟨?_, hlast⟩
    rw [scan, hread, hstep]
    rfl

lemma scan_separator (hm : m.Calm) (hb : isWordByte b = false) (h : b ≠ 39) :
    (scan esc m [b]).2 = .outside := by
  cases m with
  | outside => simp [scan, step, startToken, hb, h]
  | word w => simp [scan, step, startToken, emit, hb, h]
  | literal c => exact hm.elim
  | escaped c => exact hm.elim
  | quoted c => exact hm.elim

lemma scan_outer (hs : 39 ∉ s) (hb : isWordByte b = false) (h : b ≠ 39) :
    scan esc .outside (s ++ [b]) = (outer (s ++ [b]), .outside) := by
  have hout : 39 ∉ s ++ [b] := by
    rw [List.mem_append, List.mem_singleton, not_or]
    exact ⟨hs, Ne.symm h⟩
  have hcalm : Mode.outside.Calm := trivial
  apply Prod.ext
  · rw [(scan_calm esc hcalm hout).1]
    rfl
  · rw [scan_append]
    exact scan_separator (scan_calm esc hcalm hs).2 hb h

lemma scan_quoted (c : Bytes) (h : b ≠ 39) : scan esc (.quoted c) (b :: s) =
    emit (.literal c) (scan esc .outside (b :: s)) := by
  simp only [scan, step, if_neg h, emit, List.cons_append]

end Outside

section Sizes

def Token.size : Token → ℕ
  | .word w => w.length
  | .symbol _ => 1
  | .literal c => c.length + 2

def Mode.size : Mode → ℕ
  | .outside => 0
  | .word w => w.length
  | .literal c => c.length + 1
  | .escaped c => c.length + 2
  | .quoted c => c.length + 2

def size (ts : List Token) : ℕ := (ts.map Token.size).sum

def Mode.Clean : Mode → Prop
  | .outside | .word _ => True
  | .literal c | .escaped c | .quoted c => Plain c

def Token.Clean : Token → Prop
  | .word _ | .symbol _ => True
  | .literal c => Plain c

lemma size_append (ts us : List Token) : size (ts ++ us) = size ts + size us := by
  simp [size]

lemma startToken_size (b : UInt8) : size (startToken b).1 + (startToken b).2.size = 1 := by
  unfold startToken
  split_ifs <;> rfl

lemma startToken_clean (b : UInt8) :
    (∀ t ∈ (startToken b).1, t.Clean) ∧ (startToken b).2.Clean := by
  unfold startToken
  split_ifs
  · exact ⟨by simp, by simp [Mode.Clean, Plain]⟩
  · exact ⟨by simp, trivial⟩
  · exact ⟨by simp [Token.Clean], trivial⟩

lemma emit_size (t : Token) (b : UInt8) :
    size (emit t (startToken b)).1 + (emit t (startToken b)).2.size = t.size + 1 := by
  have h := startToken_size b
  simp only [emit, size, List.map_cons, List.sum_cons] at h ⊢
  omega

lemma emit_clean {t : Token} (ht : t.Clean) (b : UInt8) :
    (∀ u ∈ (emit t (startToken b)).1, u.Clean) ∧ (emit t (startToken b)).2.Clean := by
  obtain ⟨htokens, hmode⟩ := startToken_clean b
  exact ⟨List.forall_mem_cons.mpr ⟨ht, htokens⟩, hmode⟩

lemma step_size (esc : Escapes) (m : Mode) (b : UInt8) :
    size (step esc m b).1 + (step esc m b).2.size ≤ m.size + 1 ∧
      (size (step esc m b).1 + (step esc m b).2.size = m.size + 1 → m.Clean →
        (∀ t ∈ (step esc m b).1, t.Clean) ∧ (step esc m b).2.Clean) := by
  cases m with
  | outside => exact ⟨(startToken_size b).le, fun _ _ => startToken_clean b⟩
  | word w =>
    simp only [step]
    split_ifs
    · exact ⟨by simp [size, Mode.size], fun _ _ => ⟨by simp, trivial⟩⟩
    · have hclean : (Token.word w).Clean := trivial
      exact ⟨(emit_size (.word w) b).le, fun _ _ => emit_clean hclean b⟩
  | literal c =>
    simp only [step]
    split_ifs with h39 h92
    · exact ⟨by simp [size, Mode.size], fun _ hc => ⟨by simp, hc⟩⟩
    · exact ⟨by simp [size, Mode.size], fun _ hc => ⟨by simp, hc⟩⟩
    · refine ⟨by simp [size, Mode.size], fun _ hc => ⟨by simp, ?_⟩⟩
      intro b' hb'
      rcases List.mem_append.mp hb' with hb' | hb'
      · exact hc b' hb'
      · obtain rfl := List.mem_singleton.mp hb'
        exact ⟨h39, h92⟩
  | escaped c =>
    -- two bytes for one
    refine ⟨by simp [step, size, Mode.size], fun h => ?_⟩
    simp [step, size, Mode.size] at h
  | quoted c =>
    simp only [step]
    split_ifs
    · refine ⟨by simp [size, Mode.size], fun h => ?_⟩
      simp [size, Mode.size] at h
    · refine ⟨(emit_size (.literal c) b).le, fun _ hc => ?_⟩
      have hclean : (Token.literal c).Clean := hc
      exact emit_clean hclean b

lemma scan_size (esc : Escapes) (m : Mode) (s : Bytes) :
    size (scan esc m s).1 + (scan esc m s).2.size ≤ m.size + s.length ∧
      (size (scan esc m s).1 + (scan esc m s).2.size = m.size + s.length → m.Clean →
        (∀ t ∈ (scan esc m s).1, t.Clean) ∧ (scan esc m s).2.Clean) := by
  induction s generalizing m with
  | nil => exact ⟨by simp [scan, size], fun _ hm => ⟨by simp [scan], hm⟩⟩
  | cons b s ih =>
    obtain ⟨hstep, hstepClean⟩ := step_size esc m b
    obtain ⟨hread, hreadClean⟩ := ih (step esc m b).2
    simp only [scan, size_append, List.length_cons]
    refine ⟨by omega, fun h hm => ?_⟩
    obtain ⟨htokens, hmode⟩ := hstepClean (by omega) hm
    obtain ⟨hrest, hlast⟩ := hreadClean (by omega) hmode
    refine ⟨fun t ht => ?_, hlast⟩
    rcases List.mem_append.mp ht with ht | ht
    · exact htokens t ht
    · exact hrest t ht

lemma clean_of_size {text : Bytes} {ts : List Token} (h : tokens esc text = some ts)
    (hsize : size ts = text.length) : ∀ t ∈ ts, t.Clean := by
  obtain ⟨last, hlast, rfl⟩ := Option.map_eq_some_iff.mp h
  obtain ⟨-, hclean⟩ := scan_size esc .outside text
  have hfinish : size last = (scan esc .outside text).2.size ∧
      ((scan esc .outside text).2.Clean → ∀ t ∈ last, t.Clean) := by
    generalize (scan esc .outside text).2 = m at hlast
    cases m with
    | outside =>
      obtain rfl := Option.some.inj hlast
      exact ⟨rfl, by simp⟩
    | word w =>
      obtain rfl := Option.some.inj hlast
      exact ⟨by simp [size, Token.size, Mode.size], by simp [Token.Clean]⟩
    | quoted c =>
      obtain rfl := Option.some.inj hlast
      exact ⟨by simp [size, Token.size, Mode.size], by simp [Token.Clean, Mode.Clean]⟩
    | literal c => cases hlast
    | escaped c => cases hlast
  rw [size_append, hfinish.1] at hsize
  obtain ⟨htokens, hmode⟩ := hclean (by rw [hsize]; simp [Mode.size]) trivial
  intro t ht
  rcases List.mem_append.mp ht with ht | ht
  · exact htokens t ht
  · exact hfinish.2 hmode t ht

lemma scan_calm_size (esc : Escapes) (hm : m.Calm) (h : 39 ∉ s) :
    size (scan esc m s).1 + (scan esc m s).2.size = m.size + s.length := by
  induction s generalizing m with
  | nil => simp [scan, size]
  | cons b s ih =>
    rw [List.mem_cons, not_or] at h
    have hstep : size (step esc m b).1 + (step esc m b).2.size = m.size + 1 := by
      cases m with
      | outside => exact startToken_size b
      | word w =>
        simp only [step]
        split_ifs
        · simp [size, Mode.size]
        · exact emit_size (.word w) b
      | literal c => exact hm.elim
      | escaped c => exact hm.elim
      | quoted c => exact hm.elim
    have hrest := ih (step_calm esc hm (Ne.symm h.1)).2 h.2
    simp only [scan, size_append, List.length_cons]
    omega

lemma size_outer (hs : 39 ∉ s) (hb : isWordByte b = false) (h : b ≠ 39) :
    size (outer (s ++ [b])) = s.length + 1 := by
  have hout : 39 ∉ s ++ [b] := by
    rw [List.mem_append, List.mem_singleton, not_or]
    exact ⟨hs, Ne.symm h⟩
  have hcalm : Mode.outside.Calm := trivial
  have hsize := scan_calm_size noEscapes hcalm hout
  rw [scan_outer hs hb h] at hsize
  simpa [Mode.size] using hsize

end Sizes

section Infixes

variable {F : Bytes}

lemma infix_sep_iff {q : UInt8} (hq : q ∉ F) (s t : Bytes) :
    F <:+: s ++ q :: t ↔ F <:+: s ∨ F <:+: t := by
  constructor
  · rintro ⟨u, v, huv⟩
    rcases List.append_eq_append_iff.mp huv with ⟨w, hs, -⟩ | ⟨w, huF, hv⟩
    · exact .inl ⟨u, w, by rw [hs]⟩
    · cases w with
      | nil => exact .inl ⟨u, [], by simpa using huF⟩
      | cons x w =>
        obtain ⟨rfl, ht⟩ := List.cons.inj hv
        rcases List.append_eq_append_iff.mp huF with ⟨w', hs, hF⟩ | ⟨w', hu, hF⟩
        · exact absurd (by simp [hF]) hq
        · cases w' with
          | nil =>
            rw [List.nil_append] at hF
            exact absurd (by simp [← hF]) hq
          | cons y w' =>
            obtain ⟨-, hw⟩ := List.cons.inj hF
            exact .inr ⟨w', v, by simp [ht, hw]⟩
  · rintro (⟨u, v, rfl⟩ | ⟨u, v, rfl⟩)
    · exact ⟨u, v ++ q :: t, by simp⟩
    · exact ⟨s ++ q :: u, v, by simp⟩

lemma infix_escape_iff {f : UInt8 → UInt8} (h39 : f 39 ∉ F) (h92 : f 92 ∉ F) (hF : F ≠ [])
    (s t : Bytes) : F <:+: t ++ (escape s).map f ↔ F <:+: t ++ s.map f := by
  have hnil : ¬ F <:+: [] := by simpa using hF
  induction s generalizing t with
  | nil => rfl
  | cons b s ih =>
    have hcons : escape (b :: s) = (if b = 39 ∨ b = 92 then [b, b] else [b]) ++ escape s := rfl
    rw [hcons, List.map_append, List.map_cons]
    by_cases hb : b = 39 ∨ b = 92
    · have hsep : f b ∉ F := by
        rcases hb with rfl | rfl
        · exact h39
        · exact h92
      have hdouble : t ++ ([b, b].map f ++ (escape s).map f) =
          t ++ f b :: ([] ++ f b :: ([] ++ (escape s).map f)) := by simp
      rw [if_pos hb, hdouble, infix_sep_iff hsep, infix_sep_iff hsep, infix_sep_iff hsep]
      have hrest : F <:+: [] ++ (escape s).map f ↔ F <:+: [] ++ s.map f := ih []
      simp only [List.nil_append, hnil, false_or] at hrest ⊢
      simp only [hrest]
    · have hsingle : t ++ ([b].map f ++ (escape s).map f) =
          (t ++ [f b]) ++ (escape s).map f := by simp
      have hrest := ih (t ++ [f b])
      rw [if_neg hb, hsingle]
      simpa using hrest

end Infixes

end OmniTun.Foundation.StringLiterals
