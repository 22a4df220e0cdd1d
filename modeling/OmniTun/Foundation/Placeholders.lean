import OmniTun.Foundation.Numerals

/-! Statements with numbered placeholders outside their string literals: how a reader puts the
arguments in, and that a statement written with the numbers in order is read back. -/

namespace OmniTun.Foundation.Placeholders

open Numerals

inductive Token
  | byte (b : UInt8)
  | param (n : ℕ)
  deriving DecidableEq

inductive Mode
  | outside
  | literal
  | dollar
  | number (n : ℕ)
  | bad
  deriving DecidableEq

def startToken (b : UInt8) : List Token × Mode :=
  if b = 36 then ([], .dollar)
  else if b = 39 then ([.byte b], .literal)
  else ([.byte b], .outside)

def step : Mode → UInt8 → List Token × Mode
  | .outside, b => startToken b
  | .literal, b => ([.byte b], if b = 39 then .outside else .literal)
  | .dollar, b => if isDigit b then ([], .number (b.toNat - 48)) else ([], .bad)
  | .number n, b =>
    if isDigit b then ([], .number (n * 10 + (b.toNat - 48)))
    else (.param n :: (startToken b).1, (startToken b).2)
  | .bad, _ => ([], .bad)

def finish : Mode → Option (List Token)
  | .outside => some []
  | .number n => some [.param n]
  | _ => none

def read : Mode → Bytes → Option (List Token)
  | m, [] => finish m
  | m, b :: bs => (read (step m b).2 bs).map ((step m b).1 ++ ·)

section

variable {V : Type*}

inductive Piece (V : Type*)
  | byte (b : UInt8)
  | value (v : V)
  deriving DecidableEq

def place (args : List V) : Token → Option (Piece V)
  | .byte b => some (.byte b)
  | .param 0 => none
  | .param (n + 1) => args[n]?.map .value

/-- What is run: every placeholder has an argument, and every argument a placeholder. -/
def statement (args : List V) (text : Bytes) : Option (List (Piece V)) :=
  (read .outside text).bind fun ts =>
    if ∀ k < args.length, .param (k + 1) ∈ ts then ts.mapM (place args) else none

/-- A statement with its values in place. -/
inductive Fragment (V : Type*)
  | text (t : Bytes)
  | value (v : V)

def values (fs : List (Fragment V)) : List V :=
  fs.filterMap fun
    | .text _ => none
    | .value v => some v

def Fragment.pieces : Fragment V → List (Piece V)
  | .text t => t.map .byte
  | .value v => [.value v]

def pieces (fs : List (Fragment V)) : List (Piece V) := fs.flatMap Fragment.pieces

def placeholder (n : ℕ) : Bytes := 36 :: natNumeral n

def render : ℕ → List (Fragment V) → Bytes
  | _, [] => []
  | n, .text t :: fs => t ++ render n fs
  | n, .value _ :: fs => placeholder n ++ render (n + 1) fs

def tokens : ℕ → List (Fragment V) → List Token
  | _, [] => []
  | n, .text t :: fs => t.map .byte ++ tokens n fs
  | n, .value _ :: fs => .param n :: tokens (n + 1) fs

def Sound : Bytes → Prop
  | [] => False
  | b :: bs => isDigit b = false ∧ 36 ∉ b :: bs ∧ (b :: bs).count 39 % 2 = 0

instance : DecidablePred Sound
  | [] => isFalse id
  | _ :: _ => inferInstanceAs (Decidable (_ ∧ _ ∧ _))

def AllSound (fs : List (Fragment V)) : Prop := ∀ t, .text t ∈ fs → Sound t

end

/-! Reading. -/

variable {V : Type*} {m : Mode} {s t : Bytes} {n : ℕ}

inductive Calm : Mode → List Token → Prop
  | outside : Calm .outside []
  | number (n : ℕ) : Calm (.number n) [.param n]

lemma finish_calm {ts : List Token} (h : Calm m ts) : finish m = some ts := by
  cases h <;> rfl

lemma read_plain (h : 36 ∉ s) (rest : Bytes) :
    read .outside (s ++ rest) =
        (read (if s.count 39 % 2 = 0 then .outside else .literal) rest).map
          (s.map Token.byte ++ ·) ∧
      read .literal (s ++ rest) =
        (read (if s.count 39 % 2 = 0 then .literal else .outside) rest).map
          (s.map Token.byte ++ ·) := by
  induction s with
  | nil => simp
  | cons b s ih =>
    obtain ⟨hb, hs⟩ := not_or.mp (mt List.mem_cons.mpr h)
    obtain ⟨hout, hlit⟩ := ih hs
    by_cases hq : b = 39
    · subst hq
      have hopen : step .outside 39 = ([.byte 39], .literal) := rfl
      have hclose : step .literal 39 = ([.byte 39], .outside) := rfl
      have hparity : (s.count 39 + 1) % 2 = 0 ↔ ¬ s.count 39 % 2 = 0 := by omega
      simp only [List.cons_append, read, hopen, hclose, hout, hlit, List.count_cons_self, hparity,
        ite_not, Option.map_map]
      constructor <;> rfl
    · have hstart : step .outside b = ([.byte b], .outside) := by
        simp only [step, startToken, if_neg (Ne.symm hb), if_neg hq]
      have hstay : step .literal b = ([.byte b], .literal) := by
        simp only [step, if_neg hq]
      simp only [List.cons_append, read, hstart, hstay, hout, hlit, List.count_cons_of_ne hq,
        Option.map_map]
      constructor <;> rfl

lemma read_text {ts : List Token} (hm : Calm m ts) (ht : Sound t) (rest : Bytes) :
    read m (t ++ rest) = (read .outside rest).map (ts ++ t.map Token.byte ++ ·) := by
  cases t with
  | nil => exact ht.elim
  | cons b t =>
    obtain ⟨hb, hdollar, hquotes⟩ := ht
    have hplain := (read_plain hdollar rest).1
    rw [if_pos hquotes] at hplain
    cases hm with
    | outside => simpa using hplain
    | number n =>
      have hstep : read (.number n) (b :: t ++ rest) =
          (read .outside (b :: t ++ rest)).map (.param n :: ·) := by
        simp only [List.cons_append, read, step, hb, Bool.false_eq_true, if_false, Option.map_map]
        rfl
      rw [hstep, hplain, Option.map_map]
      rfl

lemma read_digits {ds : Bytes} (h : ∀ b ∈ ds, isDigit b = true) (n : ℕ) (rest : Bytes) :
    read (.number n) (ds ++ rest) =
      read (.number (ds.foldl (fun n d => n * 10 + (d.toNat - 48)) n)) rest := by
  induction ds generalizing n with
  | nil => rfl
  | cons b ds ih =>
    obtain ⟨hb, hds⟩ := List.forall_mem_cons.mp h
    simp only [List.cons_append, read, step, hb, if_true, List.foldl_cons, ← ih hds]
    simp

lemma natNumeral_isDigit (n : ℕ) : ∀ b ∈ natNumeral n, isDigit b = true := by
  intro b hb
  obtain ⟨d, hd, rfl⟩ := natNumeral_digits n b hb
  exact isDigit_digit hd

lemma read_placeholder {ts : List Token} (hm : Calm m ts) (n : ℕ) (rest : Bytes) :
    read m (placeholder n ++ rest) = (read (.number n) rest).map (ts ++ ·) := by
  obtain ⟨d, hd, ds, hn⟩ := natNumeral_cons n
  have hdigits := natNumeral_isDigit n
  have hvalue := value_natNumeral n
  rw [hn] at hdigits hvalue
  obtain ⟨hb, hds⟩ := List.forall_mem_cons.mp hdigits
  have hnumber : read .dollar (natNumeral n ++ rest) = read (.number n) rest := by
    have hfold : ds.foldl (fun n d => n * 10 + (d.toNat - 48)) ((digit d).toNat - 48) = n := by
      simpa [value] using hvalue
    rw [hn, List.cons_append, read, step, if_pos hb]
    simp only [read_digits hds, hfold, List.nil_append]
    simp
  cases hm with
  | outside =>
    have hstep : step .outside 36 = ([], .dollar) := rfl
    simp only [placeholder, List.cons_append, read, hstep, hnumber]
  | number k =>
    have hstep : step (.number k) 36 = ([.param k], .dollar) := rfl
    simp only [placeholder, List.cons_append, read, hstep, hnumber]

lemma read_render {fs : List (Fragment V)} (hs : AllSound fs) {ts : List Token} (hm : Calm m ts)
    (n : ℕ) : read m (render n fs) = some (ts ++ tokens n fs) := by
  induction fs generalizing m n ts with
  | nil => simpa [render, tokens, read] using finish_calm hm
  | cons f fs ih =>
    have hrest : AllSound fs := fun t ht => hs t (List.mem_cons_of_mem _ ht)
    cases f with
    | text t =>
      rw [render, read_text hm (hs t List.mem_cons_self), ih hrest .outside]
      simp [tokens]
    | value v =>
      rw [render, read_placeholder hm, ih hrest (.number n)]
      simp [tokens]

/-! Putting the arguments in. -/

section Placing

variable {fs gs : List (Fragment V)} {args : List V}

lemma values_append (fs gs : List (Fragment V)) : values (fs ++ gs) = values fs ++ values gs :=
  List.filterMap_append ..

lemma mapM_bytes (args : List V) (t : Bytes) :
    (t.map Token.byte).mapM (place args) = some (t.map Piece.byte) := by
  induction t with
  | nil => rfl
  | cons b t ih => simp [place, ih]

lemma mapM_tokens (pre : List V) (fs : List (Fragment V)) :
    (tokens (pre.length + 1) fs).mapM (place (pre ++ values fs)) = some (pieces fs) := by
  induction fs generalizing pre with
  | nil => rfl
  | cons f fs ih =>
    cases f with
    | text t =>
      rw [tokens, List.mapM_append, mapM_bytes]
      have hrest : values (.text t :: fs) = values fs := rfl
      rw [hrest, ih pre]
      rfl
    | value v =>
      have hplace : place (pre ++ values (.value v :: fs)) (.param (pre.length + 1)) =
          some (.value v) := by
        simp [place, values]
      have hrest := ih (pre ++ [v])
      rw [List.length_append, List.length_singleton, List.append_assoc] at hrest
      have hvalues : values (.value v :: fs) = [v] ++ values fs := rfl
      rw [tokens, List.mapM_cons, hplace, hvalues, hrest]
      rfl

lemma mem_tokens (n k : ℕ) (fs : List (Fragment V)) (hk : k < (values fs).length) :
    .param (n + k) ∈ tokens n fs := by
  induction fs generalizing n k with
  | nil => exact absurd hk (Nat.not_lt_zero k)
  | cons f fs ih =>
    cases f with
    | text t => exact List.mem_append_right _ (ih n k hk)
    | value v =>
      cases k with
      | zero => exact List.mem_cons_self
      | succ k =>
        have hk' : k < (values fs).length := Nat.lt_of_succ_lt_succ hk
        have hmem := ih (n + 1) k hk'
        rw [Nat.add_right_comm] at hmem
        exact List.mem_cons_of_mem _ hmem

/-- A statement that is written with its values numbered in order is read with each of them in its
place, and all of them are used. -/
theorem statement_render (hs : AllSound fs) :
    statement (values fs) (render 1 fs) = some (pieces fs) := by
  have hread := read_render hs .outside 1
  have hused : ∀ k < (values fs).length, .param (k + 1) ∈ tokens 1 fs := by
    intro k hk
    rw [Nat.add_comm]
    exact mem_tokens 1 k fs hk
  have hplaced := mapM_tokens [] fs
  rw [statement, hread]
  simp only [List.nil_append, Option.bind_some]
  rw [if_pos hused]
  exact hplaced

end Placing

/-! Building: the next number is kept beside the text and the arguments. -/

section Building

variable {fs gs : List (Fragment V)}

lemma render_append (n : ℕ) (fs gs : List (Fragment V)) :
    render n (fs ++ gs) = render n fs ++ render (n + (values fs).length) gs := by
  induction fs generalizing n with
  | nil => rfl
  | cons f fs ih =>
    cases f with
    | text t =>
      have hrest : values (.text t :: fs) = values fs := rfl
      simp only [List.cons_append, render, ih, hrest, List.append_assoc]
    | value v =>
      have hrest : (values (.value v :: fs)).length = (values fs).length + 1 := rfl
      simp only [List.cons_append, render, ih, hrest, List.append_assoc]
      rw [Nat.add_right_comm, Nat.add_assoc]

structure Query (V : Type*) where
  text : Bytes
  args : List V
  argIdx : ℕ

structure Builds (q : Query V) (fs : List (Fragment V)) : Prop where
  text : q.text = render 1 fs
  args : q.args = values fs
  argIdx : q.argIdx = (values fs).length + 1

variable {q : Query V}

lemma builds_text (t : Bytes) : Builds (⟨t, [], 1⟩ : Query V) [.text t] :=
  ⟨(List.append_nil t).symm, rfl, rfl⟩

lemma Builds.append_text (h : Builds q fs) (t : Bytes) :
    Builds { q with text := q.text ++ t } (fs ++ [.text t]) where
  text := by
    rw [render_append, ← h.text]
    simp [render]
  args := by
    rw [values_append, ← h.args]
    simp [values]
  argIdx := by
    rw [values_append, h.argIdx]
    simp [values]

lemma Builds.append_value (h : Builds q fs) (v : V) :
    Builds ⟨q.text ++ placeholder q.argIdx, q.args ++ [v], q.argIdx + 1⟩ (fs ++ [.value v]) where
  text := by
    rw [render_append, ← h.text, Nat.add_comm 1, ← h.argIdx]
    simp [render]
  args := by
    rw [values_append, ← h.args]
    rfl
  argIdx := by
    rw [values_append, h.argIdx, List.length_append]
    rfl

lemma Builds.statement (h : Builds q fs) (hs : AllSound fs) :
    statement q.args q.text = some (pieces fs) := by
  rw [h.args, h.text]
  exact statement_render hs

@[simp] lemma allSound_nil : AllSound ([] : List (Fragment V)) :=
  fun _ ht => absurd ht List.not_mem_nil

@[simp] lemma allSound_cons_text {t : Bytes} :
    AllSound (.text t :: fs) ↔ Sound t ∧ AllSound fs := by
  simp [AllSound]

@[simp] lemma allSound_cons_value {v : V} : AllSound (.value v :: fs) ↔ AllSound fs := by
  simp [AllSound]

lemma AllSound.append (hf : AllSound fs) (hg : AllSound gs) : AllSound (fs ++ gs) :=
  fun t ht => (List.mem_append.mp ht).elim (hf t) (hg t)

lemma Builds.prepend_text (h : Builds q fs) (t : Bytes) :
    Builds { q with text := t ++ q.text } (.text t :: fs) :=
  ⟨congrArg (t ++ ·) h.text, h.args, h.argIdx⟩

structure Clauses (V : Type*) where
  clauses : List Bytes
  args : List V
  argIdx : ℕ

def renderEach : ℕ → List (List (Fragment V)) → List Bytes
  | _, [] => []
  | n, fs :: fss => render n fs :: renderEach (n + (values fs).length) fss

structure BuildsEach (c : Clauses V) (fss : List (List (Fragment V))) : Prop where
  clauses : c.clauses = renderEach 1 fss
  args : c.args = values fss.flatten
  argIdx : c.argIdx = (values fss.flatten).length + 1

variable {c : Clauses V} {fss gss : List (List (Fragment V))}

lemma renderEach_append (n : ℕ) (fss gss : List (List (Fragment V))) :
    renderEach n (fss ++ gss) =
      renderEach n fss ++ renderEach (n + (values fss.flatten).length) gss := by
  induction fss generalizing n with
  | nil => rfl
  | cons fs fss ih =>
    simp only [List.cons_append, renderEach, ih, List.flatten_cons, values_append,
      List.length_append, Nat.add_assoc]

lemma BuildsEach.clauses_length (h : BuildsEach c fss) : c.clauses.length = fss.length := by
  have hlength : ∀ n, (renderEach n fss).length = fss.length := by
    clear h
    induction fss with
    | nil => exact fun _ => rfl
    | cons fs fss ih => exact fun n => congrArg (· + 1) (ih _)
  rw [h.clauses, hlength]

lemma BuildsEach.append_value (h : BuildsEach c fss) (t : Bytes) (v : V) :
    BuildsEach ⟨c.clauses ++ [t ++ placeholder c.argIdx], c.args ++ [v], c.argIdx + 1⟩
      (fss ++ [[.text t, .value v]]) where
  clauses := by
    rw [renderEach_append, ← h.clauses, Nat.add_comm 1, ← h.argIdx]
    simp [renderEach, render]
  args := by
    rw [List.flatten_append, values_append, ← h.args]
    rfl
  argIdx := by
    rw [List.flatten_append, values_append, h.argIdx, List.length_append]
    rfl

lemma BuildsEach.append_text (h : BuildsEach c fss) (t : Bytes) :
    BuildsEach { c with clauses := c.clauses ++ [t] } (fss ++ [[.text t]]) where
  clauses := by
    rw [renderEach_append, ← h.clauses]
    simp [renderEach, render]
  args := by
    rw [List.flatten_append, values_append, ← h.args]
    simp [values]
  argIdx := by
    rw [List.flatten_append, values_append, h.argIdx]
    simp [values]

def join (sep : Bytes) (fss : List (List (Fragment V))) : List (Fragment V) :=
  [.text sep].intercalate fss

lemma values_join (sep : Bytes) (fss : List (List (Fragment V))) :
    values (join sep fss) = values fss.flatten := by
  induction fss with
  | nil => rfl
  | cons fs fss ih =>
    cases fss with
    | nil => simp [join]
    | cons gs fss =>
      rw [join, List.intercalate_cons_cons, List.append_assoc, List.flatten_cons, values_append,
        values_append, values_append]
      exact congrArg (values fs ++ ·) ih

lemma render_join (sep : Bytes) (n : ℕ) (fss : List (List (Fragment V))) :
    render n (join sep fss) = sep.intercalate (renderEach n fss) := by
  induction fss generalizing n with
  | nil => rfl
  | cons fs fss ih =>
    cases fss with
    | nil => simp [join, renderEach]
    | cons gs fss =>
      have hrest := ih (n + (values fs).length)
      rw [renderEach] at hrest
      rw [join, List.intercalate_cons_cons, List.append_assoc, render_append, renderEach,
        renderEach, List.intercalate_cons_cons, ← hrest, List.append_assoc]
      rfl

lemma BuildsEach.finish (h : BuildsEach c fss) (front sep back : Bytes) (v : V) :
    Builds ⟨front ++ sep.intercalate c.clauses ++ back ++ placeholder c.argIdx, c.args ++ [v],
        c.argIdx + 1⟩
      (.text front :: join sep fss ++ [.text back, .value v]) := by
  have hjoined : Builds ⟨sep.intercalate c.clauses, c.args, c.argIdx⟩ (join sep fss) := by
    refine ⟨?_, ?_, ?_⟩
    · rw [render_join, ← h.clauses]
    · rw [values_join, ← h.args]
    · rw [values_join, ← h.argIdx]
  have hlast := ((hjoined.prepend_text front).append_text back).append_value v
  simpa using hlast

lemma allSound_join {sep : Bytes} (hsep : Sound sep) (h : ∀ fs ∈ fss, AllSound fs) :
    AllSound (join sep fss) := by
  induction fss with
  | nil => exact allSound_nil
  | cons fs fss ih =>
    obtain ⟨hfs, hrest⟩ := List.forall_mem_cons.mp h
    cases fss with
    | nil => simpa [join] using hfs
    | cons gs fss =>
      rw [join, List.intercalate_cons_cons]
      exact (hfs.append (by simpa using hsep)).append (ih hrest)

end Building

end OmniTun.Foundation.Placeholders
