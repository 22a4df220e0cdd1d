import OmniTun.Foundation.Table
import OmniTun.Foundation.Transport

/-! JSON values, and the decoding of flat structs as a reading of named fields: unknown fields are
ignored, missing ones read as zero, nulls leave a field as it is, and names match in any case. A text
is given by the value it denotes. -/

namespace OmniTun.Foundation

/-- A number with a fraction or an exponent is kept as it is written. -/
inductive Json
  | null
  | bool (b : Bool)
  | num (n : ℤ)
  | real (numeral : Bytes)
  | str (s : Bytes)
  | arr (items : List Json)
  | obj (fields : List (Bytes × Json))

namespace Json

def fields : Json → Option (List (Bytes × Json))
  | .obj fs => some fs
  | .null => some []
  | _ => none

def get (fs : List (Bytes × Json)) (name : Bytes) : Option Json :=
  (fs.reverse.find? fun f => f.1 = name).map Prod.snd

def readString : Json → Option Bytes
  | .str s => some s
  | .null => some []
  | _ => none

def readInt : Json → Option ℤ
  | .num n => if -2 ^ 63 ≤ n ∧ n < 2 ^ 63 then some n else none
  | .null => some 0
  | _ => none

def readStrings (t : Table Bytes Bytes) (fs : List (Bytes × Json)) : Option (Table Bytes Bytes) :=
  fs.foldlM (fun t f => (readString f.2).map fun s => t.insert f.1 s) t

/-- Outside ASCII only the long s and the Kelvin sign fold to a letter. -/
def foldName : Bytes → Bytes
  | 197 :: 191 :: rest => 83 :: foldName rest
  | 226 :: 132 :: 170 :: rest => 75 :: foldName rest
  | c :: rest => (if 97 ≤ c ∧ c ≤ 122 then c - 32 else c) :: foldName rest
  | [] => []

def named (fs : List (Bytes × Json)) (name : Bytes) : List Json :=
  (fs.filter fun f => foldName f.1 = foldName name).map Prod.snd

def field {α : Type*} (read : Json → Option α) (zero : α) (fs : List (Bytes × Json))
    (name : Bytes) : Option α :=
  (named fs name).foldlM (fun v j => match j with | .null => some v | j => read j) zero

def stringField (fs : List (Bytes × Json)) (name : Bytes) : Option Bytes :=
  field readString [] fs name

def intField (fs : List (Bytes × Json)) (name : Bytes) : Option ℤ := field readInt 0 fs name

def stringMapField (fs : List (Bytes × Json)) (name : Bytes) : Option (Table Bytes Bytes) :=
  (named fs name).foldlM (fun t j => match j with
    | .null => some ∅
    | .obj fs => readStrings t fs
    | _ => none) ∅

def readBool : Json → Option Bool
  | .bool b => some b
  | .null => some false
  | _ => none

def readList {α : Type*} (read : Json → Option α) : Json → Option (List α)
  | .arr items => items.mapM read
  | .null => some []
  | _ => none

def listField {α : Type*} (read : Json → Option α) (fs : List (Bytes × Json)) (name : Bytes) :
    Option (List α) :=
  field (readList read) [] fs name

def rawField (fs : List (Bytes × Json)) (name : Bytes) : Option Json := (named fs name).getLast?

section

variable {α : Type*} {read : Json → Option α} {zero : α} {fs : List (Bytes × Json)} {name : Bytes}

lemma named_missing (h : ∀ f ∈ fs, foldName f.1 ≠ foldName name) : named fs name = [] := by
  simpa [named] using fun n v hf => h (n, v) hf

lemma named_unique (h : (fs.map fun f => foldName f.1).Nodup) {v : Json} (hv : (name, v) ∈ fs) :
    named fs name = [v] := by
  induction fs with
  | nil => cases hv
  | cons f fs ih =>
    obtain ⟨hnot, hnodup⟩ := List.nodup_cons.mp h
    rcases List.mem_cons.mp hv with rfl | hv
    · have hrest : named fs name = [] := by
        apply named_missing
        intro f hf he
        exact hnot (List.mem_map.mpr ⟨f, hf, he⟩)
      have hcons : named ((name, v) :: fs) name = v :: named fs name := by simp [named]
      rw [hcons, hrest]
    · have hne : foldName f.1 ≠ foldName name := by
        intro he
        exact hnot (List.mem_map.mpr ⟨(name, v), hv, he.symm⟩)
      have hcons : named (f :: fs) name = named fs name := by simp [named, hne]
      rw [hcons, ih hnodup hv]

lemma get_unique (h : (fs.map Prod.fst).Nodup) {v : Json} (hv : (name, v) ∈ fs) :
    get fs name = some v := by
  have hfound : fs.reverse.find? (fun f => f.1 = name) = some (name, v) := by
    cases hf : fs.reverse.find? fun f => f.1 = name with
    | none =>
      have hno := List.find?_eq_none.mp hf (name, v) (List.mem_reverse.mpr hv)
      simp at hno
    | some f =>
      have hmem := List.mem_reverse.mp (List.mem_of_find?_eq_some hf)
      have hname : f.1 = name := by simpa using List.find?_some hf
      exact congrArg some (List.inj_on_of_nodup_map h hmem hv hname)
  rw [get, hfound]
  rfl

lemma readList_map {β : Type*} {write : β → Json} {f : β → α} (h : ∀ b, read (write b) = some (f b))
    (bs : List β) : readList read (.arr (bs.map write)) = some (bs.map f) := by
  induction bs with
  | nil => rfl
  | cons b bs ih =>
    rw [readList] at ih ⊢
    rw [List.map_cons, List.mapM_cons, h, ih]
    rfl

lemma field_mismatch {v : Json} (hv : (name, v) ∈ fs) (hnull : v ≠ .null) (hread : read v = none) :
    field read zero fs name = none := by
  have hmem : v ∈ named fs name := by
    simp only [named, List.mem_map, List.mem_filter, decide_eq_true_eq]
    exact ⟨(name, v), ⟨hv, rfl⟩, rfl⟩
  rw [field]
  generalize named fs name = vs at hmem
  induction vs generalizing zero with
  | nil => cases hmem
  | cons w vs ih =>
    rw [List.foldlM_cons]
    rcases List.mem_cons.mp hmem with rfl | hmem
    · cases v <;> simp_all
    · apply Option.bind_eq_none_iff.mpr
      intro a _
      exact ih hmem

lemma field_missing (h : named fs name = []) : field read zero fs name = some zero := by
  simp [field, h]

lemma field_one {j : Json} (h : named fs name = [j]) (hj : j ≠ .null) :
    field read zero fs name = read j := by
  cases j <;> simp_all [field]

end

@[simp] lemma get_nil (name : Bytes) : get [] name = none := rfl

end Json

end OmniTun.Foundation
