import Mathlib.Data.List.Basic
import Mathlib.Tactic.Common

/-! Self-delimiting codes: a stream of code words splits in one way only. -/

namespace OmniTun.Foundation

structure PrefixCode (α β : Type*) where
  encode : α → List β
  decode : List β → Option (α × List β)
  decode_encode : ∀ a rest, decode (encode a ++ rest) = some (a, rest)
  decode_sound : ∀ {bs a rest}, decode bs = some (a, rest) → bs = encode a ++ rest

namespace PrefixCode

variable {α β : Type*} (C : PrefixCode α β)

def encodeAll (as : List α) : List β := as.flatMap C.encode

def decodeMany : ℕ → List β → Option (List α × List β)
  | 0, bs => some ([], bs)
  | n + 1, bs => (C.decode bs).bind fun p => (decodeMany n p.2).map fun q => (p.1 :: q.1, q.2)

@[simp] lemma encodeAll_nil : C.encodeAll [] = [] := rfl

@[simp] lemma encodeAll_cons (a : α) (as : List α) :
    C.encodeAll (a :: as) = C.encode a ++ C.encodeAll as := rfl

@[simp] lemma encodeAll_append (as bs : List α) :
    C.encodeAll (as ++ bs) = C.encodeAll as ++ C.encodeAll bs := by
  simp [encodeAll]

lemma decodeMany_encodeAll (as : List α) (rest : List β) :
    C.decodeMany as.length (C.encodeAll as ++ rest) = some (as, rest) := by
  induction as with
  | nil => rfl
  | cons a as ih => simp [decodeMany, List.append_assoc, C.decode_encode, ih]

end PrefixCode

end OmniTun.Foundation
