import Mathlib.Data.List.Basic
import Mathlib.Logic.Equiv.List
import Mathlib.Tactic.Common

/-! Byte strings, and the readers and writers that carry them in order. -/

namespace OmniTun.Foundation

abbrev Bytes := List UInt8

instance encodableByte : Encodable UInt8 :=
  Encodable.ofLeftInverse UInt8.toNat UInt8.ofNat fun _ => UInt8.ofNat_toNat

def ascii (s : String) : Bytes := s.toList.map fun c => UInt8.ofNat c.toNat

namespace Transport

inductive TransportError
  | eof
  | unexpectedEOF
  | closed
  deriving DecidableEq, Repr

/-- A source of bytes: `readFull r n` takes exactly `n` bytes or fails. -/
class Reader (κ : Type*) where
  readFull : κ → ℕ → Except TransportError Bytes × κ

class Writer (κ : Type*) where
  write : κ → Bytes → Option TransportError × κ

class Closer (κ : Type*) where
  close : κ → Option TransportError × κ

export Reader (readFull)
export Writer (write)
export Closer (close)

class ReliableWriter (κ : Type*) extends Writer κ where
  write_ok : ∀ (w : κ) (bs : Bytes), (write w bs).1 = none

instance : Reader Bytes where
  readFull bs n :=
    if n ≤ bs.length then (.ok (bs.take n), bs.drop n)
    else (.error (if bs = [] then .eof else .unexpectedEOF), [])

instance : ReliableWriter Bytes where
  write w bs := (none, w ++ bs)
  write_ok _ _ := rfl

@[simp] lemma write_buffer (w bs : Bytes) : write w bs = (none, w ++ bs) := rfl

lemma readFull_append {bs rest : Bytes} {n : ℕ} (h : bs.length = n) :
    readFull (bs ++ rest) n = (.ok bs, rest) := by
  subst h
  simp [readFull]

lemma readFull_sound {bs out rest : Bytes} {n : ℕ} (h : readFull bs n = (.ok out, rest)) :
    out.length = n ∧ bs = out ++ rest := by
  simp only [readFull] at h
  split_ifs at h with hn
  · obtain ⟨rfl, rfl⟩ := by simpa using h
    exact ⟨List.length_take_of_le hn, (List.take_append_drop n bs).symm⟩
  all_goals simp at h

/-- One end of a reliable, ordered, bidirectional byte stream. `inbound` is what the peer sends
before it ends the stream, `outbound` what was written to the peer so far. -/
structure Duplex where
  inbound : Bytes
  outbound : Bytes
  closed : Bool
  deriving DecidableEq, Repr

namespace Duplex

def sent (c : Duplex) (bs : Bytes) : Duplex := { c with outbound := c.outbound ++ bs }

def withInbound (c : Duplex) (bs : Bytes) : Duplex := { c with inbound := bs }

variable (c : Duplex) (bs cs : Bytes)

@[simp] lemma sent_inbound : (c.sent bs).inbound = c.inbound := rfl

@[simp] lemma sent_outbound : (c.sent bs).outbound = c.outbound ++ bs := rfl

@[simp] lemma sent_closed : (c.sent bs).closed = c.closed := rfl

@[simp] lemma sent_nil : c.sent [] = c := by simp [sent]

@[simp] lemma sent_sent : (c.sent bs).sent cs = c.sent (bs ++ cs) := by simp [sent]

@[simp] lemma withInbound_inbound : (c.withInbound bs).inbound = bs := rfl

@[simp] lemma withInbound_outbound : (c.withInbound bs).outbound = c.outbound := rfl

@[simp] lemma withInbound_closed : (c.withInbound bs).closed = c.closed := rfl

end Duplex

instance : Reader Duplex where
  readFull c n :=
    if c.closed then (.error .closed, c)
    else ((readFull c.inbound n).1, c.withInbound (readFull c.inbound n).2)

instance : Writer Duplex where
  write c bs :=
    if c.closed then (some .closed, c) else (none, c.sent bs)

instance : Closer Duplex where
  close c := (none, { c with closed := true })

lemma write_duplex {c : Duplex} (h : c.closed = false) (bs : Bytes) :
    write c bs = (none, c.sent bs) := by
  simp [write, h]

lemma readFull_duplex {c : Duplex} (h : c.closed = false) (n : ℕ) :
    readFull c n = ((readFull c.inbound n).1, c.withInbound (readFull c.inbound n).2) := by
  simp only [readFull, h, Bool.false_eq_true, if_false]

end Transport

end OmniTun.Foundation
