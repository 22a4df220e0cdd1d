import OmniTun.Foundation.Base32
import OmniTun.Foundation.BigEndian
import OmniTun.Foundation.Numerals

/-! Time-based one-time passwords. -/

namespace OmniTun.Auth

open OmniTun.Foundation OmniTun.Foundation.Numerals

/-- `draw` is what the random source gives. No padding is written, so there is none to trim. -/
def generateTOTPSecret (draw : Vector UInt8 20) : Bytes := Base32.encodeToString draw.toList

def upperByte (c : UInt8) : UInt8 := if 97 ≤ c ∧ c ≤ 122 then c - 32 else c

/-- Upper case of a text, as far as a decoder of ASCII letters can tell. -/
def toUpper : Bytes → Bytes
  -- the dotless i and the long s are the two other letters with an ASCII capital
  | 0xC4 :: 0xB1 :: s => 73 :: toUpper s
  | 0xC5 :: 0xBF :: s => 83 :: toUpper s
  | c :: s => upperByte c :: toUpper s
  | [] => []

def sixDigits (n : ℕ) : Bytes := List.replicate (6 - (natNumeral n).length) 48 ++ natNumeral n

section

variable (hmacSHA1 : Bytes → Bytes → Vector UInt8 20)

def totpCode (secret : Bytes) (t : ℕ) : Bytes :=
  match Base32.decodeString (toUpper secret) with
  | none => []
  | some key =>
    let sum := hmacSHA1 key (BigEndian.put 8 (t / 30))
    let offset := sum.back.toNat % 16
    sixDigits (BigEndian.get ((sum.toList.drop offset).take 4) % 2 ^ 31 % 10 ^ 6)

def slice (s : Bytes) (low high : UInt8) : Option Bytes :=
  if low ≤ high ∧ high.toNat ≤ s.length then
    some ((s.drop low.toNat).take (high.toNat - low.toNat))
  else none

/-- `totpCode` with the slice as it is taken, by bytes. -/
def totpCodeSliced (secret : Bytes) (t : ℕ) : Option Bytes :=
  match Base32.decodeString (toUpper secret) with
  | none => some []
  | some key =>
    let sum := hmacSHA1 key (BigEndian.put 8 (t / 30))
    let offset := sum.back &&& 0xf
    (slice sum.toList offset (offset + 4)).map fun word =>
      sixDigits ((BigEndian.get word &&& 0x7fffffff) % 1000000)

def validateTOTPCode (secret code : Bytes) (now : ℕ) : Bool :=
  code.length = 6 && totpCode hmacSHA1 secret now = code

end

lemma generateTOTPSecret_ne_nil (draw : Vector UInt8 20) : generateTOTPSecret draw ≠ [] := by
  apply Base32.encodeToString_ne_nil
  intro h
  have hlen := congrArg List.length h
  simp at hlen

end OmniTun.Auth
