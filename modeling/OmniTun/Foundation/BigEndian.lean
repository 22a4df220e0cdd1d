import Mathlib.Data.List.Induction
import Mathlib.Tactic.Common
import Mathlib.Tactic.Ring

/-! Big-endian encoding of natural numbers in a fixed number of bytes. -/

namespace OmniTun.Foundation.BigEndian

def put : ℕ → ℕ → List UInt8
  | 0, _ => []
  | w + 1, n => put w (n / 256) ++ [UInt8.ofNat n]

def get (bs : List UInt8) : ℕ :=
  bs.foldl (fun n b => n * 256 + b.toNat) 0

@[simp] lemma put_length (w n : ℕ) : (put w n).length = w := by
  induction w generalizing n with
  | zero => rfl
  | succ w ih => simp [put, ih]

@[simp] lemma get_nil : get [] = 0 := rfl

@[simp] lemma get_concat (bs : List UInt8) (b : UInt8) : get (bs ++ [b]) = get bs * 256 + b.toNat := by
  simp [get]

lemma get_append (as bs : List UInt8) : get (as ++ bs) = get as * 256 ^ bs.length + get bs := by
  induction bs using List.reverseRecOn with
  | nil => simp
  | append_singleton bs b ih =>
    rw [← List.append_assoc, get_concat, get_concat, ih, List.length_append, List.length_singleton]
    ring

@[simp] lemma get_put (w n : ℕ) : get (put w n) = n % 256 ^ w := by
  induction w generalizing n with
  | zero => simp [put, Nat.mod_one]
  | succ w ih =>
    have hb : (UInt8.ofNat n).toNat = n % 256 := UInt8.toNat_ofNat
    rw [put, get_concat, ih, hb, pow_succ', Nat.mod_mul]
    ring

lemma get_lt (bs : List UInt8) : get bs < 256 ^ bs.length := by
  induction bs using List.reverseRecOn with
  | nil => simp
  | append_singleton bs b ih =>
    have hb : b.toNat < 256 := b.toNat_lt
    simp only [get_concat, List.length_append, List.length_singleton, pow_succ]
    omega

lemma put_get (bs : List UInt8) : put bs.length (get bs) = bs := by
  induction bs using List.reverseRecOn with
  | nil => rfl
  | append_singleton bs b ih =>
    have hb : b.toNat < 256 := b.toNat_lt
    have hd : (get bs * 256 + b.toNat) / 256 = get bs := by omega
    have hm : UInt8.ofNat (get bs * 256 + b.toNat) = b := by
      apply UInt8.toNat_inj.mp
      rw [UInt8.toNat_ofNat']
      omega
    simp only [List.length_append, List.length_singleton, put, get_concat, hd, ih, hm]

lemma put_get_of_length {w : ℕ} {bs : List UInt8} (h : bs.length = w) : put w (get bs) = bs :=
  h ▸ put_get bs

end OmniTun.Foundation.BigEndian
