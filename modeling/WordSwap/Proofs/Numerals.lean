import Mathlib.Algebra.Order.Ring.Nat
import Mathlib.Data.List.Induction
import WordSwap.Numeral.Decimal
import WordSwap.Text.Basic

namespace WordSwap

namespace Text

lemma valueOf_concat (bytes : List UInt8) (b : UInt8) :
    valueOf (bytes ++ [b]) = 256 * valueOf bytes + b.toNat := by
  simp [valueOf]

lemma bigEndian_succ (width n : Nat) :
    bigEndian (width + 1) n = bigEndian width (n / 256) ++ [UInt8.ofNat n] := by
  simp [bigEndian, littleEndian]

lemma valueOf_bigEndian (width n : Nat) : valueOf (bigEndian width n) = n % 256 ^ width := by
  induction width generalizing n with
  | zero => simp [bigEndian, littleEndian, valueOf, Nat.mod_one]
  | succ width ih =>
    rw [bigEndian_succ, valueOf_concat, ih, Nat.pow_succ', Nat.mod_mul, UInt8.toNat_ofNat']
    omega

lemma bigEndian_valueOf (bytes : List UInt8) : bigEndian bytes.length (valueOf bytes) = bytes := by
  induction bytes using List.reverseRecOn with
  | nil => rfl
  | append_singleton bytes b ih =>
    have hb : b.toNat < 256 := b.toNat_lt
    have hlow : UInt8.ofNat (256 * valueOf bytes + b.toNat) = b := by
      apply UInt8.toNat_inj.mp
      rw [UInt8.toNat_ofNat']
      omega
    have hhigh : (256 * valueOf bytes + b.toNat) / 256 = valueOf bytes := by omega
    rw [List.length_append, List.length_singleton, bigEndian_succ, valueOf_concat, hlow, hhigh, ih]

lemma valueOf_inj {xs ys : List UInt8} (hl : xs.length = ys.length) (h : valueOf xs = valueOf ys) :
    xs = ys := by
  rw [← bigEndian_valueOf xs, ← bigEndian_valueOf ys, hl, h]

lemma valueOf_lt (bytes : List UInt8) : valueOf bytes < 256 ^ bytes.length := by
  have h := valueOf_bigEndian bytes.length (valueOf bytes)
  rw [bigEndian_valueOf] at h
  exact h ▸ Nat.mod_lt _ (Nat.pow_pos (by decide))

lemma littleEndian_inj {width m n : Nat} (hm : m < 256 ^ width) (hn : n < 256 ^ width)
    (h : littleEndian width m = littleEndian width n) : m = n := by
  have hv : valueOf (bigEndian width m) = valueOf (bigEndian width n) := by
    rw [bigEndian, bigEndian, h]
  rwa [valueOf_bigEndian, valueOf_bigEndian, Nat.mod_eq_of_lt hm, Nat.mod_eq_of_lt hn] at hv

lemma utf8_length (s : String) : (utf8 s).length = s.utf8ByteSize := by
  simp [utf8]

end Text

namespace Numeral

lemma isDigit_digitChar (n : Nat) : isDigit (digitChar n) = true := by
  have h : ∀ d < 10, isDigit (Char.ofNat (48 + d)) = true := by decide
  exact h _ (Nat.mod_lt n (by decide))

lemma digitValue_digitChar (n : Nat) : digitValue (digitChar n) = n % 10 := by
  have h : ∀ d < 10, digitValue (Char.ofNat (48 + d)) = d := by decide
  exact h _ (Nat.mod_lt n (by decide))

lemma isDigit_of_mem_fixed {width n : Nat} {c : Char} (h : c ∈ fixed width n) :
    isDigit c = true := by
  induction width generalizing n with
  | zero => exact absurd h List.not_mem_nil
  | succ width ih =>
    rcases List.mem_append.mp h with h | h
    · exact ih h
    · obtain rfl := List.mem_singleton.mp h
      exact isDigit_digitChar n

lemma valueOf_fixed (width n : Nat) : valueOf (fixed width n) = n % 10 ^ width := by
  induction width generalizing n with
  | zero => simp [fixed, valueOf, Nat.mod_one]
  | succ width ih =>
    have hc : valueOf (fixed (width + 1) n) =
        10 * valueOf (fixed width (n / 10)) + digitValue (digitChar n) := by
      simp [fixed, valueOf]
    rw [hc, ih, digitValue_digitChar, Nat.pow_succ', Nat.mod_mul]
    omega

lemma fixed_inj {width m n : Nat} (hm : m < 10 ^ width) (hn : n < 10 ^ width)
    (h : fixed width m = fixed width n) : m = n := by
  have hv := congrArg valueOf h
  rwa [valueOf_fixed, valueOf_fixed, Nat.mod_eq_of_lt hm, Nat.mod_eq_of_lt hn] at hv

end Numeral

end WordSwap
