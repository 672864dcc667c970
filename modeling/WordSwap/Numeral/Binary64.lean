/-! Magnitudes in binary64: the numbers `significand · 2 ^ exponent` with a significand of at most
53 bits and an exponent of at least `-1074`, and arithmetic that rounds to the nearest of them. -/

namespace WordSwap.Numeral

structure Binary64 where
  significand : Nat
  exponent : Int
  deriving DecidableEq, Repr, Inhabited

namespace Binary64

def zero : Binary64 := ⟨0, -1074⟩

def roundDiv (num den : Nat) : Nat :=
  let whole := num / den
  let twice := 2 * (num % den)
  if twice < den || (twice == den && whole % 2 == 0) then whole else whole + 1

def binaryExponent (num den : Nat) : Int :=
  let guess : Int := (Nat.log2 num : Int) - (Nat.log2 den : Int)
  if num <<< (-guess).toNat < den <<< guess.toNat then guess - 1 else guess

def nearest (num den : Nat) : Option Binary64 :=
  if num = 0 then some zero
  else
    let exponent : Int := max (binaryExponent num den - 52) (-1074)
    let significand := roundDiv (num <<< (-exponent).toNat) (den <<< exponent.toNat)
    let result : Binary64 :=
      if significand = 1 <<< 53 then ⟨1 <<< 52, exponent + 1⟩ else ⟨significand, exponent⟩
    if 971 < result.exponent then none else some result

def numerator (x : Binary64) : Nat := x.significand <<< x.exponent.toNat

def denominator (x : Binary64) : Nat := 1 <<< (-x.exponent).toNat

def mul (x y : Binary64) : Option Binary64 :=
  nearest (x.numerator * y.numerator) (x.denominator * y.denominator)

def div (x y : Binary64) : Option Binary64 :=
  nearest (x.numerator * y.denominator) (x.denominator * y.numerator)

def powerOfTen (n : Nat) : Option Binary64 := nearest (Nat.pow 10 n) 1

def timesPower (x : Binary64) (n : Nat) : Option Binary64 := (powerOfTen n).bind x.mul

def overPower (x : Binary64) (n : Nat) : Option Binary64 := (powerOfTen n).bind x.div

def largestPower : Nat := 308

def overLargestPower (x : Binary64) : Nat → Option Binary64
  | 0 => some x
  | times + 1 =>
    if x.significand = 0 then some x
    else (x.overPower largestPower).bind fun y => y.overLargestPower times

/-- `x · 10 ^ n`, rounded once for the power of ten and once for the result. A power too small to
be a magnitude is divided out in several steps. -/
def scale (x : Binary64) (n : Int) : Option Binary64 :=
  if x.significand = 0 then some x
  else if (largestPower : Int) < n then none
  else if 0 ≤ n then x.timesPower n.toNat
  else
    let down := (-n).toNat
    let steps := (down - 1) / largestPower
    (x.overLargestPower steps).bind fun y => y.overPower (down - largestPower * steps)

end Binary64

end WordSwap.Numeral
