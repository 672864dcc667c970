import WordSwap.Numeral.Binary64

namespace WordSwap.Numeral

def isDigit (c : Char) : Bool := '0' ≤ c && c ≤ '9'

def digitValue (c : Char) : Nat := c.toNat - 48

def valueOf (digits : List Char) : Nat :=
  digits.foldl (fun n c => 10 * n + digitValue c) 0

def width (n : Nat) : Nat := if n = 0 then 0 else (Nat.toDigits 10 n).length

def decimal (n : Nat) : List Char := Nat.toDigits 10 n

def digitChar (d : Nat) : Char := Char.ofNat (48 + d % 10)

def fixed : Nat → Nat → List Char
  | 0, _ => []
  | width + 1, n => fixed width (n / 10) ++ [digitChar n]

theorem fixed_length (width n : Nat) : (fixed width n).length = width := by
  induction width generalizing n with
  | zero => rfl
  | succ width ih => simp [fixed, ih]

structure Decimal where
  digits : Nat
  exponent : Int
  deriving DecidableEq, Repr

namespace Binary64

/-- The numbers that round to a magnitude lie between `low` and `high`, in units of a quarter of
its last place; the ends are among them if the significand is even. -/
structure Reach where
  low : Nat
  value : Nat
  high : Nat
  closed : Bool

def reach (x : Binary64) : Reach :=
  let nearBelow := x.significand = 1 <<< 52 ∧ -1074 < x.exponent
  ⟨4 * x.significand - (if nearBelow then 1 else 2), 4 * x.significand, 4 * x.significand + 2,
    x.significand % 2 == 0⟩

def Reach.holds (r : Reach) (num den : Nat) : Bool :=
  if r.closed then r.low * den ≤ num && num ≤ r.high * den
  else r.low * den < num && num < r.high * den

def decimalExponent (num den : Nat) : Int :=
  if den ≤ num then (width (num / den) : Int) - 1 else -(width ((den - 1) / num) : Int)

def candidate? (x : Binary64) (place : Int) : Option Decimal :=
  let r := x.reach
  let quarter := x.exponent - 2
  let up := Nat.pow 10 (-place).toNat <<< quarter.toNat
  let down := Nat.pow 10 place.toNat <<< (-quarter).toNat
  let below := r.value * up / down
  let holds (n : Nat) : Bool := r.holds (n * down) up
  let gapBelow := r.value * up - below * down
  let gapAbove := (below + 1) * down - r.value * up
  let belowIsNearer := gapBelow < gapAbove ∨ (gapBelow = gapAbove ∧ below % 2 = 0)
  match holds below, holds (below + 1) with
  | false, false => none
  | true, false => some ⟨below, place⟩
  | false, true => some ⟨below + 1, place⟩
  | true, true => some (if belowIsNearer then ⟨below, place⟩ else ⟨below + 1, place⟩)

def shortest (x : Binary64) : Decimal :=
  if x.significand = 0 then ⟨0, 0⟩
  else
    let lead := decimalExponent x.numerator x.denominator
    let places := (List.range 17).map fun n : Nat => lead - (n : Int)
    (places.findSome? x.candidate?).getD ⟨0, 0⟩

def text (x : Binary64) : List Char :=
  let d := x.shortest
  let digits := decimal d.digits
  let significant := (digits.reverse.dropWhile (· == '0')).reverse
  let lead : Int := d.exponent + (digits.length : Int) - 1
  if significant.isEmpty then "0.0".toList
  else if 0 ≤ lead ∧ lead ≤ 15 then
    let before := lead.toNat + 1
    let fraction := significant.drop before
    let whole := significant.take before
    whole ++ List.replicate (before - whole.length) '0' ++
      '.' :: (if fraction.isEmpty then ['0'] else fraction)
  else if -5 ≤ lead ∧ lead < 0 then
    "0.".toList ++ List.replicate ((-lead).toNat - 1) '0' ++ significant
  else
    let fraction := significant.drop 1
    significant.take 1 ++ (if fraction.isEmpty then [] else '.' :: fraction) ++
      'e' :: (if lead < 0 then '-' else '+') :: decimal lead.natAbs

end Binary64

end WordSwap.Numeral
