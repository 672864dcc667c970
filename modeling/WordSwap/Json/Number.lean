import WordSwap.Numeral.Decimal

namespace WordSwap.Json

structure NumberText where
  negative : Bool
  whole : List Char
  fraction : Option (List Char)
  exponent : Option (Bool × List Char)
  deriving DecidableEq, Repr

inductive Number where
  | natural (n : Nat)
  | negative (n : Nat)
  | floating (minus : Bool) (magnitude : Numeral.Binary64)
  deriving DecidableEq, Repr

namespace Number

def largestWhole : Nat := (1 <<< 64) - 1

def absorb (n : Nat) : List Char → Nat × List Char
  | [] => (n, [])
  | c :: rest =>
    if 10 * n + Numeral.digitValue c ≤ largestWhole then
      absorb (10 * n + Numeral.digitValue c) rest
    else (n, c :: rest)

def exponentOf : Option (Bool × List Char) → Int
  | none => 0
  | some (true, digits) => -(Numeral.valueOf digits : Int)
  | some (false, digits) => Numeral.valueOf digits

/-- The digits that do not fit into 64 bits count for their place only; none for a number that
floating point cannot hold. -/
def ofText? (t : NumberText) : Option Number :=
  let (whole, wholeRest) := absorb 0 t.whole
  match t.fraction, t.exponent with
  | none, none =>
    if !wholeRest.isEmpty then
      floatingOf t.negative whole wholeRest.length
    else if !t.negative then some (.natural whole)
    else if whole = 0 ∨ 1 <<< 63 < whole then floatingOf true whole 0
    else some (.negative whole)
  | fraction, exponent =>
    let digits := fraction.getD []
    let (significand, digitsRest) := absorb whole digits
    floatingOf t.negative significand
      ((wholeRest.length : Int) - (digits.length - digitsRest.length : Int) + exponentOf exponent)
where
  floatingOf (minus : Bool) (significand : Nat) (exponent : Int) : Option Number :=
    ((Numeral.Binary64.nearest significand 1).bind fun x => x.scale exponent).map
      (.floating minus)

def describe : Number → String
  | .natural n => "integer \x60" ++ toString n ++ "\x60"
  | .negative n => "integer \x60-" ++ toString n ++ "\x60"
  | .floating minus x =>
    "floating point \x60" ++ (if minus then "-" else "") ++ String.ofList x.text ++ "\x60"

end Number

end WordSwap.Json
