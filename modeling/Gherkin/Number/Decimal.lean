import Gherkin.Text.Basic

/-!
# Decimal numbers

Reading and writing of numbers in decimal. A `Decimal` is a number of units of a power of ten; it is
written positionally, without an exponent and without zeros behind the last digit of a fraction.
-/

namespace Gherkin

/-- The number that a list of decimal digits spells, unless another character is among them. -/
def digits? (t : Text) : Option Nat :=
  if t.all Char.isDigit then some (t.foldl (fun n c ↦ 10 * n + (c.toNat - 48)) 0) else none

/-- A sign and what follows it: whether it is a minus sign. -/
def splitSign : Text → Bool × Text
  | '-' :: t => (true, t)
  | '+' :: t => (false, t)
  | t => (false, t)

/-- The whole number that a text spells: an optional sign and at least one digit. -/
def integer? (t : Text) : Option Int := do
  let (negative, body) := splitSign t
  guard !body.isEmpty
  let n ← digits? body
  return if negative then -n else n

/-- The digits of a whole number, with a minus sign before those of a negative one. -/
def integerText (i : Int) : Text :=
  if i < 0 then '-' :: Text.ofNat i.natAbs else Text.ofNat i.natAbs

/-- The number `units * 10 ^ exponent`. -/
structure Decimal where
  units : Nat
  exponent : Int
  deriving DecidableEq, Repr

namespace Decimal

/-- A fraction of `places` digits that are worth `n` units of the last place. -/
def fraction (places n : Nat) : Text :=
  let ds := Text.ofNat n
  let padded := List.replicate (places - ds.length) '0' ++ ds
  (padded.reverse.dropWhile (· = '0')).reverse

def display (d : Decimal) : Text :=
  if 0 ≤ d.exponent then Text.ofNat (d.units * Nat.pow 10 d.exponent.toNat)
  else
    let places := (-d.exponent).toNat
    let whole := Text.ofNat (d.units / Nat.pow 10 places)
    match fraction places (d.units % Nat.pow 10 places) with
    | [] => whole
    | digits => whole ++ '.' :: digits

/-- The digits before a decimal point and those after it; the point may be missing. -/
def splitPoint (t : Text) : Text × Text :=
  (t.takeWhile (· ≠ '.'), (t.dropWhile (· ≠ '.')).tail)

/-- The decimal that a text without a sign spells: digits, maybe with a decimal point among them,
and maybe an exponent after the letter e. At least one digit stands before the exponent. -/
def ofText? (t : Text) : Option Decimal := do
  let isMark (c : Char) : Bool := c = 'e' || c = 'E'
  let mantissa := t.takeWhile fun c ↦ !isMark c
  let exponent ← match t.dropWhile fun c ↦ !isMark c with
    | [] => some 0
    | _ :: digits => integer? digits
  let (whole, part) := splitPoint mantissa
  guard !(whole ++ part).isEmpty
  let units ← digits? (whole ++ part)
  return ⟨units, exponent - part.length⟩

end Decimal

end Gherkin
