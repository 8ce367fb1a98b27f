import Gherkin.Number.Decimal

/-!
# Binary floating-point numbers of 64 bits

A finite number is `±mantissa * 2 ^ exponent` with a mantissa below `2 ^ 53` and an exponent of at
least `-1074`, chosen as small as that allows. Reading takes the number nearest to a decimal;
writing takes the decimal with the fewest digits that is read as the number, and of several such the
nearest. All arithmetic is exact.
-/

namespace Gherkin

/-- A floating-point number. -/
inductive Binary64 where
  | finite (negative : Bool) (mantissa : Nat) (exponent : Int)
  | infinite (negative : Bool)
  | notANumber
  deriving DecidableEq, Repr

namespace Binary64

/-- The whole number nearest to a quotient; of two equally near the even one. -/
def roundDiv (num den : Nat) : Nat :=
  let q := num / den
  let r := num % den
  if 2 * r < den then q
  else if den < 2 * r then q + 1
  else if q % 2 = 0 then q else q + 1

/-- Whether `base ^ k ≤ num / den`. -/
def reaches (base num den : Nat) (k : Int) : Bool :=
  if 0 ≤ k then den * Nat.pow base k.toNat ≤ num
  else den ≤ num * Nat.pow base (-k).toNat

/-- The largest `k` with `2 ^ k ≤ num / den`, for positive numbers. The lengths of the two numbers
tell it up to one. -/
def log2Div (num den : Nat) : Int :=
  let k : Int := num.log2 - den.log2
  if reaches 2 num den k then k else k - 1

/-- The floating-point number nearest to a quotient of positive numbers. -/
def ofQuotient (negative : Bool) (num den : Nat) : Binary64 :=
  let exponent := max (log2Div num den - 52) (-1074)
  let mantissa :=
    if 0 ≤ exponent then roundDiv num (den * Nat.pow 2 exponent.toNat)
    else roundDiv (num * Nat.pow 2 (-exponent).toNat) den
  let (mantissa, exponent) :=
    if mantissa = Nat.pow 2 53 then (Nat.pow 2 52, exponent + 1) else (mantissa, exponent)
  if 971 < exponent then .infinite negative else .finite negative mantissa exponent

/-- The floating-point number nearest to a decimal. Decimals out of all range are told by the number
of their digits. -/
def ofDecimal (negative : Bool) (d : Decimal) : Binary64 :=
  if d.units = 0 then .finite negative 0 (-1074)
  else
    let size := d.exponent + (Text.ofNat d.units).length
    if 310 < size then .infinite negative
    else if size < -330 then .finite negative 0 (-1074)
    else if 0 ≤ d.exponent then ofQuotient negative (d.units * Nat.pow 10 d.exponent.toNat) 1
    else ofQuotient negative d.units (Nat.pow 10 (-d.exponent).toNat)

/-- The number that a text spells: a decimal, infinity, or not a number. -/
def ofText? (t : Text) : Option Binary64 :=
  let (negative, body) := splitSign t
  let word := body.map Char.toLower
  if word = "inf".toList ∨ word = "infinity".toList then some (.infinite negative)
  else if word = "nan".toList then some .notANumber
  else (Decimal.ofText? body).map (ofDecimal negative)

/-- The neighbours of `num / den` on the grid of multiples of `10 ^ p`, the nearer first and the
larger first if both are equally near. -/
def neighbours (num den : Nat) (p : Int) : List Nat :=
  let (num, den) :=
    if 0 ≤ p then (num, den * Nat.pow 10 p.toNat) else (num * Nat.pow 10 (-p).toNat, den)
  let q := num / den
  if 2 * (num % den) < den then [q, q + 1] else [q + 1, q]

/-- Whether `units * 10 ^ p` is read as the number `mantissa * 2 ^ exponent`. -/
def isReadAs (mantissa : Nat) (exponent : Int) (units : Nat) (p : Int) : Bool :=
  ofDecimal false ⟨units, p⟩ = .finite false mantissa exponent

/-- The largest `k` with `10 ^ k ≤ num / den`, for positive numbers. -/
def log10Div (num den : Nat) : Int :=
  let k : Int := (Text.ofNat num).length - (Text.ofNat den).length
  if reaches 10 num den k then k else k - 1

/-- The decimal of the fewest digits that is read as `mantissa * 2 ^ exponent`; seventeen digits are
always enough. -/
def shortest (mantissa : Nat) (exponent : Int) : Decimal :=
  let num := if 0 ≤ exponent then mantissa * Nat.pow 2 exponent.toNat else mantissa
  let den := if 0 ≤ exponent then 1 else Nat.pow 2 (-exponent).toNat
  let top := log10Div num den
  let candidates := (List.range 17).flatMap fun (n : Nat) ↦
    (neighbours num den (top - n)).map fun units ↦ (⟨units, top - n⟩ : Decimal)
  (candidates.find? fun d ↦ isReadAs mantissa exponent d.units d.exponent).getD ⟨0, 0⟩

def display : Binary64 → Text
  | notANumber => "NaN"
  | infinite negative => if negative then "-inf" else "inf"
  | finite negative mantissa exponent =>
    let body : Text := if mantissa = 0 then "0" else (shortest mantissa exponent).display
    if negative then '-' :: body else body

end Binary64

end Gherkin
