import MessageSchema.Json.Basic

/-!
# Number literals of JSON text

A literal is an optional minus sign, digits without a leading zero, and optionally a fraction and
an exponent. Without fraction and exponent it is an integer, if one that is in range and not a
negative zero; everything else is a floating-point number. How a decimal is rounded to one is up to
the reader (`DecimalRounding`); a literal beyond the range of floating point has no value.
-/

namespace MessageSchema

/-- How a reader of JSON rounds decimals to 64 bits. One that is too large has no value. -/
class DecimalRounding where
  round? (negative : Bool) (d : Decimal) : Option (Binary .double)

/-- Correct rounding: the nearest number, a tie to the even mantissa. -/
instance : DecimalRounding := ⟨Binary.ofDecimal?⟩

/-- The parts of a number literal. -/
structure Literal where
  negative : Bool
  whole : List Char
  fraction : Option (List Char)
  exponent : Option Int

namespace Literal

/-- The exponent after its letter: a sign or none, and at least one digit. -/
def exponent? (cs : List Char) : Option Int :=
  let (negative, ds) :=
    match cs with
    | '-' :: ds => (true, ds)
    | '+' :: ds => (false, ds)
    | ds => (false, ds)
  if ds ≠ [] ∧ ds.all Char.isDigit then
    some (if negative then -(ofDigits ds : Int) else ofDigits ds)
  else none

/-- Reads a literal that is all of the given text. -/
def read? (cs : List Char) : Option Literal := do
  let (negative, cs) :=
    match cs with
    | '-' :: cs => (true, cs)
    | cs => (false, cs)
  let whole := cs.takeWhile Char.isDigit
  if whole = [] ∨ (whole.head? = some '0' ∧ whole ≠ ['0']) then none
  let (fraction, rest) :=
    match cs.dropWhile Char.isDigit with
    | '.' :: cs => (some (cs.takeWhile Char.isDigit), cs.dropWhile Char.isDigit)
    | cs => (none, cs)
  if fraction = some [] then none
  match rest with
  | [] => return ⟨negative, whole, fraction, none⟩
  | c :: cs =>
    if c = 'e' ∨ c = 'E' then
      let exponent ← exponent? cs
      return ⟨negative, whole, fraction, some exponent⟩
    else none

/-- The literal as a decimal number. -/
def decimal (l : Literal) : Decimal :=
  let fraction := l.fraction.getD []
  ⟨ofDigits (l.whole ++ fraction), l.exponent.getD 0 - fraction.length⟩

/-- The integer of a literal without fraction and exponent that is in range and not a negative
zero. -/
def integer? (l : Literal) : Option Integer :=
  if l.fraction = none ∧ l.exponent = none ∧ ¬(l.negative ∧ l.decimal.coefficient = 0) then
    let n : Int := l.decimal.coefficient
    Ranged.ofInt? (if l.negative then -n else n)
  else none

/-- The number that a literal stands for; none if it is too large. -/
def value? [DecimalRounding] (l : Literal) : Option Number :=
  match l.integer? with
  | some n => some (.int n)
  | none => (DecimalRounding.round? l.negative l.decimal).map .double

end Literal

end MessageSchema
