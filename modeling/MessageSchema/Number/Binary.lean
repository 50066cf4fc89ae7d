import MessageSchema.Number.Decimal

/-!
# Binary floating-point numbers

A finite number of a binary format is a sign, a mantissa and an exponent of two in canonical form:
the mantissa has the format's full precision, or the exponent is the least one. Every rational
number is rounded to the nearest number of a format, a tie to the even mantissa; one beyond the
range of the format has no such number (`Binary.ofRatio?`). All arithmetic is exact arithmetic on
natural numbers. Besides its finite numbers a format has infinities and a value that is no number
(`Floating`).
-/

namespace MessageSchema

/-- A binary format: mantissas below two to the `precision`, exponents of the mantissa's last bit
between two bounds. -/
structure BinaryFormat where
  precision : Nat
  leastExponent : Int
  greatestExponent : Int
  deriving DecidableEq

/-- Floating point of 64 bits. -/
def BinaryFormat.double : BinaryFormat := ⟨53, -1074, 971⟩

/-- Floating point of 32 bits. -/
def BinaryFormat.single : BinaryFormat := ⟨24, -149, 104⟩

/-- One mantissa and exponent for each magnitude: the exponent is as small as the precision
allows. -/
def BinaryFormat.Canonical (format : BinaryFormat) (mantissa : Nat) (exponent : Int) : Prop :=
  mantissa < Nat.pow 2 format.precision ∧
  format.leastExponent ≤ exponent ∧ exponent ≤ format.greatestExponent ∧
  (Nat.pow 2 (format.precision - 1) ≤ mantissa ∨ exponent = format.leastExponent)

instance (format : BinaryFormat) (mantissa : Nat) (exponent : Int) :
    Decidable (format.Canonical mantissa exponent) :=
  inferInstanceAs (Decidable (_ ∧ _))

/-- A finite number of the format: `mantissa` times two to the `exponent`, with a sign. Zero has
both signs. -/
structure Binary (format : BinaryFormat) where
  negative : Bool
  mantissa : Nat
  exponent : Int
  canonical : format.Canonical mantissa exponent
  deriving DecidableEq

namespace Binary

variable {format : BinaryFormat}

/-- Both zeros are zero. -/
def isZero (b : Binary format) : Bool := b.mantissa == 0

/-- The magnitude as a fraction of natural numbers, the denominator a power of two. -/
def ratio (b : Binary format) : Nat × Nat :=
  (b.mantissa * Nat.pow 2 b.exponent.toNat, Nat.pow 2 (-b.exponent).toNat)

/-- The number with the given parts, if they are canonical. -/
def ofParts? (negative : Bool) (mantissa : Nat) (exponent : Int) : Option (Binary format) :=
  if h : format.Canonical mantissa exponent then some ⟨negative, mantissa, exponent, h⟩ else none

/-- The number nearest to a positive fraction, a tie to the even mantissa; none when it is too
large for the format. -/
def nearest? (negative : Bool) (numerator denominator : Nat) : Option (Binary format) :=
  -- The quotient is strictly between two to the `scale - 1` and two to the `scale + 1`.
  let scale : Int := numerator.log2 - denominator.log2
  let candidate := max format.leastExponent (scale - format.precision)
  let quotient (exponent : Int) : Nat × Nat × Nat :=
    let n := numerator * Nat.pow 2 (-exponent).toNat
    let d := denominator * Nat.pow 2 exponent.toNat
    (n / d, n % d, d)
  let exponent :=
    if (quotient candidate).1 < Nat.pow 2 format.precision then candidate else candidate + 1
  let (whole, rest, divisor) := quotient exponent
  let rounded :=
    if divisor < 2 * rest ∨ (divisor = 2 * rest ∧ whole % 2 = 1) then whole + 1 else whole
  if rounded = Nat.pow 2 format.precision then
    ofParts? negative (Nat.pow 2 (format.precision - 1)) (exponent + 1)
  else
    ofParts? negative rounded exponent

/-- The number nearest to `numerator / denominator`; none when it is too large for the format. -/
def ofRatio? (negative : Bool) (numerator denominator : Nat) : Option (Binary format) :=
  if numerator = 0 then ofParts? negative 0 format.leastExponent
  else nearest? negative numerator denominator

/-- The number nearest to a decimal number. A decimal far outside the range is decided by its
magnitude alone, so that the power of ten is never large. -/
def ofDecimal? (negative : Bool) (d : Decimal) : Option (Binary format) :=
  if d.coefficient = 0 then
    ofRatio? negative 0 1
  else if format.greatestExponent + format.precision < 3 * d.magnitude then
    none
  else if 3 * (d.magnitude + 1) < format.leastExponent - 1 then
    ofRatio? negative 0 1
  else
    ofRatio? negative (d.coefficient * Nat.pow 10 d.exponent.toNat)
      (Nat.pow 10 (-d.exponent).toNat)

/-- The number nearest to an integer. -/
def ofInt? (n : Int) : Option (Binary format) :=
  ofRatio? (n < 0) n.natAbs 1

/-- The number of another format nearest to this one. -/
def convert? {other : BinaryFormat} (b : Binary format) : Option (Binary other) :=
  ofRatio? b.negative b.ratio.1 b.ratio.2

end Binary

/-- A floating-point number of the format: a finite number, an infinity of either sign, or the
value that is no number, of which there is one. -/
inductive Floating (format : BinaryFormat) where
  | finite (value : Binary format)
  | infinite (negative : Bool)
  | nan
  deriving DecidableEq

/-- A floating-point number of 64 bits. -/
abbrev Double := Floating .double

/-- A floating-point number of 32 bits. -/
abbrev Single := Floating .single

namespace Floating

variable {format : BinaryFormat}

/-- The finite number, if it is one. -/
def finite? : Floating format → Option (Binary format)
  | finite value => some value
  | infinite _ | nan => none

/-- Both zeros are zero, and nothing else is. -/
def isZero (x : Floating format) : Bool := x.finite?.any (·.isZero)

/-- The number nearest to an integer; a value beyond the finite range is infinite. -/
def ofInt (n : Int) : Floating format :=
  match Binary.ofInt? n with
  | some value => finite value
  | none => infinite (n < 0)

/-- The number nearest to a finite number of another format; a value beyond the finite range is
infinite. -/
def ofBinary {other : BinaryFormat} (b : Binary other) : Floating format :=
  match b.convert? with
  | some value => finite value
  | none => infinite b.negative

end Floating

end MessageSchema
