import MessageSchema.Number.Binary

/-!
# The shortest decimal of a binary number

The numbers that round to a binary number form an interval around it. The shortest decimal is the
one with the fewest digits in that interval, and of those the nearest to the number itself; a
`Tie` says which of two equally near decimals is taken. It suffices to look at the two neighbours
of the number on each decimal grid, for a grid point in the interval has a neighbour of the number
between itself and the number.
-/

namespace MessageSchema

/-- Which of two equally near decimals is taken. -/
inductive Tie where
  /-- The one with the even last digit. -/
  | even
  /-- The larger one. -/
  | up
  deriving DecidableEq

namespace Binary

variable {format : BinaryFormat}

/-- The exponent of the leading decimal digit of a positive fraction. -/
def leadingExponent (numerator denominator : Nat) : Int :=
  if denominator ≤ numerator then
    digitCount (numerator / denominator) - 1
  else
    let below := digitCount (denominator / numerator) - 1
    if denominator ≤ numerator * Nat.pow 10 below then -below else -(below + 1)

/-- The numbers that round to a binary number, in quarters of its last bit: from `least` to
`greatest`, with the ends or without. Below a power of two the numbers are twice as dense. -/
structure Neighbourhood where
  least : Nat
  value : Nat
  greatest : Nat
  closed : Bool

/-- The neighbourhood of a number that is not zero. -/
def neighbourhood (b : Binary format) : Neighbourhood :=
  let halved := b.mantissa = Nat.pow 2 (format.precision - 1) ∧ format.leastExponent < b.exponent
  { least := 4 * b.mantissa - (if halved then 1 else 2)
    value := 4 * b.mantissa
    greatest := 4 * b.mantissa + 2
    closed := b.mantissa % 2 = 0 }

/-- The multiple of ten to the `grid` that is nearest to the number, among those that round to
it. -/
def onGrid? (tie : Tie) (b : Binary format) (grid : Int) : Option Nat :=
  let around := b.neighbourhood
  let quarter := b.exponent - 2
  -- A grid point `c` stands for `c * point`, a number `x` of quarters for `x * unit`.
  let point := Nat.pow 10 grid.toNat * Nat.pow 2 (-quarter).toNat
  let unit := Nat.pow 2 quarter.toNat * Nat.pow 10 (-grid).toNat
  let inside (c : Nat) : Bool :=
    if around.closed then around.least * unit ≤ c * point ∧ c * point ≤ around.greatest * unit
    else around.least * unit < c * point ∧ c * point < around.greatest * unit
  let below := around.value * unit / point
  let above := below + 1
  if inside below then
    if inside above then
      let down := around.value * unit - below * point
      let up := above * point - around.value * unit
      let takeAbove : Bool :=
        match tie with
        | .even => up < down ∨ (up = down ∧ below % 2 = 1)
        | .up => up ≤ down
      some (if takeAbove then above else below)
    else some below
  else if inside above then some above
  else none

/-- The shortest decimal that rounds to the number. The precision of the format bounds the count of
digits, for each bit takes at most one. -/
def shortest (tie : Tie) (b : Binary format) : Decimal :=
  if b.mantissa = 0 then ⟨0, 0⟩
  else
    let leading := leadingExponent b.ratio.1 b.ratio.2
    let found := (List.range format.precision).findSome? fun (extra : Nat) =>
      (b.onGrid? tie (leading - extra)).map (Decimal.mk · (leading - extra))
    -- Just below a power of ten the nearest point may be that power itself.
    (found.getD ⟨0, 0⟩).trim

end Binary

/-- The finite 64-bit number with the same shortest decimal, of two equally near decimals the
larger; none for a number that is not finite. -/
def Floating.toDouble? (x : Single) : Option (Binary .double) :=
  x.finite?.bind fun value => Binary.ofDecimal? value.negative (value.shortest .up)

end MessageSchema
