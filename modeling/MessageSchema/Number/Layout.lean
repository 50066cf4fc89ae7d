import MessageSchema.Number.Shortest

/-!
# How floating-point numbers are written

A number is written by its shortest decimal: in plain form while the exponent of its leading digit
is within the bounds of the layout, with at least one digit after the point, and otherwise with an
exponent whose sign is always written. There is one layout for each width.
-/

namespace MessageSchema

/-- The exponents of the leading digit for which a number is written in plain form. -/
structure Layout where
  leastPlain : Int
  greatestPlain : Int

/-- 64-bit numbers are plain from `0.00001` to below `1e+16`. -/
def Layout.double : Layout := ⟨-5, 15⟩

/-- 32-bit numbers are plain from `0.000001` to below `1e+13`. -/
def Layout.single : Layout := ⟨-6, 12⟩

/-- Digits with the point placed by the exponent of the last one. -/
def plain (cs : List Char) (exponent : Int) : List Char :=
  if 0 ≤ exponent then
    cs ++ List.replicate exponent.toNat '0' ++ ['.', '0']
  else
    let places := (-exponent).toNat
    if places < cs.length then
      cs.take (cs.length - places) ++ '.' :: cs.drop (cs.length - places)
    else
      '0' :: '.' :: List.replicate (places - cs.length) '0' ++ cs

/-- Digits with the point after the first one, and the exponent of that one. -/
def scientific (cs : List Char) (magnitude : Int) : List Char :=
  let fraction := cs.drop 1
  cs.take 1 ++ (if fraction = [] then [] else '.' :: fraction) ++
    'e' :: (if magnitude < 0 then '-' else '+') :: digits magnitude.natAbs

/-- A signed decimal in a layout. -/
def Layout.write (layout : Layout) (negative : Bool) (d : Decimal) : List Char :=
  let body :=
    if layout.leastPlain ≤ d.magnitude ∧ d.magnitude ≤ layout.greatestPlain then
      plain (digits d.coefficient) d.exponent
    else
      scientific (digits d.coefficient) d.magnitude
  if negative then '-' :: body else body

/-- A binary number by its shortest decimal, a tie to the even digit. -/
def Binary.write {format : BinaryFormat} (layout : Layout) (b : Binary format) : List Char :=
  layout.write b.negative (b.shortest .even)

end MessageSchema
