/-!
# Decimal digits

Natural numbers and their decimal digits, and exact decimal numbers: a natural number times a
power of ten. Main statement: reading the digits of a number gives the number back
(`ofDigits_digits`).
-/

namespace MessageSchema

namespace Digit

/-- The digit written for a number below ten. -/
def char (d : Nat) : Char := Char.ofNat (48 + d)

/-- The value of a digit character. -/
def value (c : Char) : Nat := c.toNat - 48

theorem value_char {d : Nat} (h : d < 10) : value (char d) = d := by
  have : ∀ d, d < 10 → value (char d) = d := by decide
  exact this d h

theorem isDigit_char {d : Nat} (h : d < 10) : (char d).isDigit = true := by
  have : ∀ d, d < 10 → (char d).isDigit = true := by decide
  exact this d h

end Digit

/-- The decimal digits of a number, without leading zeros; zero has one digit. -/
def digits (n : Nat) : List Char :=
  if n < 10 then [Digit.char n] else digits (n / 10) ++ [Digit.char (n % 10)]

/-- The number that a list of digits spells. -/
def ofDigits (cs : List Char) : Nat :=
  cs.foldl (fun n c => n * 10 + Digit.value c) 0

theorem ofDigits_append_singleton (cs : List Char) (c : Char) :
    ofDigits (cs ++ [c]) = ofDigits cs * 10 + Digit.value c := by
  simp [ofDigits]

theorem ofDigits_digits (n : Nat) : ofDigits (digits n) = n := by
  fun_induction digits n with
  | case1 n h => simp [ofDigits, Digit.value_char h]
  | case2 n h ih =>
    rw [ofDigits_append_singleton, ih, Digit.value_char (Nat.mod_lt n (by decide))]
    omega

theorem digits_ne_nil (n : Nat) : digits n ≠ [] := by
  rw [digits]; split <;> simp

theorem isDigit_of_mem_digits {n : Nat} {c : Char} (h : c ∈ digits n) : c.isDigit = true := by
  fun_induction digits n with
  | case1 n hn => simp at h; exact h ▸ Digit.isDigit_char hn
  | case2 n hn ih =>
    rcases List.mem_append.1 h with h | h
    · exact ih h
    · simp at h; exact h ▸ Digit.isDigit_char (Nat.mod_lt n (by decide))

/-- How many decimal digits a number has. -/
def digitCount (n : Nat) : Nat := (digits n).length

/-- A non-negative decimal number: `coefficient` times ten to the `exponent`. -/
structure Decimal where
  coefficient : Nat
  exponent : Int
  deriving DecidableEq

/-- The exponent of the leading digit when one digit is put before the point. -/
def Decimal.magnitude (d : Decimal) : Int :=
  digitCount d.coefficient - 1 + d.exponent

/-- The same number without zeros at the end of its coefficient. -/
def Decimal.trim (d : Decimal) : Decimal :=
  if d.coefficient ≠ 0 ∧ d.coefficient % 10 = 0 then
    Decimal.trim ⟨d.coefficient / 10, d.exponent + 1⟩
  else d
termination_by d.coefficient
decreasing_by omega

end MessageSchema
