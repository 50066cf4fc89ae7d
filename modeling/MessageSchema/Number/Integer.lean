/-!
# Integers of a fixed range

Descriptors hold whole numbers of four widths, and JSON as it is read here holds whole numbers
between the least signed and the greatest unsigned number of 64 bits. All are integers with two
bounds carried by the type, so that a value which decodes is in range for good, and moving to a
wider range needs no check (`Ranged.widen`).
-/

namespace MessageSchema

/-- An integer between two bounds, both included. -/
structure Ranged (least greatest : Int) where
  val : Int
  least_le : least ≤ val
  le_greatest : val ≤ greatest
  deriving DecidableEq

/-- Whole numbers of 32 bits with a sign. -/
abbrev Signed32 := Ranged (-2147483648) 2147483647

/-- Whole numbers of 32 bits without a sign. -/
abbrev Unsigned32 := Ranged 0 4294967295

/-- Whole numbers of 64 bits with a sign. -/
abbrev Signed64 := Ranged (-9223372036854775808) 9223372036854775807

/-- Whole numbers of 64 bits without a sign. -/
abbrev Unsigned64 := Ranged 0 18446744073709551615

/-- The whole numbers that JSON text writes as integers: all of `Signed64` and of `Unsigned64`. -/
abbrev Integer := Ranged (-9223372036854775808) 18446744073709551615

namespace Ranged

variable {least greatest : Int}

theorem ext {a b : Ranged least greatest} (h : a.val = b.val) : a = b := by
  cases a; cases b; simp_all

/-- The given integer, if it is within the bounds. -/
def ofInt? (n : Int) : Option (Ranged least greatest) :=
  if h : least ≤ n ∧ n ≤ greatest then some ⟨n, h.1, h.2⟩ else none

@[simp] theorem ofInt?_val (a : Ranged least greatest) : ofInt? a.val = some a := by
  simp [ofInt?, a.least_le, a.le_greatest]

/-- The same integer under wider bounds. -/
def widen {least' greatest' : Int} (a : Ranged least greatest)
    (hl : least' ≤ least) (hg : greatest ≤ greatest') :
    Ranged least' greatest' :=
  ⟨a.val, Int.le_trans hl a.least_le, Int.le_trans a.le_greatest hg⟩

@[simp] theorem widen_val {least' greatest' : Int} (a : Ranged least greatest)
    (hl : least' ≤ least) (hg : greatest ≤ greatest') : (a.widen hl hg).val = a.val := rfl

end Ranged

/-! Numbers of each width are integers of JSON text. -/

def Signed32.toInteger (n : Signed32) : Integer := n.widen (by decide) (by decide)

def Unsigned32.toInteger (n : Unsigned32) : Integer := n.widen (by decide) (by decide)

def Signed64.toInteger (n : Signed64) : Integer := n.widen (by decide) (by decide)

def Unsigned64.toInteger (n : Unsigned64) : Integer := n.widen (by decide) (by decide)

/-- A count as a JSON integer; beyond the greatest integer it stays there. -/
def Integer.ofNat (n : Nat) : Integer :=
  ⟨min (n : Int) 18446744073709551615, by omega, by omega⟩

end MessageSchema
