import MessageSchema.Json.Printer
import MessageSchema.Json.Token

/-!
# Numbers as text

A number is written with characters of number literals only, and first of all a minus sign or a
digit (`Number.isNumeral_write`); so it is one token wherever it ends. An integer reads back as
itself (`Number.readBack?_int`).
-/

namespace MessageSchema

/-! ## Digits -/

/-- Only zero is written with a zero in front. -/
theorem eq_of_head?_digits {n : Nat} (h : (digits n).head? = some '0') : digits n = ['0'] := by
  fun_induction digits n with
  | case1 n hn => exact congrArg (· :: []) (Option.some.inj h)
  | case2 n hn ih =>
    -- the leading digit of a tenth, which is not zero
    obtain ⟨c, rest, hcs⟩ := List.exists_cons_of_ne_nil (digits_ne_nil (n / 10))
    rw [List.head?_append, hcs, List.head?_cons, Option.some_or, ← List.head?_cons, ← hcs] at h
    have hzero : n / 10 = 0 := by
      rw [← ofDigits_digits (n / 10), ih h]
      rfl
    omega

namespace Token

theorem isNumberChar_of_isDigit {c : Char} (h : c.isDigit = true) : isNumberChar c = true := by
  unfold isNumberChar
  rw [h]
  rfl

theorem not_isBlank_of_isNumberChar {c : Char} (h : isNumberChar c = true) : isBlank c = false := by
  unfold isBlank
  simp only [Bool.or_eq_false_iff, decide_eq_false_iff_not]
  refine ⟨⟨⟨?_, ?_⟩, ?_⟩, ?_⟩ <;> (rintro rfl; exact absurd h (by decide))

/-- Characters that start as a number does and go on as numbers do. -/
structure IsNumeral (cs : List Char) : Prop where
  all : ∀ c ∈ cs, isNumberChar c = true
  head : ∃ c, cs.head? = some c ∧ (c = '-' ∨ c.isDigit = true)

theorem isNumeral_digits (n : Nat) : IsNumeral (digits n) := by
  obtain ⟨c, rest, hcs⟩ := List.exists_cons_of_ne_nil (digits_ne_nil n)
  refine ⟨fun c hc => isNumberChar_of_isDigit (isDigit_of_mem_digits hc), c, ?_, .inr ?_⟩
  · rw [hcs]
    rfl
  · exact isDigit_of_mem_digits (hcs ▸ List.mem_cons_self)

/-- Whatever number characters follow, it remains a numeral. -/
theorem IsNumeral.append {cs more : List Char} (h : IsNumeral cs)
    (hmore : ∀ c ∈ more, isNumberChar c = true) : IsNumeral (cs ++ more) := by
  obtain ⟨c, hc, hfirst⟩ := h.head
  refine ⟨fun d hd => (List.mem_append.1 hd).elim (h.all d) (hmore d), c, ?_, hfirst⟩
  rw [List.head?_append, hc]
  rfl

theorem IsNumeral.neg {cs : List Char} (h : IsNumeral cs) : IsNumeral ('-' :: cs) :=
  ⟨List.forall_mem_cons.2 ⟨rfl, h.all⟩, '-', rfl, .inl rfl⟩

end Token

open Token

/-! ## Layouts -/

section Layout

variable {n : Nat}

theorem isNumeral_plain (n : Nat) (exponent : Int) : IsNumeral (plain (digits n) exponent) := by
  have hdigits : ∀ c ∈ digits n, isNumberChar c = true := (isNumeral_digits n).all
  have hzeros : ∀ k, ∀ c ∈ List.replicate k '0', isNumberChar c = true := fun k c hc =>
    List.eq_of_mem_replicate hc ▸ rfl
  unfold plain
  split
  · rw [List.append_assoc]
    refine (isNumeral_digits n).append fun c hc => ?_
    rcases List.mem_append.1 hc with hc | hc
    · exact hzeros _ c hc
    · exact List.all_eq_true.1 (rfl : ['.', '0'].all isNumberChar = true) c hc
  simp only
  split
  · -- at least one digit stands before the point
    next hplaces =>
    obtain ⟨c, rest, hcs⟩ := List.exists_cons_of_ne_nil (digits_ne_nil n)
    have htake : IsNumeral ((digits n).take ((digits n).length - (-exponent).toNat)) := by
      refine ⟨fun d hd => hdigits d (List.mem_of_mem_take hd), c, ?_, .inr ?_⟩
      · rw [List.head?_take, if_neg (by omega), hcs]
        rfl
      · exact isDigit_of_mem_digits (hcs ▸ List.mem_cons_self)
    refine htake.append (List.forall_mem_cons.2 ⟨rfl, fun d hd => ?_⟩)
    exact hdigits d (List.mem_of_mem_drop hd)
  · have hzero : IsNumeral ['0'] := ⟨List.all_eq_true.1 rfl, '0', rfl, .inr rfl⟩
    refine hzero.append (List.forall_mem_cons.2 ⟨rfl, fun d hd => ?_⟩)
    exact (List.mem_append.1 hd).elim (hzeros _ d) (hdigits d)

theorem isNumeral_scientific (n : Nat) (magnitude : Int) :
    IsNumeral (scientific (digits n) magnitude) := by
  obtain ⟨c, rest, hcs⟩ := List.exists_cons_of_ne_nil (digits_ne_nil n)
  have hdigits : ∀ d ∈ c :: rest, isNumberChar d = true := hcs ▸ (isNumeral_digits n).all
  have hfirst : IsNumeral [c] :=
    ⟨fun d hd => hdigits d (List.mem_singleton.1 hd ▸ List.mem_cons_self), c, rfl,
      .inr (isDigit_of_mem_digits (hcs ▸ List.mem_cons_self))⟩
  have hexponent : ∀ d ∈ 'e' :: (if magnitude < 0 then '-' else '+') :: digits magnitude.natAbs,
      isNumberChar d = true := by
    refine List.forall_mem_cons.2 ⟨rfl, List.forall_mem_cons.2 ⟨?_, (isNumeral_digits _).all⟩⟩
    split <;> rfl
  rw [hcs]
  unfold scientific
  rw [List.append_assoc]
  refine hfirst.append fun d hd => ?_
  rcases List.mem_append.1 hd with hd | hd
  · split at hd
    · cases hd
    · rcases List.mem_cons.1 hd with rfl | hd
      · rfl
      · exact hdigits d (List.mem_cons_of_mem _ hd)
  · exact hexponent d hd

theorem Layout.isNumeral_write (layout : Layout) (negative : Bool) (d : Decimal) :
    IsNumeral (layout.write negative d) := by
  have hbody : IsNumeral (if layout.leastPlain ≤ d.magnitude ∧ d.magnitude ≤ layout.greatestPlain
      then plain (digits d.coefficient) d.exponent
      else scientific (digits d.coefficient) d.magnitude) := by
    split
    · exact isNumeral_plain _ _
    · exact isNumeral_scientific _ _
  unfold Layout.write
  cases negative with
  | false => exact hbody
  | true => exact hbody.neg

end Layout

namespace Number

theorem isNumeral_write (n : Number) : IsNumeral n.write := by
  cases n with
  | int n =>
    change IsNumeral (writeInt n.val)
    unfold writeInt
    split
    · exact (isNumeral_digits _).neg
    · exact isNumeral_digits _
  | double d => exact Layout.isNumeral_write _ _ _
  | single s => exact Layout.isNumeral_write _ _ _

/-! ## Reading back -/

/-- What a number is read as where it has been written. -/
def readBack? [DecimalRounding] (n : Number) : Option Number :=
  (Literal.read? n.write).bind (·.value?)

/-- What is written is a number literal, whatever its value. -/
def IsLiteral (n : Number) : Prop := (Literal.read? n.write).isSome = true

end Number

theorem Literal.read?_writeInt (n : Int) :
    Literal.read? (writeInt n) = some ⟨decide (n < 0), digits n.natAbs, none, none⟩ := by
  obtain ⟨c, rest, hcs⟩ := List.exists_cons_of_ne_nil (digits_ne_nil n.natAbs)
  have hall : ∀ d ∈ digits n.natAbs, d.isDigit = true := fun d hd => isDigit_of_mem_digits hd
  have hdash : c ≠ '-' := by
    rintro rfl
    exact absurd (hall _ (hcs ▸ List.mem_cons_self)) (by decide)
  have hlead : ¬((digits n.natAbs) = [] ∨
      ((digits n.natAbs).head? = some '0' ∧ (digits n.natAbs) ≠ ['0'])) := by
    rintro (hnil | ⟨hhead, hne⟩)
    · exact digits_ne_nil _ hnil
    · exact hne (eq_of_head?_digits hhead)
  have htake : (digits n.natAbs).takeWhile Char.isDigit = digits n.natAbs := by
    rw [← List.append_nil (digits n.natAbs), List.takeWhile_append_of_pos hall]
    rfl
  have hdrop : (digits n.natAbs).dropWhile Char.isDigit = [] := by
    rw [← List.append_nil (digits n.natAbs), List.dropWhile_append_of_pos hall]
    rfl
  by_cases hn : n < 0
  · simp only [writeInt, hn, if_true, Literal.read?, htake, hdrop, hlead]
    rfl
  · have hsign : ∀ cs, digits n.natAbs = '-' :: cs → False := by
      rintro cs hdigits
      rw [hcs, List.cons.injEq] at hdigits
      exact hdash hdigits.1
    simp only [writeInt, hn, if_false, Literal.read?, htake, hdrop, hlead]
    rfl

namespace Number

/-- An integer reads back as itself. -/
theorem readBack?_int [DecimalRounding] (n : Integer) :
    (Number.int n).readBack? = some (.int n) := by
  have hread := Literal.read?_writeInt n.val
  have hvalue : Literal.integer? ⟨decide (n.val < 0), digits n.val.natAbs, none, none⟩ =
      some n := by
    have hcoefficient : ofDigits (digits n.val.natAbs ++ []) = n.val.natAbs := by
      rw [List.append_nil, ofDigits_digits]
    have hsigned : (if n.val < 0 then -(n.val.natAbs : Int) else n.val.natAbs) = n.val := by
      split <;> omega
    unfold Literal.integer? Literal.decimal
    simp only [Option.getD_none, hcoefficient, decide_eq_true_eq, hsigned, Ranged.ofInt?_val]
    rw [if_pos ⟨trivial, trivial, by omega⟩]
  unfold readBack?
  rw [show (Number.int n).write = writeInt n.val from rfl, hread, Option.bind_some, Literal.value?,
    hvalue]

theorem isLiteral_int (n : Integer) : (Number.int n).IsLiteral := by
  unfold IsLiteral
  rw [show (Number.int n).write = writeInt n.val from rfl, Literal.read?_writeInt]
  rfl

end Number

end MessageSchema
