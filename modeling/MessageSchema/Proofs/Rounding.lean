import MessageSchema.Number.Shortest
import Mathlib.Algebra.Order.Field.Power
import Mathlib.Tactic.Linarith
import Mathlib.Tactic.NormNum
import Mathlib.Tactic.Positivity
import Mathlib.Tactic.Ring

/-!
# Numbers within the range of a format

A fraction well below the greatest number of a format is rounded to a number of the format
(`exists_nearest?`), and so is a decimal (`exists_ofDecimal?`). The shortest decimal of a 32-bit
number is nowhere near the greatest 64-bit number, so every finite number of 32 bits is one of 64
bits too (`Floating.exists_toDouble?`).
-/

namespace MessageSchema

/-! ## Powers of two with a sign -/

theorem two_zpow_mul_toNat (e : ℤ) : (2 : ℚ) ^ e * 2 ^ (-e).toNat = 2 ^ e.toNat := by
  obtain ⟨n, rfl | rfl⟩ := e.eq_nat_or_neg
  · rw [zpow_natCast, Int.toNat_natCast, Int.toNat_eq_zero.2 (by omega), pow_zero, mul_one]
  · rw [neg_neg, Int.toNat_natCast, Int.toNat_eq_zero.2 (by omega), zpow_neg, zpow_natCast,
      inv_mul_cancel₀ (by positivity), pow_zero]

/-- A fraction is below a power of two. -/
theorem mul_toNat_lt_iff {a b : ℕ} {e : ℤ} :
    a * 2 ^ (-e).toNat < b * 2 ^ e.toNat ↔ (a : ℚ) < b * 2 ^ e := by
  have hpos : (0 : ℚ) < 2 ^ (-e).toNat := by positivity
  rw [← Nat.cast_lt (α := ℚ), ← mul_lt_mul_iff_left₀ hpos (b := (a : ℚ)), mul_assoc,
    two_zpow_mul_toNat]
  push_cast
  rfl

namespace Binary

variable {format : BinaryFormat} {numerator denominator : ℕ}

/-! ## Rounding a fraction -/

/-- How often two to the `exponent` goes into a fraction. -/
def wholeAt (numerator denominator : ℕ) (exponent : ℤ) : ℕ :=
  numerator * 2 ^ (-exponent).toNat / (denominator * 2 ^ exponent.toNat)

/-- The first exponent that a fraction is tried with. -/
def candidate (format : BinaryFormat) (numerator denominator : ℕ) : ℤ :=
  max format.leastExponent (numerator.log2 - denominator.log2 - format.precision)

/-- The exponent that a fraction is rounded at. -/
def exponentFor (format : BinaryFormat) (numerator denominator : ℕ) : ℤ :=
  let first := candidate format numerator denominator
  if wholeAt numerator denominator first < 2 ^ format.precision then first else first + 1

/-- The whole number that is nearest to a fraction at an exponent, a tie to the even one. -/
def roundedAt (numerator denominator : ℕ) (exponent : ℤ) : ℕ :=
  let whole := wholeAt numerator denominator exponent
  let divisor := denominator * 2 ^ exponent.toNat
  let rest := numerator * 2 ^ (-exponent).toNat % divisor
  if divisor < 2 * rest ∨ (divisor = 2 * rest ∧ whole % 2 = 1) then whole + 1 else whole

theorem nearest?_eq (negative : Bool) (numerator denominator : ℕ) :
    (nearest? negative numerator denominator : Option (Binary format)) =
      let exponent := exponentFor format numerator denominator
      let rounded := roundedAt numerator denominator exponent
      if rounded = 2 ^ format.precision then
        ofParts? negative (2 ^ (format.precision - 1)) (exponent + 1)
      else ofParts? negative rounded exponent := rfl

theorem wholeAt_le_roundedAt (numerator denominator : ℕ) (e : ℤ) :
    wholeAt numerator denominator e ≤ roundedAt numerator denominator e ∧
      roundedAt numerator denominator e ≤ wholeAt numerator denominator e + 1 := by
  unfold roundedAt
  simp only
  split <;> omega

theorem wholeAt_lt_iff (hd : denominator ≠ 0) {e : ℤ} {p : ℕ} :
    wholeAt numerator denominator e < 2 ^ p ↔ (numerator : ℚ) < denominator * 2 ^ (p + e) := by
  have hpos : 0 < denominator * 2 ^ e.toNat := by positivity
  have hcast : (denominator : ℚ) * 2 ^ (p + e) = (2 ^ p * denominator : ℕ) * 2 ^ e := by
    rw [zpow_add₀ two_ne_zero, zpow_natCast]
    push_cast
    ring
  rw [wholeAt, Nat.div_lt_iff_lt_mul hpos, ← mul_assoc, mul_toNat_lt_iff, hcast]

theorem lt_two_zpow_scale (hd : denominator ≠ 0) :
    (numerator : ℚ) < denominator * 2 ^ (numerator.log2 - denominator.log2 + 1 : ℤ) := by
  have hn : (numerator : ℚ) < 2 ^ (numerator.log2 + 1) := by exact_mod_cast Nat.lt_log2_self
  have hd' : (2 : ℚ) ^ denominator.log2 ≤ denominator := by exact_mod_cast Nat.log2_self_le hd
  calc (numerator : ℚ) < 2 ^ (numerator.log2 + 1) := hn
    _ = 2 ^ denominator.log2 * 2 ^ (numerator.log2 - denominator.log2 + 1 : ℤ) := by
      rw [← zpow_natCast, ← zpow_natCast, ← zpow_add₀ two_ne_zero]
      congr 1
      push_cast
      ring
    _ ≤ _ := by gcongr

theorem two_zpow_scale_le (hn : numerator ≠ 0) :
    (denominator : ℚ) * 2 ^ (numerator.log2 - denominator.log2 - 1 : ℤ) ≤ numerator := by
  have hn' : (2 : ℚ) ^ numerator.log2 ≤ numerator := by exact_mod_cast Nat.log2_self_le hn
  have hd : (denominator : ℚ) ≤ 2 ^ (denominator.log2 + 1) := by
    exact_mod_cast Nat.lt_log2_self.le
  calc (denominator : ℚ) * 2 ^ (numerator.log2 - denominator.log2 - 1 : ℤ)
      ≤ 2 ^ (denominator.log2 + 1) * 2 ^ (numerator.log2 - denominator.log2 - 1 : ℤ) := by gcongr
    _ = 2 ^ numerator.log2 := by
      rw [← zpow_natCast, ← zpow_natCast, ← zpow_add₀ two_ne_zero]
      congr 1
      push_cast
      ring
    _ ≤ _ := hn'

/-- At its exponent a fraction has a whole part of the precision of the format, or the exponent is
the least. -/
theorem wholeAt_exponentFor (hp : 0 < format.precision) (hn : numerator ≠ 0)
    (hd : denominator ≠ 0) {e : ℤ} (he : e = exponentFor format numerator denominator) :
    wholeAt numerator denominator e < 2 ^ format.precision ∧
      (2 ^ (format.precision - 1) ≤ wholeAt numerator denominator e ∨
        e = format.leastExponent) := by
  have hbelow : ∀ {e : ℤ}, (numerator.log2 - denominator.log2 + 1 : ℤ) ≤ format.precision + e →
      wholeAt numerator denominator e < 2 ^ format.precision := fun hle => by
    refine (wholeAt_lt_iff hd).2 ((lt_two_zpow_scale hd).trans_le ?_)
    have hmono := zpow_le_zpow_right₀ (one_le_two (α := ℚ)) hle
    gcongr
  obtain ⟨first, hfirst⟩ : ∃ first, first = candidate format numerator denominator := ⟨_, rfl⟩
  rw [exponentFor, ← hfirst] at he
  rw [candidate] at hfirst
  split at he
  · next hlt =>
    subst he
    refine ⟨hlt, ?_⟩
    by_contra hnot
    obtain ⟨hsmall, hleast⟩ := not_or.1 hnot
    have hsmall' := (wholeAt_lt_iff hd).1 (not_le.1 hsmall)
    have hscale : ((format.precision - 1 : ℕ) + e : ℤ) =
        numerator.log2 - denominator.log2 - 1 := by omega
    rw [hscale] at hsmall'
    exact absurd (two_zpow_scale_le hn) (not_le.2 hsmall')
  · next hnot =>
    -- the first exponent is not the least, for there the whole part is small enough
    have hscale : first = numerator.log2 - denominator.log2 - format.precision := by
      by_contra hne
      exact hnot (hbelow (by omega))
    refine ⟨hbelow (by omega), .inl (not_lt.1 fun hsmall => hnot ?_)⟩
    have hsmall' := (wholeAt_lt_iff hd).1 hsmall
    have hsame : ((format.precision - 1 : ℕ) + e : ℤ) = format.precision + first := by omega
    rw [hsame] at hsmall'
    exact (wholeAt_lt_iff hd).2 hsmall'

theorem exponentFor_bounds {k : ℕ} (h : numerator ≤ 2 ^ k * denominator) (hn : numerator ≠ 0)
    (hk : (k : ℤ) + 2 ≤ format.greatestExponent + format.precision)
    (hrange : format.leastExponent + 2 ≤ format.greatestExponent) {e : ℤ}
    (he : e = exponentFor format numerator denominator) :
    format.leastExponent ≤ e ∧ e + 1 ≤ format.greatestExponent := by
  have hlog : numerator.log2 ≤ k + denominator.log2 := by
    have hlt : 2 ^ numerator.log2 < 2 ^ (k + (denominator.log2 + 1)) := by
      calc 2 ^ numerator.log2 ≤ numerator := Nat.log2_self_le hn
        _ ≤ 2 ^ k * denominator := h
        _ < 2 ^ k * 2 ^ (denominator.log2 + 1) := by
          gcongr
          exact Nat.lt_log2_self
        _ = _ := (pow_add ..).symm
    have hexp := (Nat.pow_lt_pow_iff_right one_lt_two).1 hlt
    omega
  rw [exponentFor, candidate] at he
  split at he <;> omega

theorem exists_ofParts? (negative : Bool) {mantissa : ℕ} {exponent : ℤ}
    (h : format.Canonical mantissa exponent) :
    ∃ b : Binary format, ofParts? negative mantissa exponent = some b :=
  ⟨_, dif_pos h⟩

/-- A fraction that is well below the greatest number is rounded. -/
theorem exists_nearest? (negative : Bool) {k : ℕ} (h : numerator ≤ 2 ^ k * denominator)
    (hn : numerator ≠ 0) (hd : denominator ≠ 0) (hp : 0 < format.precision)
    (hk : (k : ℤ) + 2 ≤ format.greatestExponent + format.precision)
    (hrange : format.leastExponent + 2 ≤ format.greatestExponent) :
    ∃ b : Binary format, nearest? negative numerator denominator = some b := by
  obtain ⟨e, he⟩ : ∃ e, e = exponentFor format numerator denominator := ⟨_, rfl⟩
  obtain ⟨hwhole, hprecise⟩ := wholeAt_exponentFor hp hn hd he
  obtain ⟨hleast, hgreatest⟩ := exponentFor_bounds h hn hk hrange he
  obtain ⟨hle, hle'⟩ := wholeAt_le_roundedAt numerator denominator e
  rw [nearest?_eq, ← he]
  simp only
  split
  · refine exists_ofParts? negative ⟨?_, by omega, hgreatest, .inl le_rfl⟩
    exact Nat.pow_lt_pow_right one_lt_two (by omega)
  · next hne =>
    refine exists_ofParts? negative ⟨?_, hleast, by omega, ?_⟩
    · show roundedAt numerator denominator e < 2 ^ format.precision
      omega
    · exact hprecise.imp_left fun hwhole' => hwhole'.trans hle

end Binary

/-! ## Decimals -/

theorem pow_digitCount_le {n : ℕ} (h : n ≠ 0) : 10 ^ (digitCount n - 1) ≤ n := by
  unfold digitCount
  fun_induction digits n with
  | case1 n _ =>
    simp only [List.length_singleton, Nat.sub_self, pow_zero]
    omega
  | case2 n hn ih =>
    have hrest := ih (by omega)
    have hpos : 0 < (digits (n / 10)).length := List.length_pos_iff.2 (digits_ne_nil _)
    rw [List.length_append, List.length_singleton, Nat.add_sub_cancel]
    calc 10 ^ (digits (n / 10)).length
        = 10 ^ ((digits (n / 10)).length - 1) * 10 := by
          rw [← pow_succ]
          congr 1
          omega
      _ ≤ n / 10 * 10 := by gcongr
      _ ≤ n := Nat.div_mul_le_self n 10

namespace Decimal

variable {d : Decimal} {bound : ℕ}

/-- The number is not above a bound. -/
def AtMost (d : Decimal) (bound : ℕ) : Prop :=
  d.coefficient * 10 ^ d.exponent.toNat ≤ bound * 10 ^ (-d.exponent).toNat

theorem AtMost.trim (h : d.AtMost bound) : d.trim.AtMost bound := by
  fun_induction Decimal.trim d with
  | case1 d hzeros ih =>
    refine ih ?_
    obtain ⟨c, hc⟩ : ∃ c, d.coefficient = c * 10 := ⟨d.coefficient / 10, by omega⟩
    have hdiv : d.coefficient / 10 = c := by omega
    unfold AtMost at h ⊢
    rw [hc] at h
    simp only [hdiv]
    by_cases he : 0 ≤ d.exponent
    · have hpos : (d.exponent + 1).toNat = d.exponent.toNat + 1 := by omega
      have hneg : (-(d.exponent + 1)).toNat = (-d.exponent).toNat := by omega
      rw [hpos, hneg, pow_succ']
      linarith
    · have hpos : (d.exponent + 1).toNat = d.exponent.toNat := by omega
      have hneg : (-d.exponent).toNat = (-(d.exponent + 1)).toNat + 1 := by omega
      rw [hneg, pow_succ'] at h
      rw [hpos]
      linarith
  | case2 d _ => exact h

theorem AtMost.magnitude_le {k : ℕ} (h : d.AtMost (10 ^ k)) (hc : d.coefficient ≠ 0) :
    d.magnitude ≤ k := by
  have hpow : 10 ^ (digitCount d.coefficient - 1 + d.exponent.toNat) ≤
      10 ^ (k + (-d.exponent).toNat) := by
    calc 10 ^ (digitCount d.coefficient - 1 + d.exponent.toNat)
        = 10 ^ (digitCount d.coefficient - 1) * 10 ^ d.exponent.toNat := pow_add ..
      _ ≤ d.coefficient * 10 ^ d.exponent.toNat := by
          gcongr
          exact pow_digitCount_le hc
      _ ≤ 10 ^ k * 10 ^ (-d.exponent).toNat := h
      _ = _ := (pow_add ..).symm
  have hexp := (Nat.pow_le_pow_iff_right (by decide)).1 hpow
  unfold magnitude
  omega

end Decimal

namespace Binary

/-- A decimal that is well below the greatest 64-bit number is rounded to one. -/
theorem exists_ofDecimal? (negative : Bool) {d : Decimal} (h : d.AtMost (2 ^ 129)) :
    ∃ b : Binary .double, ofDecimal? negative d = some b := by
  have hcanonical : BinaryFormat.double.Canonical 0 BinaryFormat.double.leastExponent := by decide
  have hzero : ∃ b : Binary .double, ofRatio? negative 0 1 = some b :=
    exists_ofParts? negative hcanonical
  unfold ofDecimal?
  split
  · exact hzero
  next hc =>
  split
  · next hlarge =>
    have hmagnitude : d.magnitude ≤ 39 := by
      refine Decimal.AtMost.magnitude_le (h.trans (Nat.mul_le_mul_right _ ?_)) hc
      norm_num
    simp only [BinaryFormat.double] at hlarge
    omega
  split
  · exact hzero
  have hnumerator : d.coefficient * 10 ^ d.exponent.toNat ≠ 0 := by positivity
  obtain ⟨b, hb⟩ : ∃ b : Binary .double, nearest? negative _ _ = some b :=
    exists_nearest? negative h hnumerator (by positivity) (by decide) (by decide) (by decide)
  exact ⟨b, (if_neg hnumerator).trans hb⟩

/-! ## Shortest decimals -/

/-- What is found on a grid is at most the greatest number that rounds to the same. -/
theorem onGrid?_le {format : BinaryFormat} {tie : Tie} {b : Binary format} {grid : ℤ} {c : ℕ}
    (h : b.onGrid? tie grid = some c) :
    c * (10 ^ grid.toNat * 2 ^ (-(b.exponent - 2)).toNat) ≤
      b.neighbourhood.greatest * (2 ^ (b.exponent - 2).toNat * 10 ^ (-grid).toNat) := by
  unfold onGrid? at h
  extract_lets around quarter point unit inside below above at h
  have hinside : ∀ c, inside c = true → c * point ≤ around.greatest * unit := by
    intro c hc
    simp only [inside] at hc
    split at hc
    · exact (of_decide_eq_true hc).2
    · exact (of_decide_eq_true hc).2.le
  refine hinside c ?_
  split at h
  · next hbelow =>
    split at h
    · next habove =>
      rw [← Option.some.inj h]
      split
      · exact habove
      · exact hbelow
    · exact Option.some.inj h ▸ hbelow
  · split at h
    · next habove => exact Option.some.inj h ▸ habove
    · cases h

theorem shortest_atMost (tie : Tie) (b : Binary .single) : (b.shortest tie).AtMost (2 ^ 129) := by
  have hnone : (⟨0, 0⟩ : Decimal).AtMost (2 ^ 129) := by
    unfold Decimal.AtMost
    positivity
  unfold shortest
  split
  · exact hnone
  refine Decimal.AtMost.trim ?_
  cases hfound : (List.range BinaryFormat.single.precision).findSome? fun (extra : ℕ) =>
      (b.onGrid? tie (leadingExponent b.ratio.1 b.ratio.2 - extra)).map
        (Decimal.mk · (leadingExponent b.ratio.1 b.ratio.2 - extra)) with
  | none => exact hnone
  | some d =>
    obtain ⟨extra, -, hextra⟩ := List.exists_of_findSome?_eq_some hfound
    obtain ⟨c, hc, rfl⟩ := Option.map_eq_some_iff.1 hextra
    have hle := onGrid?_le hc
    -- in quarters of its last bit the number is below `2 ^ 27`, and a quarter is at most `2 ^ 102`
    generalize leadingExponent b.ratio.1 b.ratio.2 - extra = grid at hle
    have hmantissa : b.mantissa < 2 ^ 24 := b.canonical.1
    have hexponent : (b.exponent - 2).toNat ≤ 102 := by
      have hgreatest : b.exponent ≤ 104 := b.canonical.2.2.1
      omega
    show c * 10 ^ grid.toNat ≤ 2 ^ 129 * 10 ^ (-grid).toNat
    calc c * 10 ^ grid.toNat
        ≤ c * (10 ^ grid.toNat * 2 ^ (-(b.exponent - 2)).toNat) := by
          gcongr
          exact Nat.le_mul_of_pos_right _ (by positivity)
      _ ≤ (4 * b.mantissa + 2) * (2 ^ (b.exponent - 2).toNat * 10 ^ (-grid).toNat) := hle
      _ ≤ 2 ^ 27 * (2 ^ 102 * 10 ^ (-grid).toNat) := by
          gcongr
          · omega
          · exact one_le_two
      _ = 2 ^ 129 * 10 ^ (-grid).toNat := by rw [← mul_assoc, ← pow_add]

end Binary

/-- Every finite number of 32 bits is one of 64 bits. -/
theorem Floating.exists_toDouble? (value : Binary .single) :
    ∃ d, (finite value).toDouble? = some d :=
  Binary.exists_ofDecimal? value.negative (value.shortest_atMost .up)

end MessageSchema
