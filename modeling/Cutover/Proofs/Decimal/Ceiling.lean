import Cutover.Resource.Page
import Mathlib.Algebra.Group.Nat.Defs

/-!
# Quotients rounded up

A quotient of two whole numbers that is rounded up has been rounded before, to the nearest number with a mantissa of 53
bits. Where the two have no more bits themselves nothing is lost: a quotient that is not whole keeps its distance from
the whole number below it.

* `roundHalfEven_le_of_le`, `lt_roundHalfEven`: what a rounded quotient stays within;
* `Double.ofRatio_eq`: **how a quotient of such numbers is rounded**, to a full mantissa;
* `Quantity.ceiling_dividedBy`: rounded up after that, it is the quotient rounded up.
-/

namespace Cutover

variable {num den count bits : Nat}

/-- Rounding goes no further up than a whole number that the quotient does not pass. -/
theorem roundHalfEven_le_of_le (hden : 0 < den) (h : num ≤ count * den) : roundHalfEven num den ≤ count := by
  have hdivision := Nat.div_add_mod' num den
  have hmod := Nat.mod_lt num hden
  have hfloor : num / den ≤ count := Nat.div_le_of_le_mul (Nat.mul_comm den count ▸ h)
  unfold roundHalfEven
  dsimp only
  -- only a rest is rounded up, and where there is one the quotient rounded down lies below
  rcases Nat.lt_or_eq_of_le hfloor with hlt | rfl
  · repeat' split
    all_goals omega
  · exact Nat.le_of_eq (if_pos (by omega))

/-- Rounding goes up from a whole number that the quotient passes by more than a half. -/
theorem lt_roundHalfEven (hden : 0 < den) (h : 2 * (count * den) + den < 2 * num) : count < roundHalfEven num den := by
  have hfloor : count ≤ num / den := (Nat.le_div_iff_mul_le hden).mpr (by omega)
  rcases Nat.lt_or_eq_of_le hfloor with hlt | rfl
  · exact Nat.lt_of_lt_of_le hlt (div_le_roundHalfEven num den)
  · have hdivision := Nat.div_add_mod' num den
    unfold roundHalfEven
    dsimp only
    rw [if_neg (by omega), if_pos (by omega)]
    exact Nat.lt_succ_self _

namespace Double

theorem fills_neg : fills num den (-(bits : Int)) = true ↔ 2 ^ 52 * den ≤ num * 2 ^ bits := by
  unfold fills
  rw [decide_eq_true_iff, Int.neg_neg, Int.toNat_natCast, show (-(bits : Int)).toNat = 0 by omega]
  show 2 ^ 52 * (den * 2 ^ 0) ≤ num * 2 ^ bits ↔ _
  rw [Nat.pow_zero, Nat.mul_one]

theorem inUnits_neg : inUnits num den (-(bits : Int)) = roundHalfEven (num * 2 ^ bits) den := by
  unfold inUnits
  rw [Int.neg_neg, Int.toNat_natCast, show (-(bits : Int)).toNat = 0 by omega]
  show roundHalfEven (num * 2 ^ bits) (den * 2 ^ 0) = _
  rw [Nat.pow_zero, Nat.mul_one]

theorem fills_log2 (hnum : num ≠ 0) (hbits : bits + num.log2 = den.log2 + 53) : 2 ^ 52 * den ≤ num * 2 ^ bits := by
  have hden : den < 2 ^ (den.log2 + 1) := Nat.lt_log2_self
  calc 2 ^ 52 * den ≤ 2 ^ 52 * 2 ^ (den.log2 + 1) := Nat.mul_le_mul_left _ (Nat.le_of_lt hden)
    _ = 2 ^ num.log2 * 2 ^ bits := by rw [← Nat.pow_add, ← Nat.pow_add]; congr 1; omega
    _ ≤ num * 2 ^ bits := Nat.mul_le_mul_right _ (Nat.log2_self_le hnum)

/-- The units that are taken for a quotient of numbers of at most 53 bits are not above one. -/
theorem exists_units (hnum : 0 < num) (hnum' : num < 2 ^ 53) (hden' : den ≤ 2 ^ 53) :
    ∃ bits : Nat, 2 ^ 52 * den ≤ num * 2 ^ bits ∧
      max leastExponent (if fills num den ((num.log2 : Int) - den.log2 - 52) then (num.log2 : Int) - den.log2 - 52
        else (num.log2 : Int) - den.log2 - 52 - 1) = -(bits : Int) := by
  have hnum0 : num ≠ 0 := Nat.ne_of_gt hnum
  have hlog : num.log2 < 53 := (Nat.log2_lt hnum0).mpr hnum'
  have hlog' : den.log2 ≤ 53 := by
    rcases Nat.eq_zero_or_pos den with rfl | hden
    · decide
    · exact Nat.lt_succ_iff.mp ((Nat.log2_lt (Nat.ne_of_gt hden)).mpr (by omega))
  obtain ⟨tried, htried⟩ : ∃ tried : Nat, (num.log2 : Int) - den.log2 - 52 = -(tried : Int) :=
    ⟨den.log2 + 52 - num.log2, by omega⟩
  rw [htried]
  by_cases hfills : fills num den (-(tried : Int)) = true
  · refine ⟨tried, fills_neg.mp hfills, ?_⟩
    rw [if_pos hfills, leastExponent]
    omega
  · refine ⟨tried + 1, fills_log2 hnum0 (by omega), ?_⟩
    rw [if_neg hfills, leastExponent]
    omega

/-- **How a quotient of numbers of at most 53 bits is rounded**: in units in which it has a full mantissa. Where it is
rounded up to one bit more, the units are doubled. -/
theorem ofRatio_eq (hnum : 0 < num) (hnum' : num < 2 ^ 53) (hden : 0 < den) (hden' : den ≤ 2 ^ 53) :
    ∃ bits : Nat, 2 ^ 52 * den ≤ num * 2 ^ bits ∧
      (ofRatio false num den = .finite false (roundHalfEven (num * 2 ^ bits) den) (-(bits : Int)) ∨
        ∃ fewer, bits = fewer + 1 ∧ roundHalfEven (num * 2 ^ bits) den = 2 ^ 53 ∧
          ofRatio false num den = .finite false (2 ^ 52) (-(fewer : Int))) := by
  obtain ⟨bits, hfills, hunits⟩ := exists_units hnum hnum' hden'
  refine ⟨bits, hfills, ?_⟩
  have hratio : ofRatio false num den =
      if roundHalfEven (num * 2 ^ bits) den = 2 ^ 53 then .finite false (2 ^ 52) (-(bits : Int) + 1)
      else .finite false (roundHalfEven (num * 2 ^ bits) den) (-(bits : Int)) := by
    unfold ofRatio
    simp only [if_neg (Nat.ne_of_gt hnum), hunits, inUnits_neg, Nat.pow_eq]
    split
    · exact if_neg (by rw [greatestExponent]; omega)
    · exact if_neg (by rw [greatestExponent]; omega)
  by_cases hup : roundHalfEven (num * 2 ^ bits) den = 2 ^ 53
  · rw [if_pos hup] at hratio
    cases bits with
    | zero =>
      -- a quotient that has a full mantissa in whole units is a whole number
      rw [Nat.pow_zero, Nat.mul_one] at hfills hup
      obtain rfl : den = 1 := by omega
      rw [roundHalfEven_one] at hup
      omega
    | succ fewer =>
      rw [show -((fewer + 1 : Nat) : Int) + 1 = -(fewer : Int) by omega] at hratio
      exact .inr ⟨fewer, rfl, hup, hratio⟩
  · exact .inl (by rw [hratio, if_neg hup])

theorem ceiling_finite {mantissa : Nat} (hlow : count * 2 ^ bits < mantissa) (hhigh : mantissa ≤ (count + 1) * 2 ^ bits) :
    (finite false mantissa (-(bits : Int))).ceiling = .ok ((count + 1 : Nat) : Int) := by
  have hratio : ratio mantissa (-(bits : Int)) = (mantissa, 2 ^ bits) := by
    unfold ratio
    rw [Int.neg_neg, Int.toNat_natCast, show (-(bits : Int)).toNat = 0 by omega]
    simp only [Nat.pow_eq, Nat.pow_zero, Nat.mul_one]
  have hpos : (0 : Int) < ((2 ^ bits : Nat) : Int) := Int.natCast_pos.mpr (Nat.two_pow_pos bits)
  have hup : (-(mantissa : Int)) / ((2 ^ bits : Nat) : Int) = -((count + 1 : Nat) : Int) := by
    have hlow' := Int.ofNat_lt.mpr hlow
    have hhigh' := Int.ofNat_le.mpr hhigh
    rw [Int.natCast_mul] at hlow' hhigh'
    refine Int.le_antisymm (Int.lt_add_one_iff.mp ((Int.ediv_lt_iff_lt_mul hpos).mpr ?_))
      ((Int.le_ediv_iff_mul_le hpos).mpr ?_)
    · rw [show -((count + 1 : Nat) : Int) + 1 = -(count : Int) by omega, Int.neg_mul]
      omega
    · rw [Int.neg_mul]
      omega
  simp only [ceiling, ceiling?, toRatio?, hratio, Option.map_some, Bool.false_eq_true, if_false, hup, Int.neg_neg]

/-- **A quotient of numbers of at most 53 bits, rounded and rounded up after that**, is the quotient rounded up. -/
theorem ceiling_ofRatio (hnum : 0 < num) (hnum' : num < 2 ^ 53) (hden : 0 < den) (hden' : den ≤ 2 ^ 53)
    (hlow : count * den < num) (hhigh : num ≤ (count + 1) * den) : (ofRatio false num den).ceiling = .ok ((count + 1 : Nat) : Int) := by
  obtain ⟨bits, hfills, hrounded⟩ := ofRatio_eq hnum hnum' hden hden'
  have hpos : 0 < 2 ^ bits := Nat.two_pow_pos bits
  -- a quotient that is not whole passes the whole number below it by more than half a unit
  have hfine : den < 2 * 2 ^ bits := by
    have hbound : num * 2 ^ bits < 2 ^ 53 * 2 ^ bits := Nat.mul_lt_mul_of_pos_right hnum' hpos
    omega
  have hmore : count * 2 ^ bits < roundHalfEven (num * 2 ^ bits) den := by
    refine lt_roundHalfEven hden ?_
    have hstep : (count * den + 1) * 2 ^ bits ≤ num * 2 ^ bits := Nat.mul_le_mul_right _ hlow
    rw [Nat.add_mul, Nat.one_mul, Nat.mul_right_comm] at hstep
    omega
  have hatMost : roundHalfEven (num * 2 ^ bits) den ≤ (count + 1) * 2 ^ bits := by
    refine roundHalfEven_le_of_le hden ?_
    rw [Nat.mul_right_comm]
    exact Nat.mul_le_mul_right _ hhigh
  rcases hrounded with hratio | ⟨fewer, rfl, hup, hratio⟩
  · rw [hratio]
    exact ceiling_finite hmore hatMost
  · have hdouble : 2 ^ (fewer + 1) = 2 * 2 ^ fewer := Nat.pow_succ'
    rw [hup, hdouble, Nat.mul_left_comm] at hmore hatMost
    rw [hratio]
    exact ceiling_finite (by omega) (by omega)

end Double

namespace Quantity

theorem wholeQuotient_natCast (hnum : 0 < num) (hnum' : num < 2 ^ 53) (hden : 0 < den) (hden' : den ≤ 2 ^ 53) :
    wholeQuotient num den = .ok (.ofRatio false num den) := by
  have hsigns : (decide ((num : Int) < 0) != decide ((den : Int) < 0)) = false := by
    rw [decide_eq_false (by omega), decide_eq_false (by omega)]
    rfl
  unfold wholeQuotient
  rw [if_neg (by omega), hsigns, Int.natAbs_natCast, Int.natAbs_natCast]
  obtain ⟨bits, -, hratio | ⟨fewer, -, -, hratio⟩⟩ := Double.ofRatio_eq hnum hnum' hden hden'
  · rw [hratio]
  · rw [hratio]

/-- **A quotient of whole numbers of at most 53 bits, rounded up**, the first of which is not zero. -/
theorem ceiling_dividedBy (hnum' : num < 2 ^ 53) (hden : 0 < den) (hden' : den ≤ 2 ^ 53)
    (hlow : count * den < num) (hhigh : num ≤ (count + 1) * den) :
    ((whole num).dividedBy (whole den) >>= Double.ceiling) = .ok ((count + 1 : Nat) : Int) := by
  have hnum : 0 < num := Nat.zero_lt_of_lt hlow
  show (wholeQuotient num den >>= Double.ceiling) = _
  rw [wholeQuotient_natCast hnum hnum' hden hden']
  exact Double.ceiling_ofRatio hnum hnum' hden hden' hlow hhigh

end Quantity

end Cutover
