import Mathlib.Algebra.Order.Group.Unbundled.Int
import Mathlib.Order.Interval.Set.UnorderedInterval
import SpeedController.Proofs.Mixing.Neutral

/-!
# Lines over the integers

No word overflows while a line is derived, so the slope is the exact quotient, rounded toward zero
(`Line.slope_of_through`), and the line turns around the end of its range (`Line.exact_of_through`).
Between the ends of its range a line does not leave the motor units there (`Line.exact_mem_uIcc`), so
its values are not cut, and they rise or fall with the line (`Line.value_le_value_of_forth`). This does
not depend on the order of the ends; the lines of a stick have their lower end first
(`Line.value_le_value`, `Line.value_le_value_of_falling`).
-/

namespace SpeedController.Mixing

open Receiver

/-- To shift by 8 is to scale by 256. -/
lemma shiftLeft_eight (x : Int32) : x <<< 8 = x * 256 := by
  apply Int32.toBitVec_inj.1
  have amount : (8 : Int32).toBitVec.smod 32 = 8#32 := by decide
  rw [Int32.toBitVec_shiftLeft, amount, BitVec.shiftLeft_eq', BitVec.shiftLeft_eq_mul_twoPow]
  rfl

/-- The difference of two shorter words fits. -/
lemma toInt_difference (a b : Int16) : (a.toInt32 - b.toInt32).toInt = a.toInt - b.toInt := by
  have low := a.le_toInt
  have high := a.toInt_lt
  have low' := b.le_toInt
  have high' := b.toInt_lt
  rw [Int32.toInt_sub, Int16.toInt_toInt32, Int16.toInt_toInt32]
  exact Int.bmod_eq_of_le_mul_two (by omega) (by omega)

/-- The difference of two words below the sign bit fits a short word. -/
lemma toInt_deflection {a b : UInt16} (small : a.toNat < 32768) (small' : b.toNat < 32768) :
    (a.toInt16 - b.toInt16).toInt = a.toNat - b.toNat := by
  rw [Int16.toInt_sub, toInt_toInt16_of_lt small, toInt_toInt16_of_lt small']
  exact Int.bmod_eq_of_le_mul_two (by omega) (by omega)

/-- The difference of two shorter words can be scaled by 256. -/
lemma toInt_scaled (a b : Int16) :
    ((a.toInt32 - b.toInt32) <<< 8).toInt = (a.toInt - b.toInt) * 256 := by
  have low := a.le_toInt
  have high := a.toInt_lt
  have low' := b.le_toInt
  have high' := b.toInt_lt
  have scaled : ((a.toInt - b.toInt) * 256).bmod (2 ^ 32) = (a.toInt - b.toInt) * 256 :=
    Int.bmod_eq_of_le_mul_two (by omega) (by omega)
  rw [shiftLeft_eight, Int32.toInt_mul, toInt_difference]
  exact scaled

lemma natAbs_mul_le {a : Int} {bound : Nat} (le : a.natAbs ≤ bound) (x : Int16) :
    (a * x.toInt).natAbs ≤ bound * 32768 := by
  have low := x.le_toInt
  have high := x.toInt_lt
  rw [Int.natAbs_mul]
  exact Nat.mul_le_mul le (by omega)

lemma abs_tmod_lt {b : Int} (nonzero : b ≠ 0) (a : Int) : |a.tmod b| < |b| := by
  have less := Nat.mod_lt a.natAbs (Int.natAbs_pos.2 nonzero)
  rw [← Int.natAbs_tmod] at less
  rw [Int.abs_eq_natAbs, Int.abs_eq_natAbs]
  exact Int.ofNat_lt.2 less

namespace Line

variable {inLow inHigh outLow outHigh : Int16} {l : Line}

lemma exists_through (differ : inLow ≠ inHigh) (outLow outHigh : Int16) :
    ∃ l, through inLow inHigh outLow outHigh = .ok l := by
  have run : (inHigh.toInt32 - inLow.toInt32) <<< 8 ≠ 0 := by
    intro zero
    have scaled := toInt_scaled inHigh inLow
    rw [zero, Int32.toInt_zero] at scaled
    exact differ (Int16.toInt_inj.1 (by omega))
  exact ⟨_, if_neg run⟩

lemma throughOrIdle_eq (h : through inLow inHigh outLow outHigh = .ok l) :
    throughOrIdle inLow inHigh outLow outHigh = l := by
  rw [throughOrIdle, h]

lemma natAbs_quotient_le (inLow inHigh outLow outHigh : Int16) :
    ((outHigh.toInt - outLow.toInt).tdiv (inHigh.toInt - inLow.toInt)).natAbs ≤ 65535 := by
  have low := outHigh.le_toInt
  have high := outHigh.toInt_lt
  have low' := outLow.le_toInt
  have high' := outLow.toInt_lt
  have smaller := Int.natAbs_tdiv_le_natAbs (outHigh.toInt - outLow.toInt)
    (inHigh.toInt - inLow.toInt)
  omega

/-- The slope is the quotient of the differences, rounded toward zero. -/
lemma slope_of_through (h : through inLow inHigh outLow outHigh = .ok l) :
    l.slope.toInt = (outHigh.toInt - outLow.toInt).tdiv (inHigh.toInt - inLow.toInt) := by
  unfold through at h
  dsimp only at h
  split at h
  · cases h
  · cases h
    have small := natAbs_quotient_le inLow inHigh outLow outHigh
    rw [Int32.toInt_div, toInt_scaled, toInt_scaled, Int.mul_tdiv_mul_of_pos_left _ _ (by decide)]
    exact Int.bmod_eq_of_le_mul_two (by omega) (by omega)

lemma natAbs_product_le (h : through inLow inHigh outLow outHigh = .ok l) :
    (l.slope.toInt * inHigh.toInt).natAbs ≤ 65535 * 32768 := by
  have slope := natAbs_quotient_le inLow inHigh outLow outHigh
  rw [← slope_of_through h] at slope
  exact natAbs_mul_le slope inHigh

/-- The slope can be multiplied by the end of the range. -/
lemma toInt_product (h : through inLow inHigh outLow outHigh = .ok l) :
    (l.slope * inHigh.toInt32).toInt = l.slope.toInt * inHigh.toInt := by
  have product := natAbs_product_le h
  rw [Int32.toInt_mul, Int16.toInt_toInt32]
  exact Int.bmod_eq_of_le_mul_two (by omega) (by omega)

lemma intercept_of_through (h : through inLow inHigh outLow outHigh = .ok l) :
    l.intercept.toInt = outHigh.toInt - l.slope.toInt * inHigh.toInt := by
  have product := natAbs_product_le h
  have low := outHigh.le_toInt
  have high := outHigh.toInt_lt
  have intercept : l.intercept = outHigh.toInt32 - l.slope * inHigh.toInt32 := by
    unfold through at h
    dsimp only at h
    split at h
    · cases h
    · cases h
      rfl
  rw [intercept, Int32.toInt_sub, toInt_product h, Int16.toInt_toInt32]
  exact Int.bmod_eq_of_le_mul_two (by omega) (by omega)

/-- The line turns around the end of its range. -/
lemma exact_of_through (h : through inLow inHigh outLow outHigh = .ok l) (x : Int) :
    l.exact x = outHigh.toInt - l.slope.toInt * (inHigh.toInt - x) := by
  rw [exact, intercept_of_through h, Int.mul_sub]
  omega

/-- A value is the exact one, cut to the word. -/
lemma toInt_value (l : Line) (x : Int16) : (l.value x).toInt = (l.exact x.toInt).bmod 65536 := by
  rw [value, exact, Int32.toInt_toInt16, Int32.toInt_add, Int32.toInt_mul, Int16.toInt_toInt32,
    Int.bmod_add_bmod, Int.bmod_bmod_of_dvd (by decide)]

lemma value_eq_ofInt (l : Line) (x : Int16) : l.value x = .ofInt (l.exact x.toInt) := by
  rw [← Int16.toInt_inj, toInt_value, Int16.toInt_ofInt]

lemma toInt_value_of_fits {x : Int16} (low : -32768 ≤ l.exact x.toInt)
    (high : l.exact x.toInt < 32768) : (l.value x).toInt = l.exact x.toInt := by
  rw [toInt_value]
  exact Int.bmod_eq_of_le_mul_two (by omega) (by omega)

/-- A rounded quotient does not lead beyond the dividend. -/
lemma tdiv_mul_le {rise run t : Int} (up : 0 ≤ rise) (begun : 0 ≤ t) (within : t ≤ run) :
    0 ≤ rise.tdiv run * t ∧ rise.tdiv run * t ≤ rise := by
  have forth : 0 ≤ run := Int.le_trans begun within
  have quotient : 0 ≤ rise.tdiv run := Int.tdiv_nonneg up forth
  refine ⟨Int.mul_nonneg quotient begun, ?_⟩
  calc rise.tdiv run * t
    _ ≤ rise.tdiv run * run := Int.mul_le_mul_of_nonneg_left within quotient
    _ = rise / run * run := by rw [Int.tdiv_eq_ediv_of_nonneg up]
    _ ≤ rise := by
      by_cases flat : run = 0
      · rwa [flat, Int.mul_zero]
      · exact Int.ediv_mul_le _ flat

/-- The same for a dividend and a divisor of either sign: rounding toward zero does not depend on the
signs. -/
lemma tdiv_mul_mem_uIcc {rise run t : Int} (within : t ∈ Set.uIcc 0 run) :
    rise.tdiv run * t ∈ Set.uIcc 0 rise := by
  rw [Set.mem_uIcc] at within ⊢
  rcases within with ⟨begun, within⟩ | ⟨within, begun⟩
  · rcases Int.le_total 0 rise with up | down
    · exact .inl (tdiv_mul_le up begun within)
    · have between := tdiv_mul_le (Int.neg_nonneg_of_nonpos down) begun within
      rw [Int.neg_tdiv, Int.neg_mul] at between
      omega
  · have begun' : 0 ≤ -t := by omega
    have within' : -t ≤ -run := by omega
    rcases Int.le_total 0 rise with up | down
    · have between := tdiv_mul_le up begun' within'
      rw [Int.tdiv_neg, Int.neg_mul_neg] at between
      exact .inl between
    · have between := tdiv_mul_le (Int.neg_nonneg_of_nonpos down) begun' within'
      rw [Int.neg_tdiv_neg, Int.mul_neg] at between
      omega

/-- A rounded quotient has the sign of the exact one, or it is 0. -/
lemma tdiv_mul_nonneg {rise run t : Int} (forth : 0 ≤ rise * run * t) : 0 ≤ rise.tdiv run * t := by
  rw [← Int.sign_nonneg_iff, Int.sign_mul, Int.sign_mul] at forth
  rw [← Int.sign_nonneg_iff, Int.sign_mul, Int.sign_tdiv]
  split
  · rw [Int.zero_mul]
  · exact forth

/-- Within its range the line keeps between its ends, in whichever order they are. -/
lemma exact_mem_uIcc (h : through inLow inHigh outLow outHigh = .ok l) {x : Int}
    (within : x ∈ Set.uIcc inLow.toInt inHigh.toInt) :
    l.exact x ∈ Set.uIcc outLow.toInt outHigh.toInt := by
  have left : inHigh.toInt - x ∈ Set.uIcc 0 (inHigh.toInt - inLow.toInt) := by
    rw [Set.mem_uIcc] at within ⊢
    omega
  have between : (outHigh.toInt - outLow.toInt).tdiv _ * _ ∈ Set.uIcc 0 _ := tdiv_mul_mem_uIcc left
  rw [exact_of_through h, slope_of_through h]
  rw [Set.mem_uIcc] at between ⊢
  omega

/-- Within its range the line has its exact values. -/
lemma toInt_value_of_mem_uIcc (h : through inLow inHigh outLow outHigh = .ok l) {x : Int16}
    (within : x.toInt ∈ Set.uIcc inLow.toInt inHigh.toInt) :
    (l.value x).toInt = l.exact x.toInt := by
  have between := exact_mem_uIcc h within
  have bottom := outLow.le_toInt
  have bottom' := outHigh.le_toInt
  have top := outLow.toInt_lt
  have top' := outHigh.toInt_lt
  rw [Set.mem_uIcc] at between
  exact toInt_value_of_fits (by omega) (by omega)

/-- Within its range the line does not go back where the straight one goes forth. -/
lemma value_le_value_of_forth (h : through inLow inHigh outLow outHigh = .ok l) {x y : Int16}
    (within : x.toInt ∈ Set.uIcc inLow.toInt inHigh.toInt)
    (within' : y.toInt ∈ Set.uIcc inLow.toInt inHigh.toInt)
    (forth : 0 ≤ (outHigh.toInt - outLow.toInt) * (inHigh.toInt - inLow.toInt) *
      (y.toInt - x.toInt)) : l.value x ≤ l.value y := by
  have steps := tdiv_mul_nonneg forth
  rw [← slope_of_through h, Int.mul_sub] at steps
  rw [Int16.le_iff_toInt_le, toInt_value_of_mem_uIcc h within, toInt_value_of_mem_uIcc h within']
  exact Int.add_le_add_right (Int.sub_nonneg.1 steps) _

/-- Within its range a line to a higher end rises. -/
lemma value_le_value (h : through inLow inHigh outLow outHigh = .ok l) (rise : outLow ≤ outHigh)
    {x y : Int16} (low : inLow ≤ x) (le : x ≤ y) (high : y ≤ inHigh) : l.value x ≤ l.value y := by
  simp only [Int16.le_iff_toInt_le] at rise low le high
  refine value_le_value_of_forth h (Set.mem_uIcc.2 (by omega)) (Set.mem_uIcc.2 (by omega)) ?_
  exact Int.mul_nonneg (Int.mul_nonneg (by omega) (by omega)) (by omega)

/-- Within its range a line to a lower end falls. -/
lemma value_le_value_of_falling (h : through inLow inHigh outLow outHigh = .ok l)
    (fall : outHigh ≤ outLow) {x y : Int16} (low : inLow ≤ x) (le : x ≤ y) (high : y ≤ inHigh) :
    l.value y ≤ l.value x := by
  simp only [Int16.le_iff_toInt_le] at fall low le high
  refine value_le_value_of_forth h (Set.mem_uIcc.2 (by omega)) (Set.mem_uIcc.2 (by omega)) ?_
  exact Int.mul_nonneg_of_nonpos_of_nonpos (Int.mul_nonpos_of_nonpos_of_nonneg (by omega) (by omega))
    (by omega)

end Line

end SpeedController.Mixing
