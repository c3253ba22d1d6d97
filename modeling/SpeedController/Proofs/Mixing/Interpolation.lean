import Mathlib.Algebra.Order.Field.Basic
import Mathlib.Algebra.Order.Field.Rat
import Mathlib.Data.Rat.Cast.Order
import Mathlib.Tactic.FieldSimp
import Mathlib.Tactic.Linarith
import Mathlib.Tactic.NormNum
import Mathlib.Tactic.Ring
import SpeedController.Proofs.Mixing.Exactness

/-!
# Lines and the straight line

A line follows the straight line through its two ends over the rationals. Both meet the second end, and a
slope that is rounded toward zero is no more than one away from the exact one (`abs_div_sub_tdiv_le`), so
a step away from that end costs no more than one motor unit (`abs_exact_sub_ideal_le`). Within its range
a line also keeps between the two ends and goes the way of the straight one, whatever the ends are
(`through_sound`).
-/

namespace SpeedController.Mixing.Line

/-- A quotient that is rounded toward zero is no more than one away from the exact one. -/
lemma abs_div_sub_tdiv_le (a b : Int) : |(a : ℚ) / b - a.tdiv b| ≤ 1 := by
  by_cases zero : b = 0
  · simp [zero]
  have nonzero : (b : ℚ) ≠ 0 := Int.cast_ne_zero.2 zero
  have whole : (b : ℚ) * a.tdiv b + a.tmod b = a := by exact_mod_cast Int.mul_tdiv_add_tmod a b
  have remainder : (a : ℚ) / b - a.tdiv b = a.tmod b / b := by
    field_simp
    linarith
  rw [remainder, abs_div, div_le_one (abs_pos.2 nonzero)]
  exact_mod_cast (abs_tmod_lt zero a).le

/-- The straight line through `(inLow, outLow)` and `(inHigh, outHigh)`. -/
def ideal (inLow inHigh outLow outHigh : Int16) (x : ℚ) : ℚ :=
  outLow.toInt + (outHigh.toInt - outLow.toInt) / (inHigh.toInt - inLow.toInt) * (x - inLow.toInt)

variable {inLow inHigh outLow outHigh : Int16} {l : Line}

lemma through_self (x outLow outHigh : Int16) :
    through x x outLow outHigh = .error .emptyRange := by
  have run : (x.toInt32 - x.toInt32) <<< 8 = 0 := by
    rw [← Int32.toInt_inj, toInt_scaled, Int.sub_self]
    rfl
  exact if_pos run

lemma ne_of_through (h : through inLow inHigh outLow outHigh = .ok l) : inLow ≠ inHigh := by
  rintro rfl
  rw [through_self] at h
  cases h

lemma run_ne_zero (differ : inLow ≠ inHigh) : (inHigh.toInt : ℚ) - inLow.toInt ≠ 0 := by
  intro zero
  exact differ (Int16.toInt_inj.1 (Int.cast_inj.1 (sub_eq_zero.1 zero)).symm)

/-- The straight line meets its second point as well. -/
lemma ideal_eq (differ : inLow ≠ inHigh) (x : ℚ) :
    ideal inLow inHigh outLow outHigh x = outHigh.toInt -
      (outHigh.toInt - outLow.toInt) / (inHigh.toInt - inLow.toInt) * (inHigh.toInt - x) := by
  have run := run_ne_zero differ
  rw [ideal]
  field_simp
  ring

/-- A line is no further away from the straight one than `x` is from the second end. -/
lemma abs_exact_sub_ideal_le (h : through inLow inHigh outLow outHigh = .ok l) (x : Int) :
    |(l.exact x : ℚ) - ideal inLow inHigh outLow outHigh x| ≤ |(inHigh.toInt : ℚ) - x| := by
  have rounding := abs_div_sub_tdiv_le (outHigh.toInt - outLow.toInt) (inHigh.toInt - inLow.toInt)
  rw [← slope_of_through h] at rounding
  push_cast at rounding
  have apart : (l.exact x : ℚ) - ideal inLow inHigh outLow outHigh x =
      (((outHigh.toInt : ℚ) - outLow.toInt) / (inHigh.toInt - inLow.toInt) - l.slope.toInt) *
        (inHigh.toInt - x) := by
    rw [exact_of_through h, ideal_eq (ne_of_through h)]
    push_cast
    ring
  rw [apart, abs_mul]
  exact mul_le_of_le_one_left (abs_nonneg _) rounding

/-- The straight line goes forth where the product of its differences does. -/
lemma forth_of_ideal_le (differ : inLow ≠ inHigh) {x y : Int}
    (forth : ideal inLow inHigh outLow outHigh x ≤ ideal inLow inHigh outLow outHigh y) :
    0 ≤ (outHigh.toInt - outLow.toInt) * (inHigh.toInt - inLow.toInt) * (y - x) := by
  have run := run_ne_zero differ
  -- The run may have either sign, so the denominators are cleared with its square.
  have cleared : ((outHigh.toInt : ℚ) - outLow.toInt) * (inHigh.toInt - inLow.toInt) * (y - x) =
      (ideal inLow inHigh outLow outHigh y - ideal inLow inHigh outLow outHigh x) *
        (inHigh.toInt - inLow.toInt) ^ 2 := by
    rw [ideal, ideal]
    field_simp
    ring
  have gain := mul_nonneg (sub_nonneg.2 forth) (sq_nonneg ((inHigh.toInt : ℚ) - inLow.toInt))
  rw [← cleared] at gain
  exact_mod_cast gain

/-- A line can be derived from any two ends of the range that differ, and no word overflows on the way.
It meets the second end exactly. Between the ends, in whichever order they are, its values are not cut,
they keep between the motor units at the ends, they are no further away from the straight line than the
stick is from the second end, and they go its way. -/
theorem through_sound (inLow inHigh outLow outHigh : Int16) :
    through? inLow inHigh outLow outHigh = some (through inLow inHigh outLow outHigh) ∧
      (through inLow inHigh outLow outHigh = .error .emptyRange ↔ inLow = inHigh) ∧
      (inLow ≠ inHigh →
        let straight := ideal inLow inHigh outLow outHigh
        let range := Set.uIcc inLow.toInt inHigh.toInt
        ∃ l, through inLow inHigh outLow outHigh = .ok l ∧ l.value inHigh = outHigh ∧
          (∀ x : Int16, x.toInt ∈ range →
            (l.value x).toInt = l.exact x.toInt ∧
              (l.value x).toInt ∈ Set.uIcc outLow.toInt outHigh.toInt ∧
              |((l.value x).toInt : ℚ) - straight x.toInt| ≤ |(inHigh.toInt : ℚ) - x.toInt|) ∧
          ∀ x y : Int16, x.toInt ∈ range → y.toInt ∈ range → straight x.toInt ≤ straight y.toInt →
            l.value x ≤ l.value y) := by
  refine ⟨through?_eq .., ⟨fun none => ?_, fun same => ?_⟩, ?_⟩
  · by_contra differ
    obtain ⟨l, through⟩ := exists_through differ outLow outHigh
    rw [through] at none
    cases none
  · rw [same, through_self]
  · intro differ straight range
    obtain ⟨l, through⟩ := exists_through differ outLow outHigh
    refine ⟨l, through, value_of_through through, fun x within => ?_, fun x y within within' forth => ?_⟩
    · have uncut := toInt_value_of_mem_uIcc through within
      rw [uncut]
      exact ⟨rfl, exact_mem_uIcc through within, abs_exact_sub_ideal_le through x.toInt⟩
    · exact value_le_value_of_forth through within within' (forth_of_ideal_le differ forth)

/-- The range is given from its upper end, and the line falls by one motor unit a step where the straight
one falls by a little more. In the middle they are more than two thousand units apart. -/
theorem through_sound_downward :
    let l : Line := ⟨-1, 2767⟩
    (30000 : Int16) ≠ -30000 ∧ (0 : Int) ∈ Set.uIcc 30000 (-30000) ∧
      ideal 30000 (-30000) (-32768) 32767 0 = -1 / 2 ∧
      through 30000 (-30000) (-32768) 32767 = .ok l ∧ l.value (-30000) = 32767 ∧
      (l.value 0).toInt = 2767 ∧ (l.value 0).toInt ∈ Set.uIcc (-32768) 32767 ∧
      |((l.value 0).toInt : ℚ) - -1 / 2| ≤ 30000 ∧ l.value 0 ≤ l.value (-30000) := by
  intro l
  have zero : (0 : Int16).toInt = 0 := rfl
  have begins : (30000 : Int16).toInt = 30000 := rfl
  have ends : (-30000 : Int16).toInt = -30000 := rfl
  have bottom : (-32768 : Int16).toInt = -32768 := rfl
  have top : (32767 : Int16).toInt = 32767 := rfl
  have half : ideal 30000 (-30000) (-32768) 32767 0 = -1 / 2 := by
    rw [ideal, begins, ends, bottom, top]
    norm_num
  have reached : ideal 30000 (-30000) (-32768) 32767 (-30000) = 32767 := by
    rw [ideal, begins, ends, bottom, top]
    norm_num
  have middle : (0 : Int) ∈ Set.uIcc 30000 (-30000) := Set.mem_uIcc.2 (by decide)
  obtain ⟨-, -, derived⟩ := through_sound 30000 (-30000) (-32768) 32767
  obtain ⟨l', through, ending, within, forth⟩ := derived (by decide)
  obtain rfl : l' = l := by
    rw [show Line.through 30000 (-30000) (-32768) 32767 = .ok l by decide] at through
    exact (Except.ok.inj through).symm
  obtain ⟨-, between, near⟩ := within 0 middle
  have order := forth 0 (-30000) middle Set.right_mem_uIcc
  simp only [zero, ends, Int.cast_zero, half, Int.cast_neg, Int.cast_ofNat, reached] at near order
  refine ⟨by decide, middle, half, through, ending, by decide, between, ?_, order (by norm_num)⟩
  exact near.trans (by norm_num)

end SpeedController.Mixing.Line
