import SpeedController.Proofs.Mixing.Delta
import SpeedController.Proofs.Mixing.Derivation

/-!
# Rounded planes

The coefficients of a derived plane are quotients that are rounded toward zero, so the plane need not meet
the three points it is derived from. What it misses them by is the sum of three remainders, two of them
taken as often as the stick is away from the origin (`tdiv_error`). A remainder is smaller than the
divisor, which bounds the distance at each of the points (`throughPoints_near`).
-/

namespace SpeedController.Mixing.Plane

variable {p q u : Point} {plane : Plane}

/-- What three roundings cost at a point. -/
lemma tdiv_error {z : ℤ} (a b d x y m : ℤ) (on : a * x + b * y + z * m = d) :
    z * (d.tdiv z - a.tdiv z * x - b.tdiv z * y - m) = a.tmod z * x + b.tmod z * y - d.tmod z := by
  rw [Int.tmod_def, Int.tmod_def, Int.tmod_def, ← on]
  ring

lemma abs_tdiv_error_lt {z : ℤ} (nonzero : z ≠ 0) {a b d x y m : ℤ} (on : a * x + b * y + z * m = d) :
    |d.tdiv z - a.tdiv z * x - b.tdiv z * y - m| < 1 + |x| + |y| := by
  apply lt_of_mul_lt_mul_left _ (abs_nonneg z)
  have first := mul_le_mul_of_nonneg_right (abs_tmod_lt nonzero a).le (abs_nonneg x)
  have second := mul_le_mul_of_nonneg_right (abs_tmod_lt nonzero b).le (abs_nonneg y)
  have third := abs_tmod_lt nonzero d
  calc |z| * |d.tdiv z - a.tdiv z * x - b.tdiv z * y - m|
    _ = |a.tmod z * x + b.tmod z * y - d.tmod z| := by rw [← abs_mul, tdiv_error a b d x y m on]
    _ ≤ |a.tmod z * x| + |b.tmod z * y| + |d.tmod z| :=
      (abs_sub _ _).trans (add_le_add_left (abs_add_le _ _) _)
    _ = |a.tmod z| * |x| + |b.tmod z| * |y| + |d.tmod z| := by rw [abs_mul, abs_mul]
    _ < |z| * |x| + |z| * |y| + |z| := add_lt_add_of_le_of_lt (add_le_add first second) third
    _ = |z| * (1 + |x| + |y|) := by ring

/-- A plane through three points misses them by no more than the rounding of its three coefficients, and
it meets them if nothing is rounded. At stick positions that are short words its value there is the exact
one, if that is a word. -/
theorem throughPoints_near (bounded : Bounded p q u) (derived : throughPoints p q u = .ok plane) :
    let n := normal p q u
    ∀ x ∈ [p, q, u],
      let v := plane.exact x.ch1.toInt x.ch2.toInt
      |v - x.motor.toInt| < 1 + |x.ch1.toInt| + |x.ch2.toInt| ∧
        (n 2 ∣ n 0 → n 2 ∣ n 1 → n 2 ∣ offset p q u → v = x.motor.toInt) ∧
        ∀ ch1 ch2 : Int16, ch1.toInt = x.ch1.toInt → ch2.toInt = x.ch2.toInt → IsWord v →
          (plane.value ch1 ch2).toInt = v := by
  intro n x mem v
  have on := on_normal mem
  rw [throughPoints_eq_ofNormal bounded, ofNormal_eq_ok_iff] at derived
  obtain ⟨steep, r, s, t⟩ := derived
  have value : v = (offset p q u).tdiv (n 2) - (n 0).tdiv (n 2) * x.ch1.toInt -
      (n 1).tdiv (n 2) * x.ch2.toInt := by
    rw [← r, ← s, ← t]
    rfl
  refine ⟨?_, fun first second third => ?_, fun ch1 ch2 same same' fits => ?_⟩
  · rw [value]
    exact abs_tdiv_error_lt steep on
  · have error := tdiv_error _ _ _ _ _ _ on
    rw [Int.tmod_eq_zero_of_dvd first, Int.tmod_eq_zero_of_dvd second,
      Int.tmod_eq_zero_of_dvd third, zero_mul, zero_mul, add_zero, sub_zero] at error
    rw [value]
    exact sub_eq_zero.1 ((mul_eq_zero.1 error).resolve_left steep)
  · have there : plane.exact ch1.toInt ch2.toInt = v := by rw [same, same']
    rw [← there] at fits ⊢
    exact toInt_value_of_fits fits.1 fits.2

/-- Of the first three points the rounded plane misses two by one motor unit. The normal of the second
three is a hundred times `(-1, 2, 1)`, and they are all met. -/
theorem throughPoints_near_rounded :
    (let p : Point := ⟨0, 0, 7⟩
    let q : Point := ⟨3, 0, 107⟩
    let u : Point := ⟨0, 7, -50⟩
    let plane : Plane := ⟨7, -33, 8⟩
    Bounded p q u ∧ throughPoints p q u = .ok plane ∧ plane.exact 3 0 = 106 ∧
      |plane.exact 3 0 - 107| < 1 + |3| + |0| ∧ |plane.exact 0 7 - -50| < 1 + |0| + |7| ∧
      (plane.value 0 7).toInt = -49) ∧
    let p : Point := ⟨0, 0, 100⟩
    let q : Point := ⟨10, 0, 110⟩
    let u : Point := ⟨0, 10, 80⟩
    let plane : Plane := ⟨100, -1, 2⟩
    Bounded p q u ∧ throughPoints p q u = .ok plane ∧ plane.exact 10 0 = 110 ∧
      (plane.value 0 10).toInt = 80 := by
  constructor
  · intro p q u plane
    have bounded : Bounded p q u := ⟨⟨-700, 171, 21⟩, by decide, by decide⟩
    have derived : throughPoints p q u = .ok plane := by decide
    obtain ⟨ahead, -, -⟩ := throughPoints_near bounded derived q (by simp)
    obtain ⟨aside, -, value⟩ := throughPoints_near bounded derived u (by simp)
    exact ⟨bounded, derived, by decide, ahead, aside, value 0 7 rfl rfl (by decide)⟩
  · intro p q u plane
    have bounded : Bounded p q u := ⟨⟨-100, 200, 100⟩, by decide, by decide⟩
    have derived : throughPoints p q u = .ok plane := by decide
    obtain ⟨-, met, -⟩ := throughPoints_near bounded derived q (by simp)
    obtain ⟨-, met', value⟩ := throughPoints_near bounded derived u (by simp)
    have divides : normal p q u 2 ∣ normal p q u 0 ∧ normal p q u 2 ∣ normal p q u 1 ∧
        normal p q u 2 ∣ offset p q u := by decide
    obtain ⟨first, second, third⟩ := divides
    refine ⟨bounded, derived, met first second third, ?_⟩
    rw [value 0 10 rfl rfl (by decide)]
    exact met' first second third

end SpeedController.Mixing.Plane
