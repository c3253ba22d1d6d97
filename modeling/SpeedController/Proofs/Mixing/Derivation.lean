import Mathlib.Data.Int.Order.Lemmas
import SpeedController.Proofs.Mixing.Normal

/-!
# Planes through three points

A derivation divides the normal and the offset of its points by the upright component of the normal. It
is taken apart into the numbers, which the points decide, and the three quotients, each of which is
narrowed to a word (`throughPoints_eq_ofNormal`). The quotients do not see the side that the normal points
to (`ofNormal_sign`), so the order of the points does not matter (`throughPoints_perm`), and there is a
plane exactly if all of them are words (`throughPoints_outcome`).

One quotient of long words is no long word, the least one divided by `-1`. It is not refused like the
other ones that do not fit.
-/

namespace SpeedController.Mixing

open Matrix

/-- A number that fits a word. -/
def IsWord (n : ℤ) : Prop := Int32.minValue.toInt ≤ n ∧ n ≤ Int32.maxValue.toInt

instance (n : ℤ) : Decidable (IsWord n) := inferInstanceAs (Decidable (_ ∧ _))

lemma isWord_toInt (w : Int32) : IsWord w.toInt := ⟨w.minValue_le_toInt, w.toInt_le⟩

lemma toInt_ofInt_of_isWord {n : ℤ} (fits : IsWord n) : (Int32.ofInt n).toInt = n :=
  Int32.toInt_ofInt_of_le fits.1 (Int.lt_add_one_of_le fits.2)

lemma exists_toInt_eq {n : ℤ} : (∃ w : Int32, w.toInt = n) ↔ IsWord n := by
  constructor
  · rintro ⟨w, rfl⟩
    exact isWord_toInt w
  · exact fun fits => ⟨_, toInt_ofInt_of_isWord fits⟩

/-- A quotient of two long words as a word. Only `2 ^ 63` is no long word itself. -/
def narrow (quotient : ℤ) : Except MappingError Int32 :=
  if quotient = 2 ^ 63 then .error .quotientOverflow
  else if IsWord quotient then .ok (.ofInt quotient)
  else .error .noPlane

/-- A quotient of long words is one itself, unless the sign of the least one is changed. -/
lemma tdiv_eq_iff (a : Int64) (b : ℤ) :
    a.toInt.tdiv b = 2 ^ 63 ↔ a.toInt = Int64.minValue.toInt ∧ b = -1 := by
  rw [Int64.toInt_minValue]
  constructor
  · intro overflow
    have low := a.le_toInt
    have high := a.toInt_lt
    have smaller := Int.natAbs_tdiv_le_natAbs a.toInt b
    have least : a.toInt = -2 ^ 63 := by omega
    have sizes := Int.natAbs_tdiv a.toInt b
    rw [overflow, least] at sizes
    have unit : b.natAbs = 1 := (Nat.div_eq_self.1 sizes.symm).resolve_left (by decide)
    have negates : b ≠ 1 := by
      rintro rfl
      rw [Int.tdiv_one] at overflow
      omega
    exact ⟨least, by omega⟩
  · rintro ⟨least, rfl⟩
    rw [least]
    decide

lemma narrowQuotient_eq (a b : Int64) : narrowQuotient a b = narrow (a.toInt.tdiv b.toInt) := by
  have largest : a.toInt.tdiv b.toInt = 2 ^ 63 ↔ a = Int64.minValue ∧ b = -1 := by
    rw [tdiv_eq_iff, ← Int64.toInt_inj, ← Int64.toInt_inj]
    rfl
  rw [narrowQuotient, narrow]
  by_cases overflow : a = Int64.minValue ∧ b = -1
  · rw [if_pos overflow, if_pos (largest.2 overflow)]
  have quotient : (a / b).toInt = a.toInt.tdiv b.toInt := by
    by_cases least : a = Int64.minValue
    · exact Int64.toInt_div_of_ne_right a b fun negates => overflow ⟨least, negates⟩
    · exact Int64.toInt_div_of_ne_left a b least
  have word : (a / b).toInt32 = .ofInt (a.toInt.tdiv b.toInt) := by
    rw [← quotient, ← Int64.toInt32_ofInt, Int64.ofInt_toInt]
  have outside : (a / b < Int32.minValue.toInt64 ∨ Int32.maxValue.toInt64 < a / b) ↔
      ¬IsWord (a.toInt.tdiv b.toInt) := by
    rw [Int64.lt_iff_toInt_lt, Int64.lt_iff_toInt_lt, quotient, Int32.toInt_toInt64,
      Int32.toInt_toInt64, IsWord]
    omega
  rw [if_neg overflow, if_neg (mt largest.1 overflow)]
  dsimp only
  rw [word]
  simp only [outside, ite_not]

lemma not_isWord_overflow : ¬IsWord (2 ^ 63) := by decide

lemma narrow_eq_ok_iff {x : ℤ} {w : Int32} : narrow x = .ok w ↔ w.toInt = x := by
  have fits := isWord_toInt w
  unfold narrow
  split
  · next overflow =>
    refine ⟨nofun, fun same => ?_⟩
    rw [same, overflow] at fits
    exact absurd fits not_isWord_overflow
  split
  · next fits =>
    rw [Except.ok.injEq, ← Int32.toInt_inj, toInt_ofInt_of_isWord fits]
    exact eq_comm
  · next beyond =>
    refine ⟨nofun, fun same => ?_⟩
    rw [same] at fits
    exact absurd fits beyond

lemma narrow_eq_overflow_iff {x : ℤ} : narrow x = .error .quotientOverflow ↔ x = 2 ^ 63 := by
  unfold narrow
  split
  · next overflow => exact iff_of_true rfl overflow
  · next inside =>
    refine iff_of_false ?_ inside
    split <;> simp

lemma bind_eq_ok_iff {ε α β : Type} {m : Except ε α} {f : α → Except ε β} {b : β} :
    m >>= f = .ok b ↔ ∃ a, m = .ok a ∧ f a = .ok b := by
  cases m <;> simp [bind, Except.bind]

lemma bind_eq_error_iff {ε α β : Type} {m : Except ε α} {f : α → Except ε β} {e : ε} :
    m >>= f = .error e ↔ m = .error e ∨ ∃ a, m = .ok a ∧ f a = .error e := by
  cases m <;> simp [bind, Except.bind]

namespace Plane

variable {x y z d : ℤ} {p q u : Point} {plane : Plane}

/-- The plane with the normal `(x, y, z)` and the offset `d`. -/
def ofNormal (x y z d : ℤ) : Except MappingError Plane := do
  if z = 0 then throw .noPlane
  let r ← narrow (d.tdiv z)
  let s ← narrow (x.tdiv z)
  let t ← narrow (y.tdiv z)
  return ⟨r, s, t⟩

lemma throughPoints_eq_ofNormal (bounded : Bounded p q u) :
    throughPoints p q u =
      ofNormal (normal p q u 0) (normal p q u 1) (normal p q u 2) (offset p q u) := by
  obtain ⟨a, derived, ch1, ch2, motor, total⟩ := bounded.exists_normal
  have vertical : a.motor = 0 ↔ normal p q u 2 = 0 := by
    rw [← motor, ← Int64.toInt_inj, Int64.toInt_zero]
  rw [throughPoints, derived, ofNormal]
  by_cases zero : normal p q u 2 = 0
  · rw [if_pos zero, if_pos (vertical.2 zero)]
    rfl
  · rw [if_neg zero, if_neg (mt vertical.1 zero)]
    simp only [narrowQuotient_eq, ch1, ch2, motor, total zero]

lemma ofNormal_eq_ok_iff :
    ofNormal x y z d = .ok plane ↔ z ≠ 0 ∧ plane.r.toInt = d.tdiv z ∧
      plane.s.toInt = x.tdiv z ∧ plane.t.toInt = y.tdiv z := by
  unfold ofNormal
  by_cases vertical : z = 0
  · rw [if_pos vertical]
    exact iff_of_false nofun fun steep => steep.1 vertical
  rw [if_neg vertical]
  simp only [bind_eq_ok_iff, narrow_eq_ok_iff]
  constructor
  · rintro ⟨r, first, s, second, t, third, same⟩
    cases same
    exact ⟨vertical, first, second, third⟩
  · rintro ⟨-, first, second, third⟩
    exact ⟨plane.r, first, plane.s, second, plane.t, third, rfl⟩

lemma ofNormal_eq_error_iff {cause : MappingError} :
    ofNormal x y z d = .error cause ↔ z = 0 ∧ cause = .noPlane ∨
      z ≠ 0 ∧ (narrow (d.tdiv z) = .error cause ∨
        IsWord (d.tdiv z) ∧ (narrow (x.tdiv z) = .error cause ∨
          IsWord (x.tdiv z) ∧ narrow (y.tdiv z) = .error cause)) := by
  unfold ofNormal
  by_cases vertical : z = 0
  · rw [if_pos vertical]
    constructor
    · intro thrown
      exact .inl ⟨vertical, (Except.error.inj thrown).symm⟩
    · rintro (⟨-, rfl⟩ | ⟨steep, -⟩)
      · rfl
      · exact absurd vertical steep
  · have done (p : Plane) : (pure p : Except MappingError Plane) ≠ .error cause := nofun
    rw [if_neg vertical, or_iff_right fun flat => vertical flat.1, and_iff_right vertical]
    simp only [bind_eq_error_iff, narrow_eq_ok_iff, done, and_false, exists_false, or_false,
      exists_and_right, exists_toInt_eq]

lemma narrow_ne_emptyRange (n : ℤ) : narrow n ≠ .error .emptyRange := by
  unfold narrow
  split
  · nofun
  · split <;> nofun

lemma ofNormal_cases (x y z d : ℤ) :
    (∃ plane, ofNormal x y z d = .ok plane) ∨ ofNormal x y z d = .error .noPlane ∨
      ofNormal x y z d = .error .quotientOverflow := by
  cases derived : ofNormal x y z d with
  | ok plane => exact .inl ⟨plane, rfl⟩
  | error cause =>
    cases cause with
    | noPlane => exact .inr (.inl rfl)
    | quotientOverflow => exact .inr (.inr rfl)
    | emptyRange =>
      -- This error belongs to lines. Neither the guard nor a quotient gives it.
      obtain ⟨-, none⟩ | ⟨-, r | ⟨-, s | ⟨-, t⟩⟩⟩ := ofNormal_eq_error_iff.1 derived
      · cases none
      · exact absurd r (narrow_ne_emptyRange _)
      · exact absurd s (narrow_ne_emptyRange _)
      · exact absurd t (narrow_ne_emptyRange _)

lemma throughPoints_cases (bounded : Bounded p q u) :
    (∃ plane, throughPoints p q u = .ok plane) ∨ throughPoints p q u = .error .noPlane ∨
      throughPoints p q u = .error .quotientOverflow := by
  rw [throughPoints_eq_ofNormal bounded]
  exact ofNormal_cases ..

/-- A plane does not depend on the side that its normal points to. -/
lemma ofNormal_sign (ε : ℤˣ) (x y z d : ℤ) :
    ofNormal (ε * x) (ε * y) (ε * z) (ε * d) = ofNormal x y z d := by
  rcases Int.units_eq_one_or ε with rfl | rfl
  · simp only [Units.val_one, one_mul]
  · simp only [Units.val_neg, Units.val_one, neg_one_mul, ofNormal, Int.neg_tdiv_neg, neg_eq_zero]

/-- The order of the points does not matter, as long as nothing overflows in either order before the
divisions. If a quotient overflows, it does so in both. -/
theorem throughPoints_perm (points : Fin 3 → Point) (σ : Equiv.Perm (Fin 3))
    (bounded : Bounded (points 0) (points 1) (points 2))
    (bounded' : Bounded (points (σ 0)) (points (σ 1)) (points (σ 2))) :
    let result := throughPoints (points 0) (points 1) (points 2)
    throughPoints (points (σ 0)) (points (σ 1)) (points (σ 2)) = result ∧
      (result ≠ .error .quotientOverflow →
        (∃ plane, result = .ok plane) ∨ result = .error .noPlane) := by
  intro result
  obtain ⟨normal, offset⟩ := normal_perm points σ
  constructor
  · rw [throughPoints_eq_ofNormal bounded', normal, offset]
    simp only [Pi.smul_apply, smul_eq_mul]
    rw [ofNormal_sign, ← throughPoints_eq_ofNormal bounded]
  · intro divides
    rcases throughPoints_cases bounded with plane | none | overflow
    · exact .inl plane
    · exact .inr none
    · exact absurd overflow divides

/-- The first and the second point change places, and the sign of the normal changes. -/
theorem throughPoints_perm_swapped :
    let points : Fin 3 → Point := ![⟨0, 0, 7⟩, ⟨3, 0, 107⟩, ⟨0, 7, -50⟩]
    Bounded (points 0) (points 1) (points 2) ∧ Bounded (points 1) (points 0) (points 2) ∧
      normal (points 0) (points 1) (points 2) = ![-700, 171, 21] ∧
      normal (points 1) (points 0) (points 2) = ![700, -171, -21] ∧
      throughPoints (points 1) (points 0) (points 2) = .ok ⟨7, -33, 8⟩ := by
  intro points
  have bounded : Bounded (points 0) (points 1) (points 2) := ⟨⟨-700, 171, 21⟩, by decide, by decide⟩
  have bounded' : Bounded (points 1) (points 0) (points 2) := ⟨⟨700, -171, -21⟩, by decide, by decide⟩
  obtain ⟨same, -⟩ := throughPoints_perm points (.swap 0 1) bounded bounded'
  exact ⟨bounded, bounded', by decide, by decide, same.trans (by decide)⟩

lemma natAbs_product_le {k : ℤ} (fits : IsWord (-k)) (w : Int32) :
    (k * w.toInt).natAbs ≤ 2 ^ 31 * 2 ^ 31 := by
  have low := w.le_toInt
  have high := w.toInt_lt
  have bottom : Int32.minValue.toInt = -2 ^ 31 := rfl
  have top : Int32.maxValue.toInt = 2 ^ 31 - 1 := rfl
  obtain ⟨low', high'⟩ := fits
  rw [Int.natAbs_mul]
  exact Nat.mul_le_mul (by omega) (by omega)

/-- The second slope is never the one that overflows. All three points would be on one line over the
sticks. -/
lemma ch2_ne_least (unit : normal p q u 2 = -1) (first : IsWord (-offset p q u))
    (second : IsWord (-normal p q u 0)) : normal p q u 1 ≠ Int64.minValue.toInt := by
  intro least
  have bottom : Int32.minValue.toInt = -2 ^ 31 := rfl
  have top : Int32.maxValue.toInt = 2 ^ 31 - 1 := rfl
  -- Taken only once, the least long word already outweighs the two other products.
  have level (x : Point) (mem : x ∈ [p, q, u]) : x.ch2.toInt = 0 := by
    have on := on_normal mem
    have product := natAbs_product_le second x.ch1
    have low := x.motor.le_toInt
    have high := x.motor.toInt_lt
    obtain ⟨low', high'⟩ := first
    rw [least, unit, Int64.toInt_minValue] at on
    omega
  have flat := normal_motor p q u
  rw [level p (by simp), level q (by simp), level u (by simp), unit] at flat
  omega

lemma throughPoints_eq_overflow_iff (bounded : Bounded p q u) :
    throughPoints p q u = .error .quotientOverflow ↔ normal p q u 2 = -1 ∧
      (offset p q u = Int64.minValue.toInt ∨
        IsWord (-offset p q u) ∧ normal p q u 0 = Int64.minValue.toInt) := by
  obtain ⟨a, -, ch1, ch2, -, total⟩ := bounded.exists_normal
  have negated (k : ℤ) : k.tdiv (-1) = -k := by rw [Int.tdiv_neg, Int.tdiv_one]
  have first := tdiv_eq_iff a.ch1 (normal p q u 2)
  have second := tdiv_eq_iff a.ch2 (normal p q u 2)
  rw [ch1] at first
  rw [ch2] at second
  rw [throughPoints_eq_ofNormal bounded, ofNormal_eq_error_iff]
  simp only [narrow_eq_overflow_iff, first, second]
  constructor
  · rintro (⟨-, none⟩ | ⟨steep, r | ⟨fits, ⟨s, unit⟩ | ⟨fits', t, unit⟩⟩⟩)
    · cases none
    · rw [← total steep, tdiv_eq_iff, total steep] at r
      exact ⟨r.2, .inl r.1⟩
    · rw [unit, negated] at fits
      exact ⟨unit, .inr ⟨fits, s⟩⟩
    · -- The two other quotients are words by now, which leaves no points for this one.
      rw [unit, negated] at fits fits'
      exact absurd t (ch2_ne_least unit fits fits')
  · rintro ⟨unit, overflow⟩
    rw [unit, negated]
    refine .inr ⟨by decide, ?_⟩
    rcases overflow with r | ⟨fits, s⟩
    · rw [r]
      exact .inl rfl
    · exact .inr ⟨fits, .inl ⟨s, rfl⟩⟩

lemma exists_throughPoints_iff (bounded : Bounded p q u) :
    let n := normal p q u
    (∃ plane, throughPoints p q u = .ok plane) ↔ n 2 ≠ 0 ∧ IsWord ((offset p q u).tdiv (n 2)) ∧
      IsWord ((n 0).tdiv (n 2)) ∧ IsWord ((n 1).tdiv (n 2)) := by
  intro n
  simp only [throughPoints_eq_ofNormal bounded, ofNormal_eq_ok_iff]
  constructor
  · rintro ⟨plane, steep, first, second, third⟩
    exact ⟨steep, exists_toInt_eq.1 ⟨_, first⟩, exists_toInt_eq.1 ⟨_, second⟩,
      exists_toInt_eq.1 ⟨_, third⟩⟩
  · rintro ⟨steep, first, second, third⟩
    obtain ⟨r, first⟩ := exists_toInt_eq.2 first
    obtain ⟨s, second⟩ := exists_toInt_eq.2 second
    obtain ⟨t, third⟩ := exists_toInt_eq.2 third
    exact ⟨⟨r, s, t⟩, steep, first, second, third⟩

/-- What becomes of three points if no difference, product or sum overflows. There is a plane exactly if
they are not above one line and all three quotients are words. Otherwise there is none, unless a quotient
overflows: then the divisor is `-1`, and what is divided is the least long word. This can be the offset,
or else the first component of the normal, but never the second one. -/
theorem throughPoints_outcome (bounded : Bounded p q u) :
    let n := normal p q u
    let d := offset p q u
    let fit := n 2 ≠ 0 ∧ IsWord (d.tdiv (n 2)) ∧ IsWord ((n 0).tdiv (n 2)) ∧ IsWord ((n 1).tdiv (n 2))
    let overflow := n 2 = -1 ∧
      (d = Int64.minValue.toInt ∨ IsWord (-d) ∧ n 0 = Int64.minValue.toInt)
    ((∃ plane, throughPoints p q u = .ok plane) ↔ fit) ∧
      (throughPoints p q u = .error .noPlane ↔ ¬fit ∧ ¬overflow) ∧
      (throughPoints p q u = .error .quotientOverflow ↔ overflow) := by
  intro n d fit overflow
  have derived : _ ↔ fit := exists_throughPoints_iff bounded
  have overflows : _ ↔ overflow := throughPoints_eq_overflow_iff bounded
  refine ⟨derived, ?_, overflows⟩
  rw [← derived, ← overflows]
  constructor
  · intro none
    rw [none]
    exact ⟨nofun, nofun⟩
  · rintro ⟨noPlane, divides⟩
    rcases throughPoints_cases bounded with plane | none | overflow
    · exact absurd plane noPlane
    · exact none
    · exact absurd overflow divides

/-- The last slope that is a word, and the next one, which is refused. -/
theorem throughPoints_outcome_steep :
    let p : Point := ⟨0, 0, 0⟩
    let q : Point := ⟨1, 0, -2147483647⟩
    let q' : Point := ⟨1, 0, -2147483648⟩
    let u : Point := ⟨0, 1, 0⟩
    Bounded p q u ∧ (∃ plane, throughPoints p q u = .ok plane) ∧
      Bounded p q' u ∧ throughPoints p q' u = .error .noPlane := by
  intro p q q' u
  have bounded : Bounded p q u := ⟨⟨2147483647, 0, 1⟩, by decide, by decide⟩
  have bounded' : Bounded p q' u := ⟨⟨2147483648, 0, 1⟩, by decide, by decide⟩
  obtain ⟨derived, -, -⟩ := throughPoints_outcome bounded
  obtain ⟨-, none, -⟩ := throughPoints_outcome bounded'
  exact ⟨bounded, derived.2 (by decide), bounded', none.2 (by decide)⟩

/-- Three points that are not above one line, and a slope of `2 ^ 63` that is not refused. -/
theorem throughPoints_overflow :
    let p : Point := ⟨0, 0, 2147483647⟩
    let q : Point := ⟨0, 1, -2147483648⟩
    let u : Point := ⟨1, -2147483648, -1⟩
    Bounded p q u ∧ ¬IsWord ((normal p q u 0).tdiv (normal p q u 2)) ∧
      throughPoints p q u = .error .quotientOverflow ∧ throughPoints p q u ≠ .error .noPlane :=
  ⟨⟨⟨-9223372036854775808, -4294967295, -1⟩, by decide, by decide⟩, by decide, by decide, by decide⟩

end Plane

end SpeedController.Mixing
