import Mathlib.LinearAlgebra.CrossProduct
import SpeedController.Mixing.Plane

/-!
# Normals of three points

The plane through three points is known by a normal and by the value of that normal on the plane, its
offset. Over the integers these do not depend on which of the points comes first: the normal takes its
offset at all three of them (`dotProduct_normal`), and another order of the points changes no more than
the sign of both (`normal_perm`). The words of a derivation are these numbers as long as
no difference, product or sum overflows on the way to them (`Bounded.exists_normal`).
-/

namespace SpeedController.Mixing

open Matrix

/-- A number as a long word, if it fits. -/
def longWord? (n : ℤ) : Option Int64 :=
  if Int64.minValue.toInt ≤ n ∧ n ≤ Int64.maxValue.toInt then some (.ofInt n) else none

lemma toInt_of_longWord? {n : ℤ} {w : Int64} (h : longWord? n = some w) : w.toInt = n := by
  unfold longWord? at h
  split at h
  · next fits =>
    cases h
    exact Int64.toInt_ofInt_of_le fits.1 (Int.lt_add_one_of_le fits.2)
  · cases h

/-- The difference of two products, with a check of every operation. -/
def minor? (a b c d : Int64) : Option Int64 := do
  let first ← longWord? (a.toInt * b.toInt)
  let second ← longWord? (c.toInt * d.toInt)
  longWord? (first.toInt - second.toInt)

lemma toInt_of_minor? {a b c d w : Int64} (h : minor? a b c d = some w) :
    w.toInt = a.toInt * b.toInt - c.toInt * d.toInt := by
  simp only [minor?, Option.bind_eq_bind, Option.bind_eq_some_iff] at h
  obtain ⟨first, left, second, right, difference⟩ := h
  rw [toInt_of_longWord? difference, toInt_of_longWord? left, toInt_of_longWord? right]

namespace Arrow

variable {a b c : Arrow}

/-- The components of an arrow as numbers. -/
def numbers (a : Arrow) : Fin 3 → ℤ := ![a.ch1.toInt, a.ch2.toInt, a.motor.toInt]

/-- The difference of two arrows, with a check of every operation. -/
def sub? (a b : Arrow) : Option Arrow := do
  let ch1 ← longWord? (a.ch1.toInt - b.ch1.toInt)
  let ch2 ← longWord? (a.ch2.toInt - b.ch2.toInt)
  let motor ← longWord? (a.motor.toInt - b.motor.toInt)
  some ⟨ch1, ch2, motor⟩

/-- The cross product, with a check of every operation. -/
def cross? (a b : Arrow) : Option Arrow := do
  let ch1 ← minor? a.ch2 b.motor a.motor b.ch2
  let ch2 ← minor? a.motor b.ch1 a.ch1 b.motor
  let motor ← minor? a.ch1 b.ch2 a.ch2 b.ch1
  some ⟨ch1, ch2, motor⟩

/-- The scalar product, with a check of every operation. -/
def dot? (a b : Arrow) : Option Int64 := do
  let first ← longWord? (a.ch1.toInt * b.ch1.toInt)
  let second ← longWord? (a.ch2.toInt * b.ch2.toInt)
  let third ← longWord? (a.motor.toInt * b.motor.toInt)
  let sum ← longWord? (first.toInt + second.toInt)
  longWord? (sum.toInt + third.toInt)

lemma numbers_of_sub? (h : a.sub? b = some c) : c.numbers = a.numbers - b.numbers := by
  simp only [sub?, Option.bind_eq_bind, Option.bind_eq_some_iff, Option.some.injEq] at h
  obtain ⟨ch1, first, ch2, second, motor, third, rfl⟩ := h
  rw [numbers, toInt_of_longWord? first, toInt_of_longWord? second, toInt_of_longWord? third]
  simp [numbers]

lemma numbers_of_cross? (h : a.cross? b = some c) : c.numbers = a.numbers ⨯₃ b.numbers := by
  simp only [cross?, Option.bind_eq_bind, Option.bind_eq_some_iff, Option.some.injEq] at h
  obtain ⟨ch1, first, ch2, second, motor, third, rfl⟩ := h
  rw [numbers, toInt_of_minor? first, toInt_of_minor? second, toInt_of_minor? third, cross_apply]
  rfl

lemma toInt_of_dot? {w : Int64} (h : a.dot? b = some w) : w.toInt = a.numbers ⬝ᵥ b.numbers := by
  simp only [dot?, Option.bind_eq_bind, Option.bind_eq_some_iff] at h
  obtain ⟨x, first, y, second, z, third, xy, sum, total⟩ := h
  rw [toInt_of_longWord? total, toInt_of_longWord? sum, toInt_of_longWord? first,
    toInt_of_longWord? second, toInt_of_longWord? third, vec3_dotProduct]
  rfl

/-- Numbers as the components of an arrow, cut to words. -/
def ofNumbers (v : Fin 3 → ℤ) : Arrow := ⟨.ofInt (v 0), .ofInt (v 1), .ofInt (v 2)⟩

lemma ofNumbers_numbers (a : Arrow) : ofNumbers a.numbers = a := by
  simp [ofNumbers, numbers]

lemma ofNumbers_sub (a b : Arrow) : ofNumbers (a.numbers - b.numbers) = a.sub b := by
  simp [ofNumbers, numbers, sub, Int64.ofInt_sub]

lemma ofNumbers_cross (a b : Arrow) : ofNumbers (a.numbers ⨯₃ b.numbers) = a.cross b := by
  simp [ofNumbers, numbers, cross, cross_apply, Int64.ofInt_sub, Int64.ofInt_mul]

lemma ofInt_dot (a b : Arrow) : .ofInt (a.numbers ⬝ᵥ b.numbers) = a.dot b := by
  rw [vec3_dotProduct]
  simp [numbers, dot, Int64.ofInt_add, Int64.ofInt_mul]

lemma sub_of_sub? (h : a.sub? b = some c) : a.sub b = c := by
  rw [← ofNumbers_sub, ← numbers_of_sub? h, ofNumbers_numbers]

lemma cross_of_cross? (h : a.cross? b = some c) : a.cross b = c := by
  rw [← ofNumbers_cross, ← numbers_of_cross? h, ofNumbers_numbers]

lemma dot_of_dot? {w : Int64} (h : a.dot? b = some w) : a.dot b = w := by
  rw [← ofInt_dot, ← toInt_of_dot? h, Int64.ofInt_toInt]

end Arrow

/-- The coordinates of a point as numbers. -/
def Point.numbers (p : Point) : Fin 3 → ℤ := ![p.ch1.toInt, p.ch2.toInt, p.motor.toInt]

lemma numbers_ofPoint (p : Point) : (Arrow.ofPoint p).numbers = p.numbers := by
  simp [Arrow.numbers, Arrow.ofPoint, Point.numbers]

namespace Plane

variable {p q u : Point}

/-- A normal of the plane through three points. -/
def normal (p q u : Point) : Fin 3 → ℤ := (p.numbers - q.numbers) ⨯₃ (p.numbers - u.numbers)

/-- The value of the normal at the points. -/
def offset (p q u : Point) : ℤ := normal p q u ⬝ᵥ p.numbers

lemma dotProduct_normal {x : Point} (mem : x ∈ [p, q, u]) :
    normal p q u ⬝ᵥ x.numbers = offset p q u := by
  have level : normal p q u ⬝ᵥ (p.numbers - x.numbers) = 0 := by
    rw [normal, dotProduct_comm]
    simp only [List.mem_cons, List.not_mem_nil, or_false] at mem
    rcases mem with rfl | rfl | rfl
    · rw [sub_self, zero_dotProduct]
    · exact dot_self_cross _ _
    · exact dot_cross_self _ _
  rw [dotProduct_sub, sub_eq_zero] at level
  exact level.symm

lemma on_normal {x : Point} (mem : x ∈ [p, q, u]) : normal p q u 0 * x.ch1.toInt +
    normal p q u 1 * x.ch2.toInt + normal p q u 2 * x.motor.toInt = offset p q u := by
  rw [← dotProduct_normal mem, vec3_dotProduct]
  rfl

lemma normal_motor (p q u : Point) : normal p q u 2 =
    (p.ch1.toInt - q.ch1.toInt) * (p.ch2.toInt - u.ch2.toInt) -
      (p.ch2.toInt - q.ch2.toInt) * (p.ch1.toInt - u.ch1.toInt) := by
  simp [normal, cross_apply, Point.numbers]

lemma normal_swap (p q u : Point) : normal q p u = -normal p q u := by
  have back : q.numbers - p.numbers = -(p.numbers - q.numbers) := (neg_sub _ _).symm
  -- The other edge gets a part along the first one, which a cross product does not see.
  have across : q.numbers - u.numbers = p.numbers - u.numbers - (p.numbers - q.numbers) :=
    (sub_sub_sub_cancel_left _ _ _).symm
  rw [normal, normal, back, across, map_neg, LinearMap.neg_apply, map_sub, cross_self, sub_zero]

lemma normal_swap' (p q u : Point) : normal p u q = -normal p q u :=
  (cross_anticomm _ _).symm

lemma offset_swap (p q u : Point) : offset q p u = -offset p q u := by
  rw [offset, normal_swap, neg_dotProduct, dotProduct_normal (by simp)]

lemma offset_swap' (p q u : Point) : offset p u q = -offset p q u := by
  rw [offset, normal_swap', neg_dotProduct, offset]

lemma normal_rotate (p q u : Point) : normal q u p = normal p q u := by
  rw [normal_swap', normal_swap, neg_neg]

lemma offset_rotate (p q u : Point) : offset q u p = offset p q u := by
  rw [offset_swap', offset_swap, neg_neg]

/-- The orders of three points, with the signs of the permutations. -/
lemma orders (σ : Equiv.Perm (Fin 3)) : (σ 0, σ 1, σ 2, (σ.sign : ℤ)) ∈
    [(0, 1, 2, 1), (1, 2, 0, 1), (2, 0, 1, 1), (0, 2, 1, -1), (1, 0, 2, -1), (2, 1, 0, -1)] := by
  revert σ
  decide

lemma normal_perm (points : Fin 3 → Point) (σ : Equiv.Perm (Fin 3)) :
    normal (points (σ 0)) (points (σ 1)) (points (σ 2)) =
        (σ.sign : ℤ) • normal (points 0) (points 1) (points 2) ∧
      offset (points (σ 0)) (points (σ 1)) (points (σ 2)) =
        σ.sign * offset (points 0) (points 1) (points 2) := by
  have order := orders σ
  simp only [List.mem_cons, Prod.mk.injEq, List.not_mem_nil, or_false] at order
  rcases order with order | order | order | order | order | order
  all_goals
    obtain ⟨first, second, third, sign⟩ := order
    rw [first, second, third, sign]
  -- A rotation keeps both numbers, and a swap changes their signs. The last order is a swap after one.
  · rw [one_smul, one_mul]
    exact ⟨rfl, rfl⟩
  · rw [one_smul, one_mul]
    exact ⟨normal_rotate .., offset_rotate ..⟩
  · rw [one_smul, one_mul]
    exact ⟨(normal_rotate ..).symm, (offset_rotate ..).symm⟩
  · rw [neg_one_smul, neg_one_mul]
    exact ⟨normal_swap' .., offset_swap' ..⟩
  · rw [neg_one_smul, neg_one_mul]
    exact ⟨normal_swap .., offset_swap ..⟩
  · rw [neg_one_smul, neg_one_mul, normal_rotate, offset_rotate]
    exact ⟨normal_swap' .., offset_swap' ..⟩

/-- The normal of three points, with a check of every operation. -/
def normal? (p q u : Point) : Option Arrow := do
  let a ← (Arrow.ofPoint p).sub? (.ofPoint q)
  let b ← (Arrow.ofPoint p).sub? (.ofPoint u)
  a.cross? b

/-- No difference, product or sum overflows while a plane is derived. The offset is only needed if there
is one. -/
def Bounded (p q u : Point) : Prop :=
  ∃ n, normal? p q u = some n ∧ (n.motor ≠ 0 → (n.dot? (.ofPoint p)).isSome)

lemma Bounded.exists_normal (bounded : Bounded p q u) :
    ∃ n, ((Arrow.ofPoint p).sub (.ofPoint q)).cross ((Arrow.ofPoint p).sub (.ofPoint u)) = n ∧
      n.ch1.toInt = normal p q u 0 ∧ n.ch2.toInt = normal p q u 1 ∧
      n.motor.toInt = normal p q u 2 ∧
      (normal p q u 2 ≠ 0 → (n.dot (.ofPoint p)).toInt = offset p q u) := by
  obtain ⟨n, checked, total⟩ := bounded
  simp only [normal?, Option.bind_eq_bind, Option.bind_eq_some_iff] at checked
  obtain ⟨a, first, b, second, product⟩ := checked
  have numbers : n.numbers = normal p q u := by
    rw [Arrow.numbers_of_cross? product, Arrow.numbers_of_sub? first, Arrow.numbers_of_sub? second]
    simp only [numbers_ofPoint]
    rfl
  refine ⟨n, ?_, congrFun numbers 0, congrFun numbers 1, congrFun numbers 2, fun steep => ?_⟩
  · rw [Arrow.sub_of_sub? first, Arrow.sub_of_sub? second, Arrow.cross_of_cross? product]
  · have nonzero : n.motor ≠ 0 := by
      rintro zero
      rw [← congrFun numbers 2] at steep
      exact steep (congrArg Int64.toInt zero)
    obtain ⟨d, scalar⟩ := Option.isSome_iff_exists.1 (total nonzero)
    rw [Arrow.dot_of_dot? scalar, Arrow.toInt_of_dot? scalar, numbers, numbers_ofPoint]
    rfl

end Plane

end SpeedController.Mixing
