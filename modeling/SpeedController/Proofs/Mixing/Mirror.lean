import SpeedController.Link.Message
import SpeedController.Proofs.Mixing.Delta

/-!
# Mirrored planes

A host names one slope for both motors. Their planes lean the same way along channel 1 and opposite
ways along channel 2, so mirroring the stick of channel 2 at its resting position exchanges the motors,
if their offsets are the same. This is an identity of words (`Plane.value_mirrored`): the slope may well
be the least word, which is its own negative.
-/

namespace SpeedController

open Link Mixing Power Receiver

namespace Mixing

/-- The sticks are at samples that are `a` and `b` away from their resting positions. -/
structure Deflected (rest : Axes Int16) (a b : Int) (samples : Axes UInt16) : Prop where
  ch1 : samples.ch1.toNat = rest.ch1.toInt + a
  ch2 : samples.ch2.toNat = rest.ch2.toInt + b
  within : ∀ c, samples.get c ≤ stickTop

variable {rest : Axes Int16} {a b : Int} {p q : Axes UInt16}

lemma Plane.value_mirrored (r s : Int32) (x : Int16) {y z : Int16} (opposite : z.toInt32 = -y.toInt32) :
    value ⟨r, s, s⟩ x y = value ⟨r, s, -s⟩ x z := by
  rw [value, value, opposite, Int32.neg_mul_neg]

lemma Deflected.ch1_eq (there : Deflected rest a b p) (mirrored : Deflected rest a (-b) q) :
    p.ch1 = q.ch1 := by
  have same := there.ch1.trans mirrored.ch1.symm
  exact UInt16.toNat_inj.1 (Int.ofNat_inj.1 same)

/-- Samples on both sides of the resting position are not far from it. -/
lemma Deflected.bounded (there : Deflected rest a b p) (mirrored : Deflected rest a (-b) q) :
    -125 ≤ b ∧ b ≤ 125 := by
  have top : stickTop.toNat = 250 := rfl
  have near := UInt16.le_iff_toNat_le.1 (there.within .ch2)
  have near' := UInt16.le_iff_toNat_le.1 (mirrored.within .ch2)
  have forth := there.ch2
  have back := mirrored.ch2
  simp only [Axes.get] at near near'
  omega

lemma Deflected.toInt_deflection (there : Deflected rest a b p) (low : -125 ≤ b) (high : b ≤ 125) :
    (p.ch2.toInt16 - rest.ch2).toInt = b := by
  have sample := toInt_toInt16_of_le (there.within .ch2)
  have forth := there.ch2
  simp only [Axes.get] at sample
  rw [Int16.toInt_sub, sample]
  exact (congrArg (Int.bmod · _) (by omega)).trans (Int.bmod_eq_of_le_mul_two (by omega) (by omega))

lemma Deflected.opposite (there : Deflected rest a b p) (mirrored : Deflected rest a (-b) q) :
    (q.ch2.toInt16 - rest.ch2).toInt32 = -(p.ch2.toInt16 - rest.ch2).toInt32 := by
  obtain ⟨low, high⟩ := there.bounded mirrored
  rw [← Int32.toInt_inj, Int32.toInt_neg, Int16.toInt_toInt32, Int16.toInt_toInt32,
    there.toInt_deflection low high, mirrored.toInt_deflection (by omega) (by omega)]
  exact (Int.bmod_eq_of_le_mul_two (by omega) (by omega)).symm

/-- What a motor does on one plane of a host, the other motor does on the other one, on the other side
of the resting position of channel 2. -/
lemma Deflected.deltaCommand_eq (there : Deflected rest a b p) (mirrored : Deflected rest a (-b) q)
    (r s : Int32) (deadzone : UInt8) :
    deltaCommand ⟨r, s, s⟩ ⟨p.ch1.toInt16 - rest.ch1, p.ch2.toInt16 - rest.ch2⟩ deadzone =
      deltaCommand ⟨r, s, -s⟩ ⟨q.ch1.toInt16 - rest.ch1, q.ch2.toInt16 - rest.ch2⟩ deadzone := by
  rw [there.ch1_eq mirrored, deltaCommand, deltaCommand]
  dsimp only
  rw [Plane.value_mirrored r s _ (there.opposite mirrored)]

end Mixing

namespace Link

/-- Let a host set delta mode, with the same offset for both motors. On any settings and any mixer,
what the left-hand motor does while the sticks are deflected, the right-hand motor does while the stick
of channel 2 is deflected to the other side, and vice versa. -/
theorem WriteRequest.planes_mirrored {w : WriteRequest} {k : MixCoefficients} (delta : w.mode = .delta)
    (brought : w.coefficients = some k) (level : k.leftOffset = k.rightOffset) (s : Settings)
    (m : Mixer) {a b : Int} {p q : Axes UInt16} (there : Deflected m.inForce.neutral a b p)
    (mirrored : Deflected m.inForce.neutral a (-b) q) :
    let commands := m.mix p (w.applyTo s)
    let commands' := m.mix q (w.applyTo s)
    commands.left = commands'.right ∧ commands.right = commands'.left := by
  intro commands commands'
  have mode : (w.applyTo s).mode = .delta := delta
  have planes : (w.applyTo s).planes = k.planes := by rw [WriteRequest.applyTo, brought]; rfl
  have command (samples : Axes UInt16) (motor : Motor) := Mixer.get_mix_of_delta mode m samples motor
  rw [planes] at command
  have back : Deflected m.inForce.neutral a (- -b) p := by rwa [Int.neg_neg]
  constructor
  · calc commands.left
      _ = _ := command p .left
      _ = _ := there.deltaCommand_eq mirrored k.leftOffset k.slope w.deadzone
      _ = commands'.right := by
        rw [level]
        exact (command q .right).symm
  · calc commands.right
      _ = _ := command p .right
      _ = _ := (mirrored.deltaCommand_eq back k.rightOffset k.slope w.deadzone).symm
      _ = commands'.left := by
        rw [← level]
        exact (command q .left).symm

/-- The slope is next to the least word, and its products wrap many times. -/
theorem WriteRequest.planes_mirrored_steep :
    let k : MixCoefficients := ⟨1000, 1000, Int32.minValue + 1⟩
    let w : WriteRequest := ⟨.delta, 5, .both .full, some k⟩
    let m := Mixer.calibrate ⟨125, 120⟩ .factory
    let commands := m.mix ⟨225, 180⟩ (w.applyTo .factory)
    let commands' := m.mix ⟨225, 60⟩ (w.applyTo .factory)
    Deflected m.inForce.neutral 100 60 ⟨225, 180⟩ ∧ Deflected m.inForce.neutral 100 (-60) ⟨225, 60⟩ ∧
      commands.left = commands'.right ∧ commands.right = commands'.left ∧
      commands = ⟨⟨.forward, 26⟩, ⟨.forward, 30⟩⟩ := by
  intro k w m commands commands'
  have there : Deflected m.inForce.neutral 100 60 ⟨225, 180⟩ :=
    ⟨by decide, by decide, fun c => by cases c <;> decide⟩
  have mirrored : Deflected m.inForce.neutral 100 (-60) ⟨225, 60⟩ :=
    ⟨by decide, by decide, fun c => by cases c <;> decide⟩
  obtain ⟨left, right⟩ := @planes_mirrored w k rfl rfl rfl .factory m _ _ _ _ there mirrored
  exact ⟨there, mirrored, left, right, by decide⟩

end Link

end SpeedController
