import SpeedController.Proofs.Mixing.Tank

/-!
# Delta mode

Products and differences wrap while a plane is evaluated, and the wraps cancel: the value is the exact
one, cut to the word (`Plane.value_eq_ofInt`). Its size is limited where it is not a word, which makes no
difference to a duty (`toNat_dutyOf_magnitude`). So a command is exact as soon as the value of its plane
fits, whatever becomes of the terms (`Mixer.delta_exact`).
-/

namespace SpeedController.Mixing

open Power Receiver

/-- The duty for a number of motor units of either sign, before the deadzone. -/
def dutySize (units : Int) : Nat := min (units.natAbs / 32) 255

namespace Plane

/-- A value is the exact one, cut to the word. -/
lemma value_eq_ofInt (p : Plane) (x y : Int16) : p.value x y = .ofInt (p.exact x.toInt y.toInt) := by
  rw [← Int32.toInt_inj, Int32.toInt_ofInt]
  simp only [value, exact, Int32.toInt_sub, Int32.toInt_mul, Int16.toInt_toInt32, Int.bmod_sub_bmod,
    Int.sub_bmod_bmod]

lemma toInt_value_of_fits {p : Plane} {x y : Int16}
    (low : Int32.minValue.toInt ≤ p.exact x.toInt y.toInt)
    (high : p.exact x.toInt y.toInt ≤ Int32.maxValue.toInt) :
    (p.value x y).toInt = p.exact x.toInt y.toInt := by
  rw [value_eq_ofInt]
  exact Int32.toInt_ofInt_of_le low (Int.lt_add_one_of_le high)

end Plane

/-- The size of the least word is no word, but it is far beyond a full duty. -/
lemma toNat_dutyOf_magnitude (v : Int32) : (dutyOf (magnitude v)).toNat = dutySize v.toInt := by
  rw [toNat_dutyOf, dutySize, magnitude]
  by_cases least : v = Int32.minValue
  · subst least
    decide
  have low := v.le_toInt
  have above : v.toInt ≠ -2 ^ 31 := fun same => least (Int32.toInt_inj.1 same)
  have high := v.toInt_lt
  have sign : v < 0 ↔ v.toInt < 0 := Int32.lt_iff_toInt_lt
  rw [if_neg least]
  by_cases negative : v < 0
  · have size : (-v).toInt = -v.toInt := by
      rw [Int32.toInt_neg]
      exact Int.bmod_eq_of_le_mul_two (by omega) (by omega)
    rw [if_pos negative, size]
    rw [sign] at negative
    omega
  · rw [if_neg negative]
    rw [sign] at negative
    omega

lemma toNat_suppress (deadzone duty : UInt8) :
    (suppress deadzone duty).toNat = if duty.toNat ≤ deadzone.toNat then 0 else duty.toNat := by
  rw [suppress]
  by_cases passes : deadzone < duty
  · rw [if_pos passes, if_neg (Nat.not_le.2 (UInt8.lt_iff_toNat_lt.1 passes))]
  · rw [if_neg passes, if_pos (UInt8.le_iff_toNat_le.1 (UInt8.not_lt.1 passes))]
    rfl

section
variable (plane : Plane) (deflection : Axes Int16) (deadzone : UInt8)

lemma direction_deltaCommand :
    (deltaCommand plane deflection deadzone).direction = .backward ↔
      (plane.value deflection.ch1 deflection.ch2).toInt < 0 := by
  have sign : plane.value deflection.ch1 deflection.ch2 < 0 ↔ _ := Int32.lt_iff_toInt_lt
  rw [← Int32.toInt_zero, ← sign, deltaCommand]
  by_cases negative : plane.value deflection.ch1 deflection.ch2 < 0 <;> simp [negative]

lemma toNat_duty_deltaCommand :
    let size := dutySize (plane.value deflection.ch1 deflection.ch2).toInt
    (deltaCommand plane deflection deadzone).duty.toNat =
      if size ≤ deadzone.toNat then 0 else size := by
  intro size
  rw [deltaCommand, toNat_suppress, toNat_dutyOf_magnitude]

end

namespace Mixer

lemma get_mix_of_delta {settings : Settings} (delta : settings.mode = .delta) (m : Mixer)
    (samples : Axes UInt16) (motor : Motor) :
    (m.mix samples settings).get motor = deltaCommand (settings.planes.get motor)
      ⟨samples.ch1.toInt16 - m.inForce.neutral.ch1, samples.ch2.toInt16 - m.inForce.neutral.ch2⟩
      settings.deadzone := by
  simp only [mix, delta]
  exact Sides.get_map _ _ _

/-- In delta mode the command of a motor is found by exact arithmetic, as long as the value of its plane
fits a word; the products and the differences on the way to it need not. All samples of a stick and all
resting positions that it can have are below the sign bit. -/
theorem delta_exact {settings : Settings} (delta : settings.mode = .delta) (taken : Settings)
    {rest samples : Axes UInt16} (resting : ∀ c, (rest.get c).toNat < 32768)
    (sampled : ∀ c, (samples.get c).toNat < 32768) (motor : Motor) :
    let v := (settings.planes.get motor).exact ((samples.ch1.toNat : Int) - rest.ch1.toNat)
      ((samples.ch2.toNat : Int) - rest.ch2.toNat)
    let size := min (v.natAbs / 32) 255
    let command := ((calibrate rest taken).mix samples settings).get motor
    Int32.minValue.toInt ≤ v → v ≤ Int32.maxValue.toInt →
      (command.direction = .backward ↔ v < 0) ∧
        command.duty.toNat = if size ≤ settings.deadzone.toNat then 0 else size := by
  intro v size command low high
  have value : ((settings.planes.get motor).value (samples.ch1.toInt16 - rest.ch1.toInt16)
      (samples.ch2.toInt16 - rest.ch2.toInt16)).toInt = v := by
    have deflection₁ := toInt_deflection (sampled .ch1) (resting .ch1)
    have deflection₂ := toInt_deflection (sampled .ch2) (resting .ch2)
    simp only [Axes.get] at deflection₁ deflection₂
    have same : (settings.planes.get motor).exact (samples.ch1.toInt16 - rest.ch1.toInt16).toInt
        (samples.ch2.toInt16 - rest.ch2.toInt16).toInt = v := by rw [deflection₁, deflection₂]
    rw [Plane.toInt_value_of_fits (by rwa [same]) (by rwa [same]), same]
  have mixed : command = deltaCommand (settings.planes.get motor)
      ⟨samples.ch1.toInt16 - rest.ch1.toInt16, samples.ch2.toInt16 - rest.ch2.toInt16⟩
      settings.deadzone := get_mix_of_delta delta _ _ _
  rw [mixed, direction_deltaCommand, toNat_duty_deltaCommand]
  dsimp only
  rw [value]
  exact ⟨Iff.rfl, rfl⟩

/-- The products do not fit, but the value of the left-hand plane is the least word and that of the
right-hand one is six duties backward, one more than the deadzone. -/
theorem delta_exact_least :
    let settings : Settings := { Settings.factory with
      mode := .delta
      planes := ⟨⟨0, 1073741824, 1073741824⟩, ⟨-192, 980000000, 1000000000⟩⟩ }
    let commands := (calibrate ⟨125, 125⟩ .factory).mix ⟨225, 27⟩ settings
    Int32.maxValue.toInt < 1073741824 * 100 ∧ Int32.maxValue.toInt < 980000000 * 100 ∧
      settings.planes.left.exact 100 (-98) = Int32.minValue.toInt ∧
      settings.planes.right.exact 100 (-98) = -192 ∧
      commands.left.direction = .backward ∧ commands.left.duty.toNat = 255 ∧
      commands.right.direction = .backward ∧ commands.right.duty.toNat = 6 := by
  intro settings commands
  have resting (c : Channel) : ((⟨125, 125⟩ : Axes UInt16).get c).toNat < 32768 := by
    cases c <;> decide
  have sampled (c : Channel) : ((⟨225, 27⟩ : Axes UInt16).get c).toNat < 32768 := by
    cases c <;> decide
  have exact_command := @delta_exact settings rfl .factory _ _ resting sampled
  obtain ⟨left, least⟩ := exact_command .left (by decide) (by decide)
  obtain ⟨right, six⟩ := exact_command .right (by decide) (by decide)
  exact ⟨by decide, by decide, by decide, by decide, left.2 (by decide), least.trans (by decide),
    right.2 (by decide), six.trans (by decide)⟩

end Mixer

end SpeedController.Mixing
