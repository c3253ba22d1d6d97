import SpeedController.Proofs.Mixing.Tank

/-!
# Sticks beyond their travel

The travel of a stick is what a host says it is, and the stick may well leave it. The lines then rise
on beyond the motor units of a stop, and their values are cut to a short word before they are limited
to a duty. As long as the values at both ends of the samples fit, the command never steps back over the
whole range (`signedDemand_le`). Otherwise there is a sample at which the motor has all of its power
and next to it one at which it has none (`exists_drop`), so the values at the two ends decide
(`tank_steady_iff`).
-/

namespace SpeedController.Mixing

open Power Receiver

/-- The duty for a number of motor units, which is cut to a short word first. -/
def dutyOfUnits (deadzone : UInt8) (units : Int) : UInt8 :=
  suppress deadzone (dutyOf (Int16.ofInt units).toInt32)

/-- The motor units of a stick at `x`, ahead of its resting position. -/
def aheadUnits (rest high x : Int) : Int := 8160 - 8160 / (high - rest) * (high - x)

/-- The motor units of a stick at `x`, behind its resting position. -/
def behindUnits (low rest x : Int) : Int := 8160 / (rest - low) * (rest - x)

/-- The signed command of a stick at `x`. -/
def signedDemand (low rest high : Int) (deadzone : UInt8) (x : Int) : Int :=
  if rest < x then (dutyOfUnits deadzone (aheadUnits rest high x)).toNat
  else -(dutyOfUnits deadzone (behindUnits low rest x)).toNat

lemma le_full (duty : UInt8) : duty ≤ 255 :=
  UInt8.le_iff_toNat_le.2 (Nat.le_of_lt_succ duty.toNat_lt)

section
variable {deadzone : UInt8} {units units' : Int}

lemma toNat_dutyOf_ofInt (low : -32768 ≤ units) (fits : units < 32768) :
    (dutyOf (Int16.ofInt units).toInt32).toNat = min (units / 32).toNat 255 := by
  rw [toNat_dutyOf, Int16.toInt_toInt32, Int16.toInt_ofInt_of_le low fits]

lemma dutyOfUnits_le (low : 0 ≤ units) (le : units ≤ units') (fits : units' < 32768) :
    dutyOfUnits deadzone units ≤ dutyOfUnits deadzone units' := by
  apply duty_le
  rw [Int16.le_iff_toInt_le, Int16.toInt_ofInt_of_le (by omega) (by omega),
    Int16.toInt_ofInt_of_le (by omega) fits]
  exact le

lemma dutyOfUnits_of_enough (enough : 8160 ≤ units) (fits : units < 32768)
    (small : deadzone < 255) : dutyOfUnits deadzone units = 255 := by
  have full : dutyOf (Int16.ofInt units).toInt32 = 255 := by
    rw [← UInt8.toNat_inj, toNat_dutyOf_ofInt (by omega) fits]
    show _ = 255
    omega
  rw [dutyOfUnits, full, suppress, if_pos small]

/-- Beyond the end of the short word the motor units turn negative. -/
lemma dutyOfUnits_of_beyond (beyond : 32768 ≤ units) (near : units < 65536) :
    dutyOfUnits deadzone units = 0 := by
  have turned : Int16.ofInt units = .ofInt (units - 65536) := by
    rw [← Int16.toInt_inj, Int16.toInt_ofInt, Int16.toInt_ofInt]
    exact (Int.sub_bmod_right units 65536).symm
  have none : dutyOf (Int16.ofInt units).toInt32 = 0 := by
    rw [turned, ← UInt8.toNat_inj, toNat_dutyOf_ofInt (by omega) (by omega)]
    show _ = 0
    omega
  rw [dutyOfUnits, none]
  exact ite_self _

/-- A rise by no more than the motor units of a stop at a time does not step over the last ones that
fit. There the duty is full, and one step further it is gone. -/
lemma exists_drop {start slope far : Int} (begun : start < 32768) (rises : 0 < slope)
    (gentle : slope ≤ 8160) (beyond : 32768 ≤ start + slope * far) (small : deadzone < 255) :
    ∃ t, 0 ≤ t ∧ t < far ∧ 32768 ≤ start + slope * (t + 1) ∧
      dutyOfUnits deadzone (start + slope * t) = 255 ∧
      dutyOfUnits deadzone (start + slope * (t + 1)) = 0 := by
  let room := 32768 - 1 - start
  have last : slope * (room / slope) ≤ room := Int.mul_ediv_self_le (Int.ne_of_gt rises)
  have next : room < slope * (room / slope) + slope := Int.lt_mul_ediv_self_add rises
  have step : slope * (room / slope + 1) = slope * (room / slope) + slope := by
    rw [Int.mul_add, Int.mul_one]
  have short : room / slope < far := by
    apply Int.lt_of_mul_lt_mul_left _ (Int.le_of_lt rises)
    omega
  refine ⟨room / slope, Int.ediv_nonneg (by omega) (Int.le_of_lt rises), short, by omega, ?_, ?_⟩
  · exact dutyOfUnits_of_enough (by omega) (by omega) small
  · exact dutyOfUnits_of_beyond (by omega) (by omega)

end

section
variable {low rest high x y : Int} {deadzone : UInt8}

lemma slope_bounds {run : Int} (forth : 0 < run) (short : run ≤ 8160) :
    0 < 8160 / run ∧ 8160 / run ≤ 8160 := by
  have one : 1 ≤ 8160 / run := Int.le_ediv_of_mul_le forth (by omega)
  exact ⟨by omega, Int.ediv_le_self _ (by decide)⟩

lemma aheadUnits_add (rest high t : Int) :
    aheadUnits rest high (rest + t) = aheadUnits rest high rest + 8160 / (high - rest) * t := by
  simp only [aheadUnits, Int.mul_sub, Int.mul_add]
  omega

lemma behindUnits_sub (low rest t : Int) : behindUnits low rest (rest - t) = 8160 / (rest - low) * t := by
  rw [behindUnits, Int.sub_sub_self]

lemma aheadUnits_rest (below : rest < high) :
    0 ≤ aheadUnits rest high rest ∧ aheadUnits rest high rest ≤ 8160 := by
  have run : 0 < high - rest := by omega
  have covered := Int.ediv_mul_le 8160 (Int.ne_of_gt run)
  have slope := Int.ediv_nonneg (show (0 : Int) ≤ 8160 by decide) (Int.le_of_lt run)
  have risen := Int.mul_nonneg slope (Int.le_of_lt run)
  unfold aheadUnits
  omega

lemma aheadUnits_le (below : rest < high) (le : x ≤ y) :
    aheadUnits rest high x ≤ aheadUnits rest high y := by
  have slope := Int.ediv_nonneg (show (0 : Int) ≤ 8160 by decide) (show 0 ≤ high - rest by omega)
  exact Int.sub_le_sub_left (Int.mul_le_mul_of_nonneg_left (by omega) slope) _

lemma behindUnits_le (above : low < rest) (le : x ≤ y) :
    behindUnits low rest y ≤ behindUnits low rest x := by
  have slope := Int.ediv_nonneg (show (0 : Int) ≤ 8160 by decide) (show 0 ≤ rest - low by omega)
  exact Int.mul_le_mul_of_nonneg_left (by omega) slope

lemma signedDemand_of_lt (ahead : rest < x) :
    signedDemand low rest high deadzone x = (dutyOfUnits deadzone (aheadUnits rest high x)).toNat :=
  if_pos ahead

lemma signedDemand_of_le (behind : x ≤ rest) :
    signedDemand low rest high deadzone x = -(dutyOfUnits deadzone (behindUnits low rest x)).toNat :=
  if_neg (Int.not_lt.2 behind)

/-- As long as the motor units at both ends of the samples fit, the command does not step back. -/
lemma signedDemand_le (above : low < rest) (below : rest < high)
    (lower : behindUnits low rest 0 < 32768) (upper : aheadUnits rest high 250 < 32768)
    (begun : 0 ≤ x) (le : x ≤ y) (ended : y ≤ 250) :
    signedDemand low rest high deadzone x ≤ signedDemand low rest high deadzone y := by
  by_cases ahead : rest < x
  · have ahead' : rest < y := by omega
    have start := (aheadUnits_rest below).1
    have first := aheadUnits_le below (Int.le_of_lt ahead)
    have last := aheadUnits_le below ended
    have more : dutyOfUnits deadzone _ ≤ dutyOfUnits deadzone _ :=
      dutyOfUnits_le (Int.le_trans start first) (aheadUnits_le below le) (by omega)
    rw [signedDemand_of_lt ahead, signedDemand_of_lt ahead']
    exact Int.ofNat_le.2 (UInt8.le_iff_toNat_le.1 more)
  rw [signedDemand_of_le (Int.not_lt.1 ahead)]
  by_cases ahead' : rest < y
  · -- the command changes its sign
    rw [signedDemand_of_lt ahead']
    omega
  · have start : behindUnits low rest rest = 0 := by rw [behindUnits, Int.sub_self, Int.mul_zero]
    have first := behindUnits_le above (Int.not_lt.1 ahead')
    have last := behindUnits_le above begun
    have less : dutyOfUnits deadzone _ ≤ dutyOfUnits deadzone _ :=
      dutyOfUnits_le (by omega) (behindUnits_le above le) (by omega)
    rw [signedDemand_of_le (Int.not_lt.1 ahead')]
    exact Int.neg_le_neg (Int.ofNat_le.2 (UInt8.le_iff_toNat_le.1 less))

/-- Motor units that do not fit at the upper end of the samples are lost on the way there. -/
lemma exists_drop_ahead (low : Int) (below : rest < high) (short : high - rest ≤ 8160)
    (beyond : 32768 ≤ aheadUnits rest high 250) (small : deadzone < 255) :
    ∃ x, rest < x ∧ x < 250 ∧ signedDemand low rest high deadzone x = 255 ∧
      signedDemand low rest high deadzone (x + 1) = 0 := by
  obtain ⟨rises, gentle⟩ := slope_bounds (show 0 < high - rest by omega) short
  have start := (aheadUnits_rest below).2
  rw [show (250 : Int) = rest + (250 - rest) by omega, aheadUnits_add] at beyond
  obtain ⟨t, forth, near, next, full, none⟩ := exists_drop (by omega) rises gentle beyond small
  have moved : 0 < t := by
    rcases Int.lt_or_eq_of_le forth with moved | rfl
    · exact moved
    · omega
  rw [← aheadUnits_add] at full none
  refine ⟨rest + t, by omega, by omega, ?_, ?_⟩
  · rw [signedDemand_of_lt (by omega), full]
    rfl
  · rw [Int.add_assoc, signedDemand_of_lt (by omega), none]
    rfl

/-- Motor units that do not fit at the lower end of the samples are lost on the way there. The last
ones that fit are at least four samples away from the resting position, so they are reached even if
that lies beyond the samples. -/
lemma exists_drop_behind (high : Int) (above : low < rest) (short : rest - low ≤ 8160)
    (near : rest ≤ 254) (beyond : 32768 ≤ behindUnits low rest 0) (small : deadzone < 255) :
    ∃ x, 0 ≤ x ∧ x < 250 ∧ signedDemand low rest high deadzone x = 0 ∧
      signedDemand low rest high deadzone (x + 1) = -255 := by
  obtain ⟨rises, gentle⟩ := slope_bounds (show 0 < rest - low by omega) short
  rw [show (0 : Int) = rest - rest by omega, behindUnits_sub, ← Int.zero_add (_ * _)] at beyond
  obtain ⟨t, forth, within, next, full, none⟩ := exists_drop (by decide) rises gentle beyond small
  have far : 4 ≤ t := by
    have bounded := Int.mul_le_mul_of_nonneg_right gentle (show 0 ≤ t + 1 by omega)
    omega
  rw [Int.zero_add, ← behindUnits_sub] at full none
  refine ⟨rest - (t + 1), by omega, by omega, ?_, ?_⟩
  · rw [signedDemand_of_le (by omega), none]
    rfl
  · rw [show rest - (t + 1) + 1 = rest - t by omega, signedDemand_of_le (by omega), full]
    rfl

/-- The greatest deadzone ignores every duty. -/
lemma signedDemand_of_deaf (x : Int) : signedDemand low rest high 255 x = 0 := by
  have deaf (units : Int) : dutyOfUnits 255 units = 0 := if_neg (UInt8.not_lt.2 (le_full _))
  simp [signedDemand, deaf]

/-- The command never steps back exactly if the motor units at both ends of the samples fit, or nothing
gets through the deadzone. -/
lemma signedDemand_le_iff (above : low < rest) (below : rest < high) (bottom : 0 ≤ low)
    (top : high ≤ 255) :
    (∀ x y, 0 ≤ x → x ≤ y → y ≤ 250 →
        signedDemand low rest high deadzone x ≤ signedDemand low rest high deadzone y) ↔
      deadzone = 255 ∨
        behindUnits low rest 0 < 32768 ∧ aheadUnits rest high 250 < 32768 := by
  constructor
  · intro steady
    by_cases deaf : deadzone = 255
    · exact .inl deaf
    have small : deadzone < 255 := UInt8.lt_of_le_of_ne (le_full deadzone) deaf
    refine .inr ⟨Int.not_le.1 fun beyond => ?_, Int.not_le.1 fun beyond => ?_⟩
    · obtain ⟨x, begun, ended, none, full⟩ :=
        exists_drop_behind high above (by omega) (by omega) beyond small
      have step := steady x (x + 1) begun (by omega) (by omega)
      omega
    · obtain ⟨x, begun, ended, full, none⟩ := exists_drop_ahead low below (by omega) beyond small
      have step := steady x (x + 1) (by omega) (by omega) (by omega)
      omega
  · rintro (rfl | ⟨lower, upper⟩) x y begun le ended
    · exact Int.le_of_eq ((signedDemand_of_deaf x).trans (signedDemand_of_deaf y).symm)
    · exact signedDemand_le above below lower upper begun le ended

end

lemma exists_sample {x : Int} (low : 0 ≤ x) (high : x ≤ 250) :
    ∃ sample ≤ stickTop, (sample.toNat : Int) = x := by
  have value : (UInt16.ofNat x.toNat).toNat = x.toNat :=
    UInt16.toNat_ofNat_of_lt' (by show x.toNat < 65536; omega)
  have top : stickTop.toNat = 250 := rfl
  refine ⟨.ofNat x.toNat, ?_, ?_⟩
  · rw [UInt16.le_iff_toNat_le]
    omega
  · omega

/-- The stop of a stick as a short word. -/
lemma toInt_stop (stop : UInt8) : stop.toUInt16.toInt16.toInt = stop.toNat := by
  have bound := stop.toNat_lt
  rw [toInt_toInt16_of_lt (by rw [UInt8.toNat_toUInt16]; omega), UInt8.toNat_toUInt16]

namespace StickLines

variable {rest : Int16} {travel : Travel}

lemma forward_value (below : rest.toInt < travel.high.toNat) (x : Int16) :
    (around rest travel).forward.value x =
      .ofInt (aheadUnits rest.toInt travel.high.toNat x.toInt) := by
  have stop := toInt_stop travel.high
  have differ : rest ≠ travel.high.toUInt16.toInt16 := by
    rintro rfl
    omega
  have quotient : (8160 : Int).tdiv (travel.high.toNat - rest.toInt) =
      8160 / (travel.high.toNat - rest.toInt) := Int.tdiv_eq_ediv_of_nonneg (by decide)
  obtain ⟨line, through⟩ := Line.exists_through differ 0 topMotorValue
  rw [forward_of_through through, Line.value_eq_ofInt, Line.exact_of_through through,
    Line.slope_of_through through, stop, aheadUnits, ← quotient]
  rfl

lemma backward_value (above : travel.low.toNat < rest.toInt) (x : Int16) :
    (around rest travel).backward.value x =
      .ofInt (behindUnits travel.low.toNat rest.toInt x.toInt) := by
  have stop := toInt_stop travel.low
  have differ : travel.low.toUInt16.toInt16 ≠ rest := by
    rintro rfl
    omega
  have quotient : (-8160 : Int).tdiv (rest.toInt - travel.low.toNat) =
      -(8160 / (rest.toInt - travel.low.toNat)) := by
    rw [Int.neg_tdiv, Int.tdiv_eq_ediv_of_nonneg (by decide)]
  have falls : (0 : Int16).toInt - topMotorValue.toInt = -8160 := rfl
  have ending : (0 : Int16).toInt = 0 := rfl
  obtain ⟨line, through⟩ := Line.exists_through differ topMotorValue 0
  rw [backward_of_through through, Line.value_eq_ofInt, Line.exact_of_through through,
    Line.slope_of_through through, stop, falls, quotient, ending, behindUnits, Int.neg_mul,
    Int.sub_neg, Int.zero_add]

end StickLines

/-- The signed command of a calibrated stick. -/
lemma Calibration.signed_tankCommand {c : Calibration} {channel : Channel} {travel : Travel}
    (lines : c.lines.get channel = .around (c.neutral.get channel) travel)
    (above : travel.low.toNat < (c.neutral.get channel).toInt)
    (below : (c.neutral.get channel).toInt < travel.high.toNat) (deadzone : UInt8) (x : Int16) :
    (c.tankCommand channel x deadzone).signed =
      signedDemand travel.low.toNat (c.neutral.get channel).toInt travel.high.toNat deadzone
        x.toInt := by
  by_cases ahead : c.neutral.get channel < x
  · rw [tankCommand_of_lt ahead, lines, StickLines.forward_value below, Command.signed_forward,
      signedDemand_of_lt (Int16.lt_iff_toInt_lt.1 ahead)]
    rfl
  · rw [tankCommand_of_not_lt ahead, lines, StickLines.backward_value above,
      Command.signed_backward,
      signedDemand_of_le (Int16.le_iff_toInt_le.1 (Int16.not_lt.1 ahead))]
    rfl

/-- A stick that is calibrated between the ends of its travel drives its motor without ever stepping
back, over all samples and whatever the other stick does, exactly if the motor units at both ends of
the samples fit a short word, or the deadzone takes everything. -/
theorem Mixer.tank_steady_iff {settings : Settings} (tank : settings.mode = .tank)
    {rest : Axes UInt16} {c : Channel}
    (above : (settings.travel.get c).low.toNat < (rest.get c).toNat)
    (below : (rest.get c).toNat < (settings.travel.get c).high.toNat) :
    let m := calibrate rest settings
    let low := (settings.travel.get c).low.toNat
    let high := (settings.travel.get c).high.toNat
    (∀ p q : Axes UInt16, p.get c ≤ q.get c → q.get c ≤ stickTop →
        ((m.mix p settings).get c.motor).signed ≤ ((m.mix q settings).get c.motor).signed) ↔
      settings.deadzone = 255 ∨
        behindUnits low (rest.get c).toNat 0 < 32768 ∧
          aheadUnits (rest.get c).toNat high stickTop.toNat < 32768 := by
  intro m low high
  have bound : high < 256 := UInt8.toNat_lt _
  have neutral : ((Calibration.take rest settings.travel).neutral.get c).toInt = (rest.get c).toNat := by
    rw [Calibration.neutral_take]
    exact toInt_toInt16_of_lt (by omega)
  have lines := Calibration.lines_take rest settings.travel c
  rw [← Calibration.neutral_take rest settings.travel] at lines
  have demand (p : Axes UInt16) (le : p.get c ≤ stickTop) :
      ((m.mix p settings).get c.motor).signed =
        signedDemand low (rest.get c).toNat high settings.deadzone (p.get c).toNat := by
    rw [get_mix_of_tank tank, ← neutral, ← toInt_toInt16_of_le le]
    exact Calibration.signed_tankCommand lines (by omega) (by omega) _ _
  have top : (stickTop.toNat : Int) = 250 := rfl
  rw [top, ← signedDemand_le_iff (by omega) (by omega) (by omega) (by omega)]
  constructor
  · intro steady x y begun le ended
    obtain ⟨first, first_le, rfl⟩ := exists_sample begun (Int.le_trans le ended)
    obtain ⟨last, last_le, rfl⟩ := exists_sample (Int.le_trans begun le) ended
    have step := steady (.both first) (.both last)
    simp only [Axes.get_both] at step
    have step := step (UInt16.le_iff_toNat_le.2 (Int.ofNat_le.1 le)) last_le
    rw [demand _ (by rwa [Axes.get_both]), demand _ (by rwa [Axes.get_both])] at step
    simpa only [Axes.get_both] using step
  · intro steady p q le ended
    have ended' := UInt16.le_iff_toNat_le.1 ended
    have le' := UInt16.le_iff_toNat_le.1 le
    rw [demand p (UInt16.le_trans le ended), demand q ended]
    exact steady _ _ (by omega) (by omega) (by omega)

/-- A left-hand stick of little travel, and a right-hand one of more. -/
def narrowTravel : Settings := { Settings.factory with travel := ⟨⟨100, 150⟩, ⟨70, 200⟩⟩ }

/-- The right-hand stick may be moved from one end of the samples to the other. -/
theorem Mixer.tank_steady_right :
    let m := calibrate ⟨125, 110⟩ narrowTravel
    70 < (110 : UInt16).toNat ∧ (110 : UInt16).toNat < 200 ∧
      behindUnits 70 110 0 = 22440 ∧ aheadUnits 110 200 250 = 12660 ∧
      ∀ p q : Axes UInt16, p.ch2 ≤ q.ch2 → q.ch2 ≤ stickTop →
        (m.mix p narrowTravel).right.signed ≤ (m.mix q narrowTravel).right.signed := by
  have above : (narrowTravel.travel.get .ch2).low.toNat < (110 : UInt16).toNat := by decide
  have below : (110 : UInt16).toNat < (narrowTravel.travel.get .ch2).high.toNat := by decide
  have steady := @tank_steady_iff narrowTravel rfl ⟨125, 110⟩ .ch2 above below
  exact ⟨above, below, by decide, by decide, steady.2 (.inr (by decide))⟩

/-- The left-hand stick drives its motor with all power at one sample and with none at the next. -/
theorem Mixer.tank_steps_back :
    let m := calibrate ⟨125, 110⟩ narrowTravel
    narrowTravel.mode = .tank ∧ (narrowTravel.travel.ch1.low.toNat < (125 : UInt16).toNat ∧
      (125 : UInt16).toNat < narrowTravel.travel.ch1.high.toNat) ∧
      (225 : UInt16) ≤ 226 ∧ 226 ≤ stickTop ∧
      (m.mix ⟨225, 110⟩ narrowTravel).left = ⟨.forward, 255⟩ ∧
      (m.mix ⟨226, 110⟩ narrowTravel).left = ⟨.forward, 0⟩ ∧
      ¬(m.mix ⟨225, 110⟩ narrowTravel).left.signed ≤ (m.mix ⟨226, 110⟩ narrowTravel).left.signed := by
  decide

end SpeedController.Mixing
