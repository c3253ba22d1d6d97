import SpeedController.Receiver.Channel

/-!
# Pulses and stick samples

A stick position arrives as the width of a pulse, counted in timer ticks. A pulse of 1 ms is the
lower stop and one of 2 ms the upper stop of the stick; what lies between is the sample, from 0 to
`stickTop`.
-/

namespace SpeedController.Receiver

/-- The length of one timer tick in microseconds. -/
def tickMicros : Nat := 4

/-- The widest pulse that carries a stick position, in ticks. -/
def widestPulse : UInt16 := 500

/-- The width of the pulse that a stick at its lower stop gives, in ticks. -/
def lowestStickWidth : UInt16 := widestPulse >>> 1

/-- The sample of a centred stick. -/
def stickCentre : UInt16 := 125

/-- The sample of a stick at its upper stop. -/
def stickTop : UInt16 := 250

/-- A pulse of one channel and the time at which it ended. -/
structure Pulse where
  channel : Channel
  width : UInt16
  capturedAt : UInt16
  deriving DecidableEq, Repr

/-- The stick sample in a pulse width. A pulse that is too wide carries none, and one that is too
narrow counts as the lower stop. -/
def sampleOfWidth? (width : UInt16) : Option UInt16 :=
  if widestPulse < width then none
  else if width < lowestStickWidth then some 0
  else some (width - lowestStickWidth)

/-- The stick sample that a pulse carries. -/
def Pulse.sample? (p : Pulse) : Option UInt16 := sampleOfWidth? p.width

/-- A pulse that is not too wide carries a sample. -/
theorem exists_sampleOfWidth? {width : UInt16} (narrow : width ≤ widestPulse) :
    ∃ sample, sampleOfWidth? width = some sample := by
  rw [sampleOfWidth?, if_neg (UInt16.not_lt.2 narrow)]
  split <;> exact ⟨_, rfl⟩

theorem width_le_of_sampleOfWidth? {width sample : UInt16} (h : sampleOfWidth? width = some sample) :
    width ≤ widestPulse := by
  apply UInt16.not_lt.1
  intro wide
  rw [sampleOfWidth?, if_pos wide] at h
  cases h

/-- The sample is what the width has beyond that of the lower stop. -/
theorem toNat_sampleOfWidth? {width sample : UInt16} (h : sampleOfWidth? width = some sample) :
    sample.toNat = width.toNat - 250 := by
  have lowest : lowestStickWidth.toNat = 250 := rfl
  rw [sampleOfWidth?, if_neg (UInt16.not_lt.2 (width_le_of_sampleOfWidth? h))] at h
  split at h <;> rename_i narrow <;> cases h
  · rw [UInt16.lt_iff_toNat_lt] at narrow
    have zero : (0 : UInt16).toNat = 0 := rfl
    omega
  · rw [UInt16.toNat_sub_of_le _ _ (UInt16.not_lt.1 narrow), lowest]

/-- Every sample lies between the stops of the stick. -/
theorem sampleOfWidth?_le {width sample : UInt16} (h : sampleOfWidth? width = some sample) :
    sample ≤ stickTop := by
  have narrow := UInt16.le_iff_toNat_le.1 (width_le_of_sampleOfWidth? h)
  have widest : widestPulse.toNat = 500 := rfl
  have top : stickTop.toNat = 250 := rfl
  rw [UInt16.le_iff_toNat_le, toNat_sampleOfWidth? h]
  omega

/-- A wider pulse carries no lower sample. -/
theorem sampleOfWidth?_mono {width width' sample sample' : UInt16} (le : width ≤ width')
    (sampled : sampleOfWidth? width = some sample) (sampled' : sampleOfWidth? width' = some sample') :
    sample ≤ sample' := by
  rw [UInt16.le_iff_toNat_le] at le ⊢
  rw [toNat_sampleOfWidth? sampled, toNat_sampleOfWidth? sampled']
  omega

/-- A word below the sign bit is the same number as a signed word. -/
theorem toInt_toInt16_of_lt {word : UInt16} (small : word.toNat < 32768) :
    word.toInt16.toInt = word.toNat := by
  have cast : word.toInt16.toInt = word.toBitVec.toInt := rfl
  rw [cast, BitVec.toInt_eq_toNat_of_lt (by show 2 * word.toNat < 65536; omega)]
  rfl

/-- A sample is the same number as a signed word. -/
theorem toInt_toInt16_of_le {sample : UInt16} (small : sample ≤ stickTop) :
    sample.toInt16.toInt = sample.toNat := by
  have top : stickTop.toNat = 250 := rfl
  rw [UInt16.le_iff_toNat_le] at small
  exact toInt_toInt16_of_lt (by omega)

end SpeedController.Receiver
