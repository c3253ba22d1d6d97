/-!
# Words and bytes

A 32-bit word as four bytes. Byte 0 is the least significant one. The stored settings keep the
least significant byte first and the link sends the most significant byte first; both orders are
built from `Word.byte` and `Word.ofBytes`, which undo each other.
-/

namespace SpeedController.Word

/-- Byte `i` of a word, counted from the least significant one. -/
def byte (w : Int32) (i : Nat) : UInt8 := .ofNat (w.toUInt32.toNat >>> (8 * i))

/-- The word with the given bytes, the least significant one first. -/
def ofBytes (b₀ b₁ b₂ b₃ : UInt8) : Int32 :=
  (UInt32.ofNat (b₀.toNat + 256 * (b₁.toNat + 256 * (b₂.toNat + 256 * b₃.toNat)))).toInt32

/-- The four bytes of a word, the least significant one first. -/
def lowFirst (w : Int32) : List UInt8 := [byte w 0, byte w 1, byte w 2, byte w 3]

/-- The four bytes of a word, the most significant one first. -/
def highFirst (w : Int32) : List UInt8 := [byte w 3, byte w 2, byte w 1, byte w 0]

/-- A word is made of its bytes. -/
@[simp] theorem ofBytes_byte (w : Int32) :
    ofBytes (byte w 0) (byte w 1) (byte w 2) (byte w 3) = w := by
  have bound := w.toUInt32.toNat_lt
  have whole : UInt32.ofNat ((byte w 0).toNat + 256 * ((byte w 1).toNat +
      256 * ((byte w 2).toNat + 256 * (byte w 3).toNat))) = w.toUInt32 := by
    rw [← UInt32.toNat_inj]
    simp only [byte, UInt8.toNat_ofNat', UInt32.toNat_ofNat']
    omega
  rw [ofBytes, whole, Int32.toInt32_toUInt32]

/-- The bytes that make a word are its bytes. -/
theorem byte_ofBytes (b₀ b₁ b₂ b₃ : UInt8) :
    byte (ofBytes b₀ b₁ b₂ b₃) 0 = b₀ ∧ byte (ofBytes b₀ b₁ b₂ b₃) 1 = b₁ ∧
      byte (ofBytes b₀ b₁ b₂ b₃) 2 = b₂ ∧ byte (ofBytes b₀ b₁ b₂ b₃) 3 = b₃ := by
  have h₀ := b₀.toNat_lt
  have h₁ := b₁.toNat_lt
  have h₂ := b₂.toNat_lt
  have h₃ := b₃.toNat_lt
  simp only [← UInt8.toNat_inj, ofBytes, byte, UInt32.toUInt32_toInt32, UInt8.toNat_ofNat',
    UInt32.toNat_ofNat']
  omega

/-- The bytes that make a word come back in the same order. -/
theorem lowFirst_ofBytes (b₀ b₁ b₂ b₃ : UInt8) :
    lowFirst (ofBytes b₀ b₁ b₂ b₃) = [b₀, b₁, b₂, b₃] := by
  obtain ⟨h₀, h₁, h₂, h₃⟩ := byte_ofBytes b₀ b₁ b₂ b₃
  rw [lowFirst, h₀, h₁, h₂, h₃]

theorem highFirst_ofBytes (b₀ b₁ b₂ b₃ : UInt8) :
    highFirst (ofBytes b₀ b₁ b₂ b₃) = [b₃, b₂, b₁, b₀] := by
  obtain ⟨h₀, h₁, h₂, h₃⟩ := byte_ofBytes b₀ b₁ b₂ b₃
  rw [highFirst, h₀, h₁, h₂, h₃]

end SpeedController.Word
