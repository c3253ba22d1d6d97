import SpeedController.Proofs.Settings.Recall

/-!
# Settings and blocks

The layout loses nothing in either direction. The block of some settings holds these settings
(`contents_encode`), and a block that holds settings is the block of these settings
(`encode_of_contents`): the bytes in front are fields of their own, and the others come in fours,
each of which are the bytes of its word (`lowFirst_wordAt`). Whether a block holds settings at all is
told by its mark and its mode. The main statement is `stored_layout_faithful`.
-/

namespace SpeedController

lemma ControlMode.ofCode?_eq_none_iff {code : UInt8} :
    ofCode? code = none ↔ code ≠ 0 ∧ code ≠ 1 := by
  unfold ofCode?
  split
  · simp
  · simp
  · next tank delta => exact iff_of_true rfl ⟨tank, delta⟩

namespace Settings

variable {b : Block} {s : Settings}

/-- The seven entries at the front of a list. -/
lemma take_seven {α : Type} {l : List α} (long : 7 ≤ l.length) :
    l.take 7 = [l[0], l[1], l[2], l[3], l[4], l[5], l[6]] := by
  match l, long with
  | _ :: _ :: _ :: _ :: _ :: _ :: _ :: _, _ => rfl

/-- The bytes of a word of a block are the four from its offset on. -/
lemma lowFirst_wordAt (b : Block) (offset : Fin 28) :
    Word.lowFirst (wordAt b offset) = (b.toList.drop offset).take 4 := by
  have inside : offset.val + 3 < b.toList.length := by
    rw [Vector.length_toList]
    exact Nat.add_lt_add_right offset.isLt 3
  rw [wordAt, Word.lowFirst_ofBytes, List.drop_eq_getElem_cons (by omega),
    List.drop_eq_getElem_cons (by omega), List.drop_eq_getElem_cons (by omega),
    List.drop_eq_getElem_cons inside]
  simp

/-- Settings in a block are its fields. -/
lemma fields_of_contents (holds : Contents.ofBlock b = .configured s) :
    b[0] = configuredMark ∧ b[1] = s.mode.code ∧ s.deadzone = b[2] ∧
      s.travel = ⟨⟨b[3], b[4]⟩, ⟨b[5], b[6]⟩⟩ ∧
      s.planes = ⟨⟨wordAt b 7, wordAt b 11, wordAt b 15⟩, ⟨wordAt b 19, wordAt b 23, wordAt b 27⟩⟩ := by
  unfold Contents.ofBlock at holds
  split at holds
  · cases holds
  · next mark =>
    split at holds
    · cases holds
    · next mode read =>
      cases holds
      exact ⟨Decidable.not_not.1 mark, ControlMode.eq_code_of_ofCode? read, rfl, rfl, rfl⟩

/-- A block that holds settings is the block of these settings. -/
lemma encode_of_contents (holds : Contents.ofBlock b = .configured s) : s.encode = b := by
  obtain ⟨mark, mode, deadzone, travel, planes⟩ := fields_of_contents holds
  have length : b.toList.length = 31 := Vector.length_toList
  -- the front, and then one word after the other
  have front : b.toList.take 7 =
      [configuredMark, s.mode.code, s.deadzone, s.travel.ch1.low, s.travel.ch1.high,
        s.travel.ch2.low, s.travel.ch2.high] := by
    rw [take_seven (by omega), ← mark, ← mode, deadzone, travel]
    simp
  have word (n : Nat) : (b.toList.drop n).take 4 ++ b.toList.drop (n + 4) = b.toList.drop n := by
    rw [← List.drop_drop, List.take_append_drop]
  have rest : b.toList.drop 31 = [] := List.drop_eq_nil_of_le (Nat.le_of_eq length)
  apply Vector.toList_inj.1
  calc s.encode.toList
    _ = s.bytes := rfl
    _ = b.toList.take 7 ++ b.toList.drop 7 := by
      rw [front, ← word 7, ← word 11, ← word 15, ← word 19, ← word 23, ← word 27, rest, bytes, planes]
      simp only [lowFirst_wordAt, List.append_assoc, List.append_nil]
      rfl
    _ = b.toList := List.take_append_drop 7 _

/-- A block holds settings exactly if it is their block. -/
lemma contents_eq_configured_iff : Contents.ofBlock b = .configured s ↔ s.encode = b := by
  constructor
  · exact encode_of_contents
  · rintro rfl
    exact contents_encode s

/-- The mark and the mode tell what a block is. -/
lemma contents_cases (b : Block) :
    (b[0] ≠ 0 ∧ Contents.ofBlock b = .unconfigured) ∨
    (b[0] = 0 ∧ b[1] ≠ 0 ∧ b[1] ≠ 1 ∧ Contents.ofBlock b = .corrupt) ∨
    (b[0] = 0 ∧ (b[1] = 0 ∨ b[1] = 1) ∧ ∃ s, Contents.ofBlock b = .configured s) := by
  by_cases marked : b[0] = 0
  · have marked' : ¬b[0] ≠ configuredMark := not_not_intro marked
    right
    cases mode : ControlMode.ofCode? b[1] with
    | none =>
      obtain ⟨tank, delta⟩ := ControlMode.ofCode?_eq_none_iff.1 mode
      refine .inl ⟨marked, tank, delta, ?_⟩
      rw [Contents.ofBlock, if_neg marked', mode]
    | some m =>
      have known : b[1] = 0 ∨ b[1] = 1 := by
        rw [ControlMode.eq_code_of_ofCode? mode]
        cases m
        · exact .inl rfl
        · exact .inr rfl
      refine .inr ⟨marked, known, ?_⟩
      rw [Contents.ofBlock, if_neg marked', mode]
      exact ⟨_, rfl⟩
  · exact .inl ⟨marked, if_pos marked⟩

/-- Settings come back from their block as they were, and no two have the same block. A block whose
first byte is not 0 holds nothing, one with a second byte other than 0 and 1 is corrupt, and every
other block holds settings of which it is the block, down to its last byte. -/
theorem stored_layout_faithful :
    (∀ s : Settings, Contents.ofBlock s.encode = .configured s) ∧
    (∀ s s' : Settings, s.encode = s'.encode → s = s') ∧
    ∀ b : Block,
      (Contents.ofBlock b = .unconfigured ↔ b[0] ≠ 0) ∧
      (Contents.ofBlock b = .corrupt ↔ b[0] = 0 ∧ b[1] ≠ 0 ∧ b[1] ≠ 1) ∧
      ((∃ s, Contents.ofBlock b = .configured s) ↔ b[0] = 0 ∧ (b[1] = 0 ∨ b[1] = 1)) ∧
      ∀ s, Contents.ofBlock b = .configured s ↔ s.encode = b := by
  refine ⟨contents_encode, fun s s' same => ?_, fun b => ?_⟩
  · have read := contents_encode s
    rw [same, contents_encode] at read
    cases read
    rfl
  · have holds_iff (s : Settings) : Contents.ofBlock b = .configured s ↔ s.encode = b :=
      contents_eq_configured_iff
    rcases contents_cases b with ⟨unmarked, contents⟩ | ⟨marked, tank, delta, contents⟩ |
      ⟨marked, mode, s, contents⟩
    · exact ⟨by simp [contents, unmarked], by simp [contents, unmarked],
        by simp [contents, unmarked], holds_iff⟩
    · exact ⟨by simp [contents, marked], by simp [contents, marked, tank, delta],
        by simp [contents, marked, tank, delta], holds_iff⟩
    · refine ⟨by simp [contents, marked], ?_, ?_, holds_iff⟩
      · rcases mode with mode | mode <;> simp [contents, mode]
      · exact iff_of_true ⟨s, contents⟩ ⟨marked, mode⟩

/-- A block with coefficients of both signs is read, and the settings in it have it as their block; no
settings have the same block but for its last byte. -/
theorem stored_layout_faithful_signs :
    let b : Block := #v[0, 1, 12, 10, 240, 5, 245, 24, 252, 255, 255, 191, 255, 255, 255, 65, 0, 0, 0,
      208, 7, 0, 0, 191, 255, 255, 255, 191, 255, 255, 255]
    let s : Settings :=
      ⟨.delta, 12, ⟨⟨10, 240⟩, ⟨5, 245⟩⟩, ⟨⟨-1000, -65, 65⟩, ⟨2000, -65, -65⟩⟩⟩
    Contents.ofBlock b = .configured s ∧ Contents.ofBlock (b.set 30 127) ≠ .configured s ∧
      Contents.ofBlock (b.set 1 7) = .corrupt := by
  intro b s
  obtain ⟨-, -, blocks⟩ := stored_layout_faithful
  have block : s.encode = b := by decide +kernel
  refine ⟨((blocks b).2.2.2 s).2 block, fun holds => ?_, ((blocks _).2.1).2 (by decide +kernel)⟩
  have block' := ((blocks _).2.2.2 s).1 holds
  rw [block] at block'
  exact absurd block' (by decide +kernel)

end Settings

end SpeedController
