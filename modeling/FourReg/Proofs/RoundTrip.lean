import FourReg.Text.Decimal.Lemmas
import FourReg.Proofs.Reading

/-!
Texts of instructions and programs read back.

An instruction is written as words with single spaces between them, and each of the words is read
back as what it stands for. A program is written as lines, one for each instruction.
-/

namespace FourReg

/-! ### Words -/

namespace Text

/-- A word can stand between blanks. -/
def IsWord (w : List Char) : Prop := w ≠ [] ∧ ∀ ch ∈ w, isBlank ch = false

lemma isWord_of_all {w : List Char} (hne : w ≠ []) (h : (w.all fun ch => !isBlank ch) = true) :
    IsWord w := by
  refine ⟨hne, fun ch hch => ?_⟩
  have hnot := List.all_eq_true.1 h ch hch
  simpa using hnot

lemma charWords_intercalate {ws : List (List Char)} (h : ∀ w ∈ ws, IsWord w) :
    charWords ([' '].intercalate ws) = ws := by
  induction ws with
  | nil => rfl
  | cons w ws ih =>
    obtain ⟨hne, hw⟩ := h w (.head _)
    have hws : ∀ w ∈ ws, IsWord w := fun v hv => h v (.tail _ hv)
    cases ws with
    | nil =>
      rw [List.intercalate_singleton, ← List.append_nil w, charWords_append hne hw (by simp)]
      simp
    | cons v ws =>
      have hspace : isBlank ' ' = true := by decide
      rw [List.intercalate_cons_cons, List.append_assoc,
        charWords_append hne hw (by simp [hspace]), List.singleton_append,
        charWords_blank hspace, ih hws]

lemma eq_or_mem_of_mem_intercalate {ws : List (List Char)} {ch : Char}
    (h : ch ∈ [' '].intercalate ws) : ch = ' ' ∨ ∃ w ∈ ws, ch ∈ w := by
  induction ws with
  | nil => simp at h
  | cons w ws ih =>
    cases ws with
    | nil =>
      rw [List.intercalate_singleton] at h
      exact .inr ⟨w, .head _, h⟩
    | cons v ws =>
      rw [List.intercalate_cons_cons] at h
      simp only [List.mem_append, List.mem_singleton] at h
      rcases h with (h | h) | h
      · exact .inr ⟨w, .head _, h⟩
      · exact .inl h
      · rcases ih h with h | ⟨u, hu, hch⟩
        · exact .inl h
        · exact .inr ⟨u, .tail _ hu, hch⟩

lemma words_intercalate {ws : List String} (h : ∀ w ∈ ws, IsWord w.toList) :
    words (" ".intercalate ws) = ws := by
  have hchars : ∀ w ∈ ws.map String.toList, IsWord w := by
    intro w hw
    obtain ⟨v, hv, rfl⟩ := List.mem_map.1 hw
    exact h v hv
  have hspace : " ".toList = [' '] := rfl
  rw [words, String.toList_intercalate, hspace, charWords_intercalate hchars, List.map_map]
  exact List.map_id'' (fun w => String.ofList_toList) ws

lemma isBlank_of_isDigit {ch : Char} (h : ch.isDigit = true) : isBlank ch = false := by
  have hrange : 48 ≤ ch.toNat ∧ ch.toNat ≤ 57 := by
    simpa [Char.isDigit, UInt32.le_iff_toNat_le] using h
  simp only [isBlank, blankRanges, List.any_cons, List.any_nil, Bool.or_false, Bool.or_eq_false_iff,
    Bool.and_eq_false_iff, decide_eq_false_iff_not]
  omega

end Text

lemma isWord_ofNat (n : Nat) : Text.IsWord (Decimal.ofNat n).toList := by
  refine ⟨?_, fun ch hch => Text.isBlank_of_isDigit (Decimal.isDigit_of_mem_ofNat hch)⟩
  rw [Decimal.ofNat, String.toList_ofList]
  exact Nat.toDigits_ne_nil

lemma isWord_ofInt (x : Int) : Text.IsWord (Decimal.ofInt x).toList := by
  cases x with
  | ofNat n => exact isWord_ofNat n
  | negSucc n =>
    obtain ⟨-, hn⟩ := isWord_ofNat (n + 1)
    rw [Decimal.ofInt, String.toList_append]
    refine ⟨by simp, fun ch hch => ?_⟩
    rcases List.mem_append.1 hch with hch | hch
    · obtain rfl : ch = '-' := by simpa using hch
      decide
    · exact hn ch hch

/-! ### Instructions -/

lemma isWord_register (r : Register) : Text.IsWord r.name.toList := by
  cases r <;> exact Text.isWord_of_all (by decide) (by decide)

lemma isWord_mnemonic (m : Mnemonic) : Text.IsWord m.name.toList := by
  cases m <;> exact Text.isWord_of_all (by decide) (by decide)

lemma isWord_operand (x : Operand) : Text.IsWord x.text.toList := by
  cases x with
  | literal v => exact isWord_ofInt v.toInt
  | register r => exact isWord_register r

/-- The mnemonic and the operands of an instruction, as they are written. -/
def Instruction.tokens (i : Instruction) : List String :=
  i.mnemonic.name :: i.operands.map Operand.text

lemma isWord_of_mem_tokens {i : Instruction} {w : String} (h : w ∈ i.tokens) :
    Text.IsWord w.toList := by
  rcases List.mem_cons.1 h with rfl | h
  · exact isWord_mnemonic _
  · obtain ⟨x, -, rfl⟩ := List.mem_map.1 h
    exact isWord_operand x

/-- The only blanks in the text of an instruction are spaces. -/
lemma notMem_text (ch : Char) (hblank : Text.isBlank ch = true) (hspace : ch ≠ ' ')
    (i : Instruction) : ch ∉ i.text.toList := by
  intro h
  rw [Instruction.text, String.toList_intercalate] at h
  rcases Text.eq_or_mem_of_mem_intercalate h with rfl | ⟨w, hw, hch⟩
  · exact hspace rfl
  · obtain ⟨v, hv, rfl⟩ := List.mem_map.1 hw
    have hnot := (isWord_of_mem_tokens hv).2 ch hch
    rw [hblank] at hnot
    cases hnot

lemma operand_text (x : Operand) : Assembly.operand x.text = .ok x := by
  cases x with
  | literal v => rw [Operand.text, Assembly.operand, Decimal.readInt64_ofInt64]
  | register r => cases r <;> rfl

lemma instruction_operands (i : Instruction) :
    Assembly.instruction i.mnemonic i.operands = .ok i := by
  cases i <;> rfl

/-- The text of an instruction is assembled to that instruction. -/
lemma assemble_text (i : Instruction) : assemble i.text = .ok i := by
  have hwords : Text.words i.text = i.mnemonic.name :: i.operands.map Operand.text :=
    Text.words_intercalate fun w => isWord_of_mem_tokens
  have hargs : (i.operands.map Operand.text).mapM Assembly.operand = .ok i.operands := by
    apply mapM_of_ok
    rw [List.map_map]
    exact List.map_congr_left fun x _ => operand_text x
  rw [assemble, hwords]
  simp only [Mnemonic.ofName?_eq_some_iff.2 rfl, hargs]
  exact instruction_operands i

/-! ### Programs -/

lemma assembleAt_text (n : Nat) (i : Instruction) : assembleAt n i.text = .ok i := by
  rw [assembleAt, assemble_text]
  rfl

lemma assembleLines_texts (p : Program) :
    assembleLines (p.toList.map Instruction.text) = .ok p := by
  have hmap : ∀ (is : List Instruction) (n : Nat),
      ((is.map Instruction.text).zipIdx n).map (fun (line, k) => assembleAt k line)
        = is.map .ok := by
    intro is
    induction is with
    | nil => exact fun n => rfl
    | cons i is ih =>
      intro n
      simp only [List.map_cons, List.zipIdx_cons, assembleAt_text, ih]
  rw [assembleLines, mapM_of_ok (hmap p.toList 1)]
  rfl

namespace Source

lemma collected_map_ok (is : List Instruction) : collected (is.map .ok) = .ok is.toArray := by
  induction is with
  | nil => rfl
  | cons i is ih =>
    rw [List.map_cons, collected_ok_cons, ih]
    simp [Except.map]

/-- Each line of a listing is read as its instruction. -/
lemma readings_listing (is : List Instruction) (n : Nat) :
    readings n (bytesOf (String.join (is.map fun i => i.text ++ "\n"))) = is.map .ok := by
  induction is generalizing n with
  | nil => exact readings_nil n
  | cons i is ih =>
    have hline : '\n' ∉ i.text.toList := notMem_text '\n' (by decide) (by decide) i
    rw [List.map_cons, String.join_cons, readings_line hline, ih, textItem_of_ok (assemble_text i)]
    rfl

/-- The texts of instructions, one on a line, are a source of the program they make. -/
lemma program_listing (is : List Instruction) :
    (Reader.ofText (String.join (is.map fun i => i.text ++ "\n"))).program = .ok is.toArray := by
  have hitems : (Reader.ofText (String.join (is.map fun i => i.text ++ "\n"))).items = is.map .ok :=
    (Reader.items_eq_expected _).trans (readings_listing is 1)
  rw [Reader.program_eq_collected, hitems, collected_map_ok]

end Source

/-- **The text form is faithful**: programs and instructions are read back from their texts, as a
whole, line by line and one by one. -/
theorem text_reads_back :
    (∀ p : Program, (Source.Reader.ofText p.listing).program = .ok p) ∧
    (∀ p : Program, assembleLines (p.toList.map Instruction.text) = .ok p) ∧
    ∀ i : Instruction, assemble i.text = .ok i := by
  refine ⟨fun p => ?_, assembleLines_texts, assemble_text⟩
  have hitems : (Source.Reader.ofText p.listing).items = p.toList.map .ok :=
    (Source.Reader.items_eq_expected _).trans (Source.readings_listing p.toList 1)
  rw [Source.Reader.program_eq_collected, hitems, Source.collected_map_ok]

end FourReg
