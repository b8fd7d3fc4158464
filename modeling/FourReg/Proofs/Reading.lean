import FourReg.Proofs.Lines
import Mathlib.Data.List.Basic

/-!
The reader computes the items of a file line by line: its offsets and its count of lines amount to
the list of lines.
-/

namespace FourReg.Source

/-! ### The reader's offsets -/

/-- The bytes of a file from a place on. -/
def bytesFrom (bytes : ByteArray) (i : Nat) : List UInt8 := bytes.data.toList.drop i

lemma length_bytesFrom (bytes : ByteArray) (i : Nat) :
    (bytesFrom bytes i).length = bytes.size - i := by
  simp [bytesFrom]

lemma bytesFrom_eq_cons {bytes : ByteArray} {i : Nat} (h : i < bytes.size) :
    bytesFrom bytes i = bytes[i] :: bytesFrom bytes (i + 1) := by
  have hlength : i < bytes.data.toList.length := by simpa using h
  exact List.drop_eq_getElem_cons hlength

lemma bytesFrom_eq_nil {bytes : ByteArray} {i : Nat} (h : bytes.size ≤ i) :
    bytesFrom bytes i = [] := by
  rw [← List.length_eq_zero_iff, length_bytesFrom]
  omega

lemma drop_bytesFrom (bytes : ByteArray) (i k : Nat) :
    (bytesFrom bytes i).drop k = bytesFrom bytes (i + k) := by
  simp [bytesFrom, List.drop_drop]

lemma extract_eq_take (bytes : ByteArray) (i k : Nat) :
    bytes.extract i (i + k) = ((bytesFrom bytes i).take k).toByteArray := by
  apply ByteArray.ext
  apply Array.toList_inj.1
  simp [bytesFrom, List.extract_eq_take_drop]

lemma lineEnd_eq (bytes : ByteArray) {i : Nat} (hi : i ≤ bytes.size) :
    lineEnd bytes i = i + (firstLine (bytesFrom bytes i)).length := by
  fun_induction lineEnd bytes i with
  | case1 i h hb => rw [bytesFrom_eq_cons h, hb, firstLine_lineFeed]; rfl
  | case2 i h hb ih =>
    rw [ih (by omega), bytesFrom_eq_cons h, firstLine_cons_of_ne hb, List.length_cons]
    omega
  | case3 i h =>
    rw [bytesFrom_eq_nil (by omega)]
    exact Nat.le_antisymm (by omega) hi

lemma textEnd_eq {bytes : ByteArray} {i : Nat} {l : List UInt8} (h : l <+: bytesFrom bytes i) :
    textEnd bytes i (i + l.length) = i + (chomp l).length := by
  obtain ⟨rest, h⟩ := h
  rcases List.eq_nil_or_concat' l with rfl | ⟨l, b, rfl⟩
  · simp [textEnd, chomp]
  · have hlength := congrArg List.length h
    simp only [length_bytesFrom, List.length_append, List.length_singleton] at hlength
    -- the byte before the end of the line is its last one
    have hlt : i + l.length < bytes.size := by omega
    have hdrop : bytesFrom bytes (i + l.length) = b :: rest := by
      rw [← drop_bytesFrom, ← h]
      simp
    have hbyte : bytes[i + l.length] = b := by
      rw [bytesFrom_eq_cons hlt] at hdrop
      exact (List.cons.inj hdrop).1
    have hbounds : i < i + (l.length + 1) ∧ i + (l.length + 1) ≤ bytes.size := by omega
    have hstop : i + (l.length + 1) - 1 = i + l.length := by omega
    rw [chomp_concat, List.length_append, List.length_singleton, textEnd, dif_pos hbounds]
    simp only [hstop, hbyte]
    split <;> simp

lemma lineItem_eq_reading (n : Nat) (l : List UInt8) : lineItem n l.toByteArray = reading n l := by
  unfold lineItem reading String.fromUTF8?
  split
  · rename_i h
    split at h
    · cases h
    · rename_i hvalid
      rw [dif_neg hvalid]
  · rename_i text h
    split at h
    · rename_i hvalid
      cases h
      rw [dif_pos hvalid]
      simp only [textItem, Text.isBlankText, assembleAt]
      cases assemble (String.fromUTF8 l.toByteArray hvalid) <;> rfl
    · cases h

namespace Reader

variable {r r' : Reader} {span : Span}

/-- The bytes to come. -/
def rest (r : Reader) : List UInt8 := bytesFrom r.bytes r.offset

lemma size_le_of_nextLine (h : r.nextLine = none) : r.bytes.size ≤ r.offset := by
  unfold nextLine at h
  split at h
  · cases h
  · exact Nat.not_lt.1 ‹_›

lemma eq_of_nextLine (h : r.nextLine = some (span, r')) :
    r.offset < r.bytes.size ∧
      span = ⟨r.offset, textEnd r.bytes r.offset (lineEnd r.bytes r.offset)⟩ ∧
      r' = { r with offset := lineEnd r.bytes r.offset + 1, line := r.line + 1 } := by
  have hlt := (nextLine_some h).1
  rw [nextLine, if_pos hlt, Option.some.injEq, Prod.mk.injEq] at h
  exact ⟨hlt, h.1.symm, h.2.symm⟩

/-- The next line is the first of the bytes to come, and the reader goes on behind it. -/
lemma nextLine_spec (h : r.nextLine = some (span, r')) :
    r.rest ≠ [] ∧ r'.line = r.line + 1 ∧ r'.rest = behindLine r.rest ∧
      r.bytes.extract span.start span.stop = (chomp (firstLine r.rest)).toByteArray := by
  obtain ⟨hlt, rfl, rfl⟩ := eq_of_nextLine h
  have hend : lineEnd r.bytes r.offset = r.offset + (firstLine r.rest).length :=
    lineEnd_eq r.bytes (by omega)
  have hline : firstLine r.rest <+: bytesFrom r.bytes r.offset := isPrefix_firstLine r.rest
  have htext := (isPrefix_chomp _).trans hline
  refine ⟨?_, rfl, ?_, ?_⟩
  · rw [rest, bytesFrom_eq_cons hlt]
    simp
  · simp only [rest, hend, Nat.add_assoc]
    exact (drop_bytesFrom ..).symm
  · simp only [hend]
    rw [textEnd_eq hline, extract_eq_take, ← List.prefix_iff_eq_take.1 htext]

/-- The items to come, line by line. -/
def expected (r : Reader) : List Item := readings (r.line + 1) r.rest

lemma expected_of_nextLine_none (h : r.nextLine = none) : r.expected = [] := by
  rw [expected, rest, bytesFrom_eq_nil (size_le_of_nextLine h), readings_nil]

lemma expected_of_nextLine (h : r.nextLine = some (span, r')) :
    r.expected =
      (lineItem r'.line (r.bytes.extract span.start span.stop)).toList ++ r'.expected := by
  obtain ⟨hne, hline, hrest, htext⟩ := nextLine_spec h
  have hlines := lines_eq_cons hne
  rw [expected, readings_of_lines_eq_cons hlines, htext, lineItem_eq_reading, expected, hline,
    hrest]

/-- The next item is the first to come, and behind it come the others. -/
lemma next_eq (r : Reader) :
    r.next.1 = r.expected.head? ∧ r.next.2.expected = r.expected.tail := by
  fun_induction next r with
  | case1 r h => simp [expected_of_nextLine_none h]
  | case2 r span r' h item hitem => simp [expected_of_nextLine h, hitem]
  | case3 r span r' h hitem ih => simpa [expected_of_nextLine h, hitem] using ih

lemma items_eq_expected (r : Reader) : r.items = r.expected := by
  obtain ⟨items, h⟩ : ∃ items, r.expected = items := ⟨_, rfl⟩
  rw [h]
  induction items generalizing r with
  | nil =>
    have hnext : r.next = (none, r.next.2) := Prod.ext (by rw [(next_eq r).1, h]; rfl) rfl
    exact items_of_next_none hnext
  | cons item items ih =>
    have hnext : r.next = (some item, r.next.2) := Prod.ext (by rw [(next_eq r).1, h]; rfl) rfl
    have htail : r.next.2.expected = items := by rw [(next_eq r).2, h]; rfl
    rw [items_of_next_some hnext, ih _ htail]

lemma expected_skip (k : Nat) (r : Reader) : (r.skip k).expected = r.expected.drop k := by
  induction k generalizing r with
  | zero => rfl
  | succ k ih => rw [skip, ih, (next_eq r).2, List.drop_tail]

lemma program_eq_collected (r : Reader) : r.program = collected r.items := by
  unfold program
  induction r.items with
  | nil => rfl
  | cons item items ih =>
    rcases item with e | i
    · rw [mapM_cons_of_error (f := id) rfl]
      rfl
    · rw [mapM_cons_of_ok (f := id) rfl, collected_ok_cons, ← ih]
      cases items.mapM id with
      | error e => rfl
      | ok is => simp [Except.map]

end Reader

/-- **The reader computes the items line by line**, and a program is collected up to the first
error. -/
theorem items_eq_readings (bytes : ByteArray) :
    let r : Reader := { bytes }
    let items := readings 1 bytes.data.toList
    r.items = items ∧ (∀ k, (r.skip k).next.1 = items[k]?) ∧
    (∀ line, .error (.assembly ⟨line, .emptyLine⟩) ∉ items) ∧
    ∀ k, (r.skip k).program = collected (items.drop k) := by
  intro r items
  have hitems : r.expected = items := rfl
  refine ⟨?_, fun k => ?_, fun line hmem => ?_, fun k => ?_⟩
  · rw [Reader.items_eq_expected, hitems]
  · rw [(Reader.next_eq _).1, Reader.expected_skip, hitems, List.head?_drop]
  · obtain ⟨⟨l, n⟩, -, hl⟩ := List.mem_filterMap.1 hmem
    exact reading_ne_emptyLine n _ line hl
  · rw [Reader.program_eq_collected, Reader.items_eq_expected, Reader.expected_skip, hitems]

end FourReg.Source
