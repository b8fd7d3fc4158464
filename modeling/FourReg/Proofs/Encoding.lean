import FourReg.Proofs.Reading

/-!
Files that are texts, and their lines.

In the encoding of a text, a byte below 128 is a character by itself. So a cut at such a byte breaks
no character, and no two pieces become a text that were none before. The lines of a file therefore
decide whether the file is a text.
-/

namespace FourReg.Source

/-! ### Cuts in a text -/

/-- The bytes are the encoding of a text. -/
def IsText (l : List UInt8) : Prop := l.toByteArray.IsValidUTF8

instance (l : List UInt8) : Decidable (IsText l) :=
  inferInstanceAs (Decidable l.toByteArray.IsValidUTF8)

variable {b : UInt8} {l l' : List UInt8}

lemma isText_iff : IsText l ↔ ∃ cs : List Char, l = cs.flatMap String.utf8EncodeChar := by
  constructor
  · rintro ⟨cs, h⟩
    exact ⟨cs, List.toByteArray_inj.1 h⟩
  · rintro ⟨cs, rfl⟩
    exact ⟨cs, rfl⟩

lemma isText_nil : IsText [] := isText_iff.2 ⟨[], rfl⟩

lemma IsText.append (h : IsText l) (h' : IsText l') : IsText (l ++ l') := by
  rw [IsText, List.toByteArray_append]
  exact ByteArray.IsValidUTF8.append h h'

lemma isText_utf8EncodeChar (ch : Char) : IsText (String.utf8EncodeChar ch) :=
  isText_iff.2 ⟨[ch], by simp⟩

lemma utf8EncodeChar_of_toNat_eq {ch : Char} (hb : b.toNat < 128) (hch : ch.toNat = b.toNat) :
    String.utf8EncodeChar ch = [b] := by
  have hval : ch.val.toNat = b.toNat := hch
  have hsize : ch.utf8Size = 1 := by
    rw [Char.utf8Size_eq_one_iff, UInt32.le_iff_toNat_le, hval]
    exact Nat.le_of_lt_succ hb
  have hbyte : ch.val.toUInt8 = b := by
    apply UInt8.toNat_inj.1
    rw [UInt32.toNat_toUInt8, hval, Nat.mod_eq_of_lt (by omega)]
  rw [String.utf8EncodeChar_eq_singleton hsize, hbyte]

lemma isText_singleton (hb : b.toNat < 128) : IsText [b] := by
  have hvalid : b.toNat.isValidChar := .inl (by omega)
  have hchar : (Char.ofNat b.toNat).toNat = b.toNat := by
    rw [Char.ofNat, dif_pos hvalid]
    rfl
  rw [← utf8EncodeChar_of_toNat_eq hb hchar]
  exact isText_utf8EncodeChar _

/-- What stands around a byte below 128 in a text are texts. -/
lemma isText_of_flatMap {cs : List Char} (hb : b.toNat < 128)
    (h : l ++ b :: l' = cs.flatMap String.utf8EncodeChar) : IsText l ∧ IsText l' := by
  induction cs generalizing l with
  | nil => simp at h
  | cons ch cs ih =>
    rw [List.flatMap_cons] at h
    have hrest : IsText (cs.flatMap String.utf8EncodeChar) := isText_iff.2 ⟨cs, rfl⟩
    rcases List.append_eq_append_iff.1 h with ⟨as, hch, hcs⟩ | ⟨bs, hl, hcs⟩
    · cases as with
      | nil =>
        -- the byte begins behind the first character
        obtain ⟨-, h'⟩ := ih (l := []) hcs
        rw [List.append_nil] at hch
        exact ⟨hch ▸ isText_utf8EncodeChar ch, h'⟩
      | cons a as =>
        -- the byte belongs to the first character, hence is all of it
        obtain ⟨rfl, hl'⟩ := List.cons.inj hcs
        have hmem : b ∈ String.utf8EncodeChar ch := by simp [hch]
        have hone := utf8EncodeChar_of_toNat_eq hb (mem_utf8EncodeChar hb hmem)
        rw [hone] at hch
        obtain ⟨rfl, rfl⟩ : l = [] ∧ as = [] := by
          have hlength := congrArg List.length hch
          simp only [List.length_append, List.length_cons, List.length_nil] at hlength
          exact ⟨List.length_eq_zero_iff.1 (by omega), List.length_eq_zero_iff.1 (by omega)⟩
        rw [hl']
        exact ⟨isText_nil, hrest⟩
    · obtain ⟨hbs, h'⟩ := ih hcs.symm
      exact ⟨hl ▸ (isText_utf8EncodeChar ch).append hbs, h'⟩

/-- **A cut at a byte below 128** leaves two texts exactly if there was one. -/
lemma isText_append_cons_iff (hb : b.toNat < 128) :
    IsText (l ++ b :: l') ↔ IsText l ∧ IsText l' := by
  constructor
  · intro h
    obtain ⟨cs, hcs⟩ := isText_iff.1 h
    exact isText_of_flatMap hb hcs
  · rintro ⟨h, h'⟩
    exact h.append ((isText_singleton hb).append h')

lemma isText_chomp_iff (l : List UInt8) : IsText (chomp l) ↔ IsText l := by
  rcases List.eq_nil_or_concat' l with rfl | ⟨l, b, rfl⟩
  · rfl
  · rw [chomp_concat]
    split
    · rename_i hb
      subst hb
      rw [isText_append_cons_iff (by decide)]
      exact ⟨fun h => ⟨h, isText_nil⟩, And.left⟩
    · rfl

lemma isText_intercalate_iff (ls : List (List UInt8)) :
    IsText ([lineFeed].intercalate ls) ↔ ∀ l ∈ ls, IsText l := by
  induction ls with
  | nil => simp [isText_nil]
  | cons l ls ih =>
    cases ls with
    | nil => simp
    | cons l' ls =>
      rw [List.intercalate_cons_cons, List.append_assoc, List.singleton_append,
        isText_append_cons_iff (by decide), ih, ← List.forall_mem_cons]

/-- **Bytes are a text if and only if all that stands between line feeds is.** -/
lemma isText_iff_splitOn (bs : List UInt8) : IsText bs ↔ ∀ l ∈ bs.splitOn lineFeed, IsText l := by
  rw [← isText_intercalate_iff, List.intercalate_splitOn]

/-! ### Lines that are no texts -/

/-- The number of a line that is reported to be no text. -/
def malformed? : Item → Option Nat
  | .error (.invalidUtf8 n) => some n
  | _ => none

lemma malformed?_eq_some_iff {item : Item} {n : Nat} :
    malformed? item = some n ↔ item = .error (.invalidUtf8 n) := by
  rcases item with (_ | _ | _ | _) | _ <;> simp [malformed?]

/-- The numbers of the lines that are no texts, counted from `n` on. -/
def textless (n : Nat) (ls : List (List UInt8)) : List Nat :=
  ((ls.zipIdx n).filter fun l => ¬IsText l.1).map Prod.snd

lemma length_textless (n : Nat) (ls : List (List UInt8)) :
    (textless n ls).length = ls.countP fun l => ¬IsText l := by
  have hcount := List.countP_map (f := Prod.fst) (p := fun l => decide ¬IsText l) (l := ls.zipIdx n)
  rw [List.zipIdx_map_fst] at hcount
  rw [textless, List.length_map, ← List.countP_eq_length_filter, hcount]
  rfl

lemma malformed?_textItem (n : Nat) (text : String) : (textItem n text).bind malformed? = none := by
  unfold textItem
  split
  · rfl
  · cases assemble text <;> rfl

/-- A line is reported exactly if it is no text, with or without its carriage return. -/
lemma malformed?_reading (n : Nat) (l : List UInt8) :
    (reading n (chomp l)).bind malformed? = if IsText l then none else some n := by
  simp only [← isText_chomp_iff l]
  unfold reading
  split
  · rename_i h
    exact (malformed?_textItem n _).trans (if_pos h).symm
  · rename_i h
    exact (if_neg h).symm

lemma filterMap_readings (n : Nat) (bs : List UInt8) :
    (readings n bs).filterMap malformed? = textless n (lines bs) := by
  rw [readings, List.filterMap_filterMap, textless]
  generalize (lines bs).zipIdx n = ls
  induction ls with
  | nil => rfl
  | cons l ls ih =>
    rw [List.filterMap_cons, malformed?_reading, List.filter_cons]
    by_cases h : IsText l.1 <;> simp [h, ih]

lemma textless_lines (n : Nat) (bs : List UInt8) :
    textless n (lines bs) = textless n (bs.splitOn lineFeed) := by
  unfold lines
  simp only
  split
  · rename_i h
    have hparts := List.dropLast_append_getLast? [] h
    conv_rhs => rw [← hparts, textless, List.zipIdx_append, List.filter_append, List.map_append]
    simp [isText_nil, textless]
  · rfl

lemma filterMap_items (bytes : ByteArray) :
    (Reader.items { bytes }).filterMap malformed? =
      textless 1 (bytes.data.toList.splitOn lineFeed) := by
  rw [Reader.items_eq_expected, ← textless_lines, ← filterMap_readings]
  rfl

lemma exists_invalidUtf8_iff (bytes : ByteArray) :
    (∃ n, .error (.invalidUtf8 n) ∈ Reader.items { bytes }) ↔ ¬bytes.IsValidUTF8 := by
  have hbytes : bytes.data.toList.toByteArray = bytes := by
    apply ByteArray.ext
    simp
  have htext : bytes.IsValidUTF8 ↔ IsText bytes.data.toList := by rw [IsText, hbytes]
  have hmem : (∃ n, .error (.invalidUtf8 n) ∈ Reader.items { bytes }) ↔
      0 < ((Reader.items { bytes }).filterMap malformed?).length := by
    rw [List.length_pos_iff_exists_mem]
    simp [List.mem_filterMap, malformed?_eq_some_iff]
  rw [hmem, filterMap_items, length_textless, List.countP_pos_iff, htext, isText_iff_splitOn]
  simp

/-- **The lines decide whether a file is a text**, and every line that is none is reported once,
with its number. -/
theorem text_decided_by_lines (bytes : ByteArray) :
    let items := Reader.items { bytes }
    let parts := bytes.data.toList.splitOn lineFeed
    ((∃ n, .error (.invalidUtf8 n) ∈ items) ↔ ¬bytes.IsValidUTF8) ∧
    (items.filterMap malformed? = ((parts.zipIdx 1).filter fun l => ¬IsText l.1).map Prod.snd ∧
      (items.filterMap malformed?).length = parts.countP fun l => ¬IsText l) ∧
    ∀ text n, .error (.invalidUtf8 n) ∉ (Reader.ofText text).items := by
  intro items parts
  have hnumbers := filterMap_items bytes
  refine ⟨exists_invalidUtf8_iff bytes, ⟨hnumbers, ?_⟩, fun text n h => ?_⟩
  · rw [hnumbers, length_textless]
  · exact (exists_invalidUtf8_iff text.toUTF8).1 ⟨n, h⟩ text.isValidUTF8

end FourReg.Source
