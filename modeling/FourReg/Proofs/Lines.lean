import FourReg.Source.Reader
import FourReg.Proofs.Faults

/-!
A source file as the list of its lines.

The lines are what stands between line feeds, and each is read by itself: one carriage return at
its end is dropped, and what is left is no text, a blank text, an instruction or a fault. Where the
file is a text, the carriage return makes no difference.
-/

namespace FourReg.Source

/-- What stands between line feeds. Nothing behind the last line feed is no line. -/
def lines (bs : List UInt8) : List (List UInt8) :=
  let parts := bs.splitOn lineFeed
  if parts.getLast? = some [] then parts.dropLast else parts

/-- A line without one carriage return at its end. -/
def chomp (l : List UInt8) : List UInt8 :=
  if l.getLast? = some carriageReturn then l.dropLast else l

/-- The item that a text gives as the line with number `n`. -/
def textItem (n : Nat) (text : String) : Option Item :=
  if text.toList.all Text.isBlank then none
  else
    match assemble text with
    | .ok i => some (.ok i)
    | .error fault => some (.error (.assembly ⟨some n, fault⟩))

/-- The item on the line with number `n`. -/
def reading (n : Nat) (l : List UInt8) : Option Item :=
  if h : l.toByteArray.IsValidUTF8 then textItem n (String.fromUTF8 l.toByteArray h)
  else some (.error (.invalidUtf8 n))

/-- The items on lines that are numbered from `n` on. -/
def readings (n : Nat) (bs : List UInt8) : List Item :=
  ((lines bs).zipIdx n).filterMap fun (l, k) => reading k (chomp l)

def error? : Item → Option Error
  | .ok _ => none
  | .error e => some e

/-- The first error among items, or all their instructions if there is none. -/
def collected (items : List Item) : Except Error Program :=
  match items.findSome? error? with
  | some e => .error e
  | none => .ok (items.filterMap Except.toOption).toArray

lemma collected_ok_cons (i : Instruction) (items : List Item) :
    collected (.ok i :: items) = (collected items).map (#[i] ++ ·) := by
  unfold collected
  rw [List.findSome?_cons, List.filterMap_cons]
  cases items.findSome? error? with
  | none => simp [error?, Except.toOption, Except.map]
  | some e => rfl

/-! ### Lines -/

@[simp] lemma lines_nil : lines [] = [] := by
  simp [lines]

lemma lines_of_notMem {l : List UInt8} (h : lineFeed ∉ l) (hne : l ≠ []) : lines l = [l] := by
  simp [lines, List.splitOn_eq_singleton h, hne]

lemma lines_append {l : List UInt8} (h : lineFeed ∉ l) (bs : List UInt8) :
    lines (l ++ lineFeed :: bs) = l :: lines bs := by
  have hne : bs.splitOn lineFeed ≠ [] := List.splitOn_ne_nil _ _
  have hlast : (l :: bs.splitOn lineFeed).getLast? = (bs.splitOn lineFeed).getLast? := by
    rw [List.getLast?_cons, List.getLast?_eq_some_getLast hne]
    rfl
  unfold lines
  rw [List.splitOn_append_cons_self_of_not_mem h]
  simp only [hlast]
  split
  · rw [List.dropLast_cons_of_ne_nil hne]
  · rfl

def firstLine (bs : List UInt8) : List UInt8 := bs.takeWhile (· != lineFeed)

def behindLine (bs : List UInt8) : List UInt8 := bs.drop ((firstLine bs).length + 1)

lemma lineFeed_notMem_firstLine (bs : List UInt8) : lineFeed ∉ firstLine bs := by
  intro h
  have hall := List.all_eq_true.1 List.all_takeWhile lineFeed h
  simp at hall

lemma firstLine_cons_of_ne {b : UInt8} (h : b ≠ lineFeed) (bs : List UInt8) :
    firstLine (b :: bs) = b :: firstLine bs := by
  simp [firstLine, h]

@[simp] lemma firstLine_lineFeed (bs : List UInt8) : firstLine (lineFeed :: bs) = [] := by
  simp [firstLine]

lemma firstLine_append (bs : List UInt8) :
    (bs = firstLine bs ∧ behindLine bs = []) ∨ bs = firstLine bs ++ lineFeed :: behindLine bs := by
  induction bs with
  | nil => exact .inl ⟨rfl, rfl⟩
  | cons b bs ih =>
    by_cases hb : b = lineFeed
    · subst hb
      exact .inr (by simp [behindLine])
    · have hbehind : behindLine (b :: bs) = behindLine bs := by
        simp [behindLine, firstLine_cons_of_ne hb]
      rw [firstLine_cons_of_ne hb, hbehind, List.cons_append]
      exact ih.imp (fun h => ⟨congrArg _ h.1, h.2⟩) (congrArg _)

lemma lines_eq_cons {bs : List UInt8} (h : bs ≠ []) :
    lines bs = firstLine bs :: lines (behindLine bs) := by
  have hfirst := lineFeed_notMem_firstLine bs
  rcases firstLine_append bs with ⟨he, hb⟩ | he
  · rw [hb, lines_nil, ← lines_of_notMem hfirst (he ▸ h), ← he]
  · rw [← lines_append hfirst, ← he]

@[simp] lemma readings_nil (n : Nat) : readings n [] = [] := by
  simp [readings]

lemma readings_of_lines_eq_cons {bs l bs' : List UInt8} (h : lines bs = l :: lines bs') (n : Nat) :
    readings n bs = (reading n (chomp l)).toList ++ readings (n + 1) bs' := by
  rw [readings, h, List.zipIdx_cons, List.filterMap_cons]
  cases hr : reading n (chomp l) with
  | none => simp [hr, readings]
  | some item => simp [hr, readings]

lemma isPrefix_firstLine (bs : List UInt8) : firstLine bs <+: bs := List.takeWhile_prefix _

lemma chomp_concat (l : List UInt8) (b : UInt8) :
    chomp (l ++ [b]) = if b = carriageReturn then l else l ++ [b] := by
  simp [chomp]

lemma isPrefix_chomp (l : List UInt8) : chomp l <+: l := by
  unfold chomp
  split
  · exact List.dropLast_prefix l
  · exact List.prefix_rfl

/-! ### Lines of text -/

def bytesOf (text : String) : List UInt8 := text.toUTF8.data.toList

lemma bytesOf_append (s t : String) : bytesOf (s ++ t) = bytesOf s ++ bytesOf t := by
  simp [bytesOf]

lemma bytesOf_newline : bytesOf "\n" = [lineFeed] := by
  decide

lemma bytesOf_eq_flatMap (text : String) :
    bytesOf text = text.toList.flatMap String.utf8EncodeChar := by
  obtain ⟨cs, rfl⟩ : ∃ cs, String.ofList cs = text := ⟨text.toList, String.ofList_toList⟩
  rw [String.toList_ofList]
  simp [bytesOf, String.ofList, List.utf8Encode]

/-- Below 128 a byte stands for the character with its number and for nothing else. -/
lemma mem_utf8EncodeChar {b : UInt8} {ch : Char} (hb : b.toNat < 128)
    (h : b ∈ String.utf8EncodeChar ch) : ch.toNat = b.toNat := by
  have hsmall : ∀ n < 256, b = UInt8.ofNat n → b.toNat = n := by
    rintro n hn rfl
    rw [UInt8.toNat_ofNat', Nat.mod_eq_of_lt hn]
  have hlarge : ∀ n < 256, 128 ≤ n → b ≠ UInt8.ofNat n := by
    intro n hn hle hbn
    have := hsmall n hn hbn
    omega
  have hval : ch.toNat = ch.val.toNat := rfl
  simp only [String.utf8EncodeChar] at h
  split at h
  · have hbn := hsmall _ (by omega) (List.mem_singleton.1 h)
    omega
  · -- all bytes of a longer encoding are at least 128
    exfalso
    split at h
    · simp only [List.mem_cons, List.not_mem_nil, or_false] at h
      rcases h with h | h <;> exact hlarge _ (by omega) (by omega) h
    · split at h
      · simp only [List.mem_cons, List.not_mem_nil, or_false] at h
        rcases h with h | h | h <;> exact hlarge _ (by omega) (by omega) h
      · simp only [List.mem_cons, List.not_mem_nil, or_false] at h
        rcases h with h | h | h | h <;> exact hlarge _ (by omega) (by omega) h

lemma mem_bytesOf {text : String} {ch : Char} {b : UInt8} (hb : b.toNat < 128)
    (hch : ch.toNat = b.toNat) (h : b ∈ bytesOf text) : ch ∈ text.toList := by
  rw [bytesOf_eq_flatMap] at h
  obtain ⟨ch', hmem, hb'⟩ := List.mem_flatMap.1 h
  have hnat := mem_utf8EncodeChar hb hb'
  obtain rfl : ch = ch' := Char.toNat_inj.1 (by omega)
  exact hmem

lemma reading_bytesOf (n : Nat) (text : String) : reading n (bytesOf text) = textItem n text := by
  have hbytes : (bytesOf text).toByteArray = text.toByteArray := by
    apply ByteArray.ext
    simp [bytesOf]
  have hvalid : (bytesOf text).toByteArray.IsValidUTF8 := hbytes ▸ text.isValidUTF8
  have htext : String.fromUTF8 (bytesOf text).toByteArray hvalid = text := by
    apply String.toByteArray_inj.1
    exact hbytes
  rw [reading, dif_pos hvalid, htext]

lemma textItem_of_ok {text : String} {i : Instruction} (h : assemble text = .ok i) (n : Nat) :
    textItem n text = some (.ok i) := by
  have hblank : ¬text.toList.all Text.isBlank = true := by
    rw [← Text.isBlankText, ← assemble_eq_emptyLine_iff, h]
    simp
  rw [textItem, if_neg hblank, h]

lemma textItem_of_blank {line : String} (h : Text.isBlankText line = true) (n : Nat) :
    textItem n line = none :=
  if_pos h

lemma textItem_of_error {line : String} {fault : Assembly.Fault}
    (hblank : Text.isBlankText line = false) (h : assemble line = .error fault) (n : Nat) :
    textItem n line = some (.error (.assembly ⟨some n, fault⟩)) := by
  rw [textItem, ← Text.isBlankText, hblank, h]
  rfl

/-- A blank line gives no item, so it is no fault. -/
lemma textItem_ne_emptyLine (n : Nat) (text : String) (line : Option Nat) :
    textItem n text ≠ some (.error (.assembly ⟨line, .emptyLine⟩)) := by
  unfold textItem
  split
  · simp
  · rename_i hblank
    rw [← Text.isBlankText, ← assemble_eq_emptyLine_iff] at hblank
    cases ha : assemble text with
    | ok i => simp
    | error fault =>
      intro hitem
      cases hitem
      exact hblank ha

lemma reading_ne_emptyLine (n : Nat) (l : List UInt8) (line : Option Nat) :
    reading n l ≠ some (.error (.assembly ⟨line, .emptyLine⟩)) := by
  unfold reading
  split
  · exact textItem_ne_emptyLine n _ line
  · simp

end FourReg.Source

/-! ### Carriage returns -/

namespace FourReg

namespace Text

lemma scanWords_append_blank {ch : Char} (h : isBlank ch = true) (cs : List Char) :
    scanWords (cs ++ [ch]) = scanWords cs := by
  induction cs with
  | nil => simp [scanWords, h, consWord]
  | cons d cs ih => rw [List.cons_append, scanWords, scanWords, ih]

end Text

/-- A carriage return at the end of a line is a blank like others. -/
lemma assemble_append_carriageReturn (line : String) : assemble (line ++ "\r") = assemble line := by
  have hwords : Text.words (line ++ "\r") = Text.words line := by
    have hchars : (line ++ "\r").toList = line.toList ++ ['\r'] := by simp
    rw [Text.words, hchars, Text.charWords, Text.scanWords_append_blank (by decide)]
    rfl
  rw [assemble, assemble, hwords]

namespace Source

lemma textItem_append_carriageReturn (n : Nat) (line : String) :
    textItem n (line ++ "\r") = textItem n line := by
  have hblank : (line ++ "\r").toList.all Text.isBlank = line.toList.all Text.isBlank := by
    have hreturn : Text.isBlank '\r' = true := by decide
    simp [hreturn]
  rw [textItem, textItem, hblank, assemble_append_carriageReturn]

/-- The last byte of a line is a carriage return only if its last character is one. -/
lemma chomp_bytesOf (line : String) :
    chomp (bytesOf line) = bytesOf line ∨
      ∃ text, line = text ++ "\r" ∧ chomp (bytesOf line) = bytesOf text := by
  by_cases hlast : (bytesOf line).getLast? = some carriageReturn
  · right
    rcases List.eq_nil_or_concat' line.toList with hnil | ⟨cs, ch, hcs⟩
    · rw [bytesOf_eq_flatMap, hnil] at hlast
      cases hlast
    have hline : line = String.ofList cs ++ String.ofList [ch] := by
      rw [← String.ofList_append, ← hcs, String.ofList_toList]
    have hbytes : bytesOf (String.ofList [ch]) = String.utf8EncodeChar ch := by
      simp [bytesOf_eq_flatMap]
    have hmem : carriageReturn ∈ String.utf8EncodeChar ch := by
      rw [hline, bytesOf_append, hbytes,
        List.getLast?_append_of_ne_nil _ String.utf8EncodeChar_ne_nil] at hlast
      exact List.mem_of_getLast? hlast
    obtain rfl : ch = '\r' := Char.toNat_inj.1 (mem_utf8EncodeChar (by decide) hmem)
    refine ⟨String.ofList cs, hline, ?_⟩
    rw [hline, bytesOf_append, hbytes]
    exact chomp_concat _ _
  · left
    rw [chomp, if_neg hlast]

lemma reading_chomp_bytesOf (n : Nat) (line : String) :
    reading n (chomp (bytesOf line)) = textItem n line := by
  rcases chomp_bytesOf line with h | ⟨text, rfl, h⟩
  · rw [h, reading_bytesOf]
  · rw [h, reading_bytesOf, textItem_append_carriageReturn]

lemma lineFeed_notMem_bytesOf {line : String} (h : '\n' ∉ line.toList) :
    lineFeed ∉ bytesOf line :=
  fun hmem => h (mem_bytesOf (by decide) rfl hmem)

lemma readings_line {line : String} (h : '\n' ∉ line.toList) (n : Nat) (rest : String) :
    readings n (bytesOf (line ++ "\n" ++ rest)) =
      (textItem n line).toList ++ readings (n + 1) (bytesOf rest) := by
  have hbytes : bytesOf (line ++ "\n" ++ rest) = bytesOf line ++ lineFeed :: bytesOf rest := by
    rw [bytesOf_append, bytesOf_append, bytesOf_newline, List.append_assoc, List.singleton_append]
  rw [hbytes, readings_of_lines_eq_cons (lines_append (lineFeed_notMem_bytesOf h) _),
    reading_chomp_bytesOf]

end Source

end FourReg
