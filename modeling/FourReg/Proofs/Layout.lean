import FourReg.Proofs.Encoding
import FourReg.Proofs.Grammar

/-!
The layout of a source file.

Blank lines, carriage returns at the ends of lines and a line feed at the end of the file do not
matter: files that differ in these hold the same instructions and the same errors. Only the numbers
of lines change, by the blank lines that stand in front of them.
-/

namespace FourReg.Source

variable {n d : Nat} {l bs bs' : List UInt8} {f g : Nat → Nat}

/-! ### Carriage returns -/

lemma reading_of_not_isText (h : ¬IsText l) (n : Nat) :
    reading n l = some (.error (.invalidUtf8 n)) :=
  dif_neg h

lemma exists_bytesOf_eq (h : IsText l) : ∃ text, bytesOf text = l := by
  obtain ⟨cs, rfl⟩ := isText_iff.1 h
  exact ⟨String.ofList cs, by rw [bytesOf_eq_flatMap, String.toList_ofList]⟩

lemma reading_append_carriageReturn (n : Nat) (l : List UInt8) :
    reading n (l ++ [carriageReturn]) = reading n l := by
  by_cases h : IsText l
  · obtain ⟨text, rfl⟩ := exists_bytesOf_eq h
    have hbytes : bytesOf text ++ [carriageReturn] = bytesOf (text ++ "\r") := by
      rw [bytesOf_append]
      rfl
    rw [hbytes, reading_bytesOf, reading_bytesOf, textItem_append_carriageReturn]
  · have h' : ¬IsText (l ++ [carriageReturn]) := fun ht =>
      h ((isText_append_cons_iff (by decide)).1 ht).1
    rw [reading_of_not_isText h, reading_of_not_isText h']

lemma reading_chomp (n : Nat) (l : List UInt8) : reading n (chomp l) = reading n l := by
  rcases List.eq_nil_or_concat' l with rfl | ⟨l, b, rfl⟩
  · rfl
  · rw [chomp_concat]
    split
    · rename_i hb
      rw [hb, reading_append_carriageReturn]
    · rfl

/-! ### Files line by line -/

/-- **Induction on lines**: a file is a last line without a line feed, or a line, a line feed and
another file. -/
lemma lines_induction {P : List UInt8 → Prop} (last : ∀ l, lineFeed ∉ l → P l)
    (line : ∀ l bs, lineFeed ∉ l → P bs → P (l ++ lineFeed :: bs)) (bs : List UInt8) : P bs := by
  have hfirst := lineFeed_notMem_firstLine bs
  rcases firstLine_append bs with ⟨he, -⟩ | he
  · rw [he]
    exact last _ hfirst
  · have hlt : (behindLine bs).length < bs.length := by
      have hlength := congrArg List.length he
      rw [List.length_append, List.length_cons] at hlength
      omega
    rw [he]
    exact line _ _ hfirst (lines_induction last line (behindLine bs))
termination_by bs.length

lemma readings_of_notMem (h : lineFeed ∉ l) (n : Nat) : readings n l = (reading n l).toList := by
  by_cases hl : l = []
  · subst hl
    rw [readings_nil]
    rfl
  · have hlines : lines l = l :: lines [] := by rw [lines_of_notMem h hl, lines_nil]
    rw [readings_of_lines_eq_cons hlines, reading_chomp, readings_nil, List.append_nil]

lemma readings_line_append (h : lineFeed ∉ l) (n : Nat) (bs : List UInt8) :
    readings n (l ++ lineFeed :: bs) = (reading n l).toList ++ readings (n + 1) bs := by
  rw [readings_of_lines_eq_cons (lines_append h bs), reading_chomp]

lemma count_line_append (h : lineFeed ∉ l) (bs : List UInt8) :
    (l ++ lineFeed :: bs).count lineFeed = bs.count lineFeed + 1 := by
  rw [List.count_append, List.count_eq_zero.2 h, List.count_cons_self, Nat.zero_add]

/-- **A cut at a line feed**: what stands behind it is read with the numbers that follow. -/
lemma readings_append_lineFeed (n : Nat) (bs bs' : List UInt8) :
    readings n (bs ++ lineFeed :: bs') =
      readings n bs ++ readings (n + (bs.count lineFeed + 1)) bs' := by
  induction bs using lines_induction generalizing n with
  | last l h => rw [readings_line_append h, readings_of_notMem h, List.count_eq_zero.2 h]
  | line l bs h ih =>
    rw [List.append_assoc, List.cons_append, readings_line_append h, readings_line_append h, ih,
      count_line_append h, List.append_assoc, Nat.add_assoc, Nat.add_comm 1]

lemma readings_append_carriageReturn (n : Nat) (bs : List UInt8) :
    readings n (bs ++ [carriageReturn]) = readings n bs := by
  induction bs using lines_induction generalizing n with
  | last l h =>
    have h' : lineFeed ∉ l ++ [carriageReturn] := by
      rw [List.mem_append, not_or]
      exact ⟨h, by decide⟩
    rw [readings_of_notMem h', readings_of_notMem h, reading_append_carriageReturn]
  | line l bs h ih =>
    rw [List.append_assoc, List.cons_append, readings_line_append h, readings_line_append h, ih]

/-! ### Numbers of lines -/

def Error.renumber (f : Nat → Nat) : Error → Error
  | invalidUtf8 line => .invalidUtf8 (f line)
  | assembly e => .assembly { e with line := e.line.map f }
  | openFailed cause => .openFailed cause
  | mapFailed cause => .mapFailed cause

def renumber (f : Nat → Nat) (item : Item) : Item := item.mapError (Error.renumber f)

lemma renumber_renumber (f g : Nat → Nat) (item : Item) :
    renumber g (renumber f item) = renumber (fun n => g (f n)) item := by
  rcases item with (_ | _ | _ | ⟨_ | _, _⟩) | _ <;> rfl

lemma renumber_id (item : Item) : renumber (fun n => n) item = item := by
  rcases item with (_ | _ | _ | ⟨_ | _, _⟩) | _ <;> rfl

lemma reading_renumber (f : Nat → Nat) (n : Nat) (l : List UInt8) :
    (reading n l).map (renumber f) = reading (f n) l := by
  unfold reading
  split
  · unfold textItem
    split
    · rfl
    · cases assemble (String.fromUTF8 l.toByteArray _) <;> rfl
  · rfl

/-- **Lines that move** by the same number take their items along. -/
lemma map_renumber_readings (h : ∀ k, n ≤ k → k ≤ n + bs.count lineFeed → f k = k + d) :
    (readings n bs).map (renumber f) = readings (n + d) bs := by
  induction bs using lines_induction generalizing n with
  | last l hl =>
    have hn : f n = n + d := h n (Nat.le_refl n) (Nat.le_add_right _ _)
    rw [readings_of_notMem hl, readings_of_notMem hl, ← Option.toList_map, reading_renumber, hn]
  | line l bs hl ih =>
    rw [count_line_append hl] at h
    have hn : f n = n + d := h n (Nat.le_refl n) (Nat.le_add_right _ _)
    rw [readings_line_append hl, readings_line_append hl, List.map_append,
      ← Option.toList_map, reading_renumber, hn, ih fun k hk hle => h k (by omega) (by omega),
      Nat.add_right_comm]

lemma readings_of_blank {blank : String} (h : Text.Blanks blank.toList)
    (hline : '\n' ∉ blank.toList) (n : Nat) : readings n (bytesOf blank) = [] := by
  have hblank : Text.isBlankText blank = true := List.all_eq_true.2 h
  rw [readings_of_notMem (lineFeed_notMem_bytesOf hline), reading_bytesOf,
    textItem_of_blank hblank]
  rfl

lemma collected_map_renumber (f : Nat → Nat) (items : List Item) :
    collected (items.map (renumber f)) = (collected items).mapError (Error.renumber f) := by
  induction items with
  | nil => rfl
  | cons item items ih =>
    rcases item with e | i
    · rfl
    · have hitem : renumber f (.ok i) = .ok i := rfl
      rw [List.map_cons, hitem, collected_ok_cons, collected_ok_cons, ih]
      cases collected items <;> rfl

/-! ### Edits -/

/-- A line is added behind `k` others, in front of those with greater numbers. -/
def addedBehind (k n : Nat) : Nat := if k < n then 1 else 0

/-- `Edit bs bs' added`: one edit of the layout makes `bs'` of `bs`, and it puts `added n` blank
lines in front of the line with number `n`. -/
inductive Edit : List UInt8 → List UInt8 → (Nat → Nat) → Prop
  /-- A blank line is put in front of a line, or at the end behind a line feed. -/
  | blankLine {before behind : List UInt8} {blank : String}
      (hstart : before = [] ∨ before.getLast? = some lineFeed) (hblank : Text.Blanks blank.toList)
      (hline : '\n' ∉ blank.toList) :
      Edit (before ++ behind) (before ++ (bytesOf blank ++ lineFeed :: behind))
        (addedBehind (before.count lineFeed))
  /-- A carriage return is put in front of a line feed. -/
  | innerReturn (before behind : List UInt8) :
      Edit (before ++ lineFeed :: behind) (before ++ carriageReturn :: lineFeed :: behind)
        fun _ => 0
  /-- A carriage return is put at the end. -/
  | lastReturn (bs : List UInt8) : Edit bs (bs ++ [carriageReturn]) fun _ => 0
  /-- The last line gets a line feed. -/
  | lastFeed {bs : List UInt8} (h : bs.getLast? ≠ some lineFeed) :
      Edit bs (bs ++ [lineFeed]) fun _ => 0

/-- Edits in a row. What an edit adds in front of a line is added to what stands there already. -/
inductive Edits (bs : List UInt8) : List UInt8 → (Nat → Nat) → Prop
  | none : Edits bs bs fun _ => 0
  | more {cs ds : List UInt8} {added added' : Nat → Nat} (h : Edits bs cs added)
      (hedit : Edit cs ds added') : Edits bs ds fun n => added n + added' (n + added n)

variable {added : Nat → Nat}

/-- **A blank line** moves the lines behind it and no others. -/
lemma readings_insert {before behind : List UInt8} {blank : String}
    (hstart : before = [] ∨ before.getLast? = some lineFeed) (hblank : Text.Blanks blank.toList)
    (hline : '\n' ∉ blank.toList) :
    readings 1 (before ++ (bytesOf blank ++ lineFeed :: behind)) =
      (readings 1 (before ++ behind)).map
        (renumber fun n => n + addedBehind (before.count lineFeed) n) := by
  have hinserted (k : Nat) :
      readings k (bytesOf blank ++ lineFeed :: behind) = readings (k + 1) behind := by
    rw [readings_append_lineFeed, readings_of_blank hblank hline,
      List.count_eq_zero.2 (lineFeed_notMem_bytesOf hline)]
    rfl
  rcases hstart with rfl | hlast
  · rw [List.nil_append, List.nil_append, hinserted]
    refine (map_renumber_readings fun k hk _ => ?_).symm
    rw [List.count_nil, addedBehind, if_pos (by omega)]
  · obtain ⟨u, rfl⟩ := List.getLast?_eq_some_iff.1 hlast
    have hcount : (u ++ [lineFeed]).count lineFeed = u.count lineFeed + 1 := by
      rw [List.count_append, List.count_singleton_self]
    have hfront : (readings 1 u).map (renumber fun n => n + addedBehind (u.count lineFeed + 1) n) =
        readings 1 u := by
      refine map_renumber_readings (d := 0) fun k _ hk => ?_
      rw [addedBehind, if_neg (by omega)]
    have hbehind : (readings (1 + (u.count lineFeed + 1)) behind).map
        (renumber fun n => n + addedBehind (u.count lineFeed + 1) n) =
          readings (1 + (u.count lineFeed + 1) + 1) behind := by
      refine map_renumber_readings fun k hk _ => ?_
      rw [addedBehind, if_pos (by omega)]
    rw [List.append_assoc, List.append_assoc, List.singleton_append, List.singleton_append,
      readings_append_lineFeed 1 u, readings_append_lineFeed 1 u, hinserted, List.map_append,
      hcount, hfront, hbehind]

lemma map_renumber_id (items : List Item) : items.map (renumber fun n => n + 0) = items := by
  have hid : (renumber fun n => n + 0) = id := funext renumber_id
  rw [hid, List.map_id]

/-- **One edit** keeps the items and counts their lines on. -/
lemma Edit.readings_eq (h : Edit bs bs' added) :
    readings 1 bs' = (readings 1 bs).map (renumber fun n => n + added n) := by
  cases h with
  | blankLine hstart hblank hline => exact readings_insert hstart hblank hline
  | innerReturn before behind =>
    have hcount : (before ++ [carriageReturn]).count lineFeed = before.count lineFeed := by
      rw [List.count_append]
      rfl
    have hsplit : before ++ carriageReturn :: lineFeed :: behind =
        (before ++ [carriageReturn]) ++ lineFeed :: behind := by
      rw [List.append_assoc, List.singleton_append]
    rw [map_renumber_id, hsplit, readings_append_lineFeed, readings_append_lineFeed,
      readings_append_carriageReturn, hcount]
  | lastReturn => rw [map_renumber_id, readings_append_carriageReturn]
  | lastFeed => rw [map_renumber_id, readings_append_lineFeed, readings_nil, List.append_nil]

lemma Edits.readings_eq (h : Edits bs bs' added) :
    readings 1 bs' = (readings 1 bs).map (renumber fun n => n + added n) := by
  induction h with
  | none => exact (map_renumber_id _).symm
  | more _ hedit ih =>
    rw [hedit.readings_eq, ih, List.map_map]
    refine List.map_congr_left fun item _ => ?_
    rw [Function.comp_apply, renumber_renumber]
    simp only [Nat.add_assoc]

/-- **Layout does not matter**: edits of it keep the items of a file, and its program, and change
the number of a line that is reported by the blank lines that are put in front of it. -/
theorem layout_does_not_matter {bytes bytes' : ByteArray} {added : Nat → Nat}
    (h : Edits bytes.data.toList bytes'.data.toList added) :
    Reader.items { bytes := bytes' } =
      (Reader.items { bytes }).map (renumber fun n => n + added n) ∧
    Reader.program { bytes := bytes' } =
      (Reader.program { bytes }).mapError (Error.renumber fun n => n + added n) ∧
    ∀ p, Reader.program { bytes := bytes' } = .ok p ↔ Reader.program { bytes } = .ok p := by
  have hitems : Reader.items { bytes := bytes' } =
      (Reader.items { bytes }).map (renumber fun n => n + added n) := by
    rw [Reader.items_eq_expected, Reader.items_eq_expected]
    exact h.readings_eq
  have hprogram : Reader.program { bytes := bytes' } =
      (Reader.program { bytes }).mapError (Error.renumber fun n => n + added n) := by
    rw [Reader.program_eq_collected, Reader.program_eq_collected, hitems, collected_map_renumber]
  refine ⟨hitems, hprogram, fun p => ?_⟩
  rw [hprogram]
  cases Reader.program { bytes } <;> simp [Except.mapError]

/-- A blank line in front of the second of three lines, a carriage return behind that and a line
feed behind the third. The second line is no text. -/
theorem layout_does_not_matter_third :
    let first := bytesOf "inc a\n"
    let third := bytesOf "cpy 1 2"
    let bs := first ++ 0xff :: lineFeed :: third
    let bs' := first ++ (bytesOf "\u3000\r" ++
      lineFeed :: 0xff :: carriageReturn :: lineFeed :: (third ++ [lineFeed]))
    (∃ added, Edits bs bs' added) ∧
    Reader.items { bytes := bs'.toByteArray } =
      [.ok (.increment .a), .error (.invalidUtf8 3),
        .error (.assembly ⟨some 4, .invalidDestination .cpy 2⟩)] := by
  intro first third bs bs'
  let front := first ++ (bytesOf "\u3000\r" ++ [lineFeed])
  have hblanks : Text.Blanks "\u3000\r".toList := List.all_eq_true.1 (by decide)
  have hblank : Edit bs (front ++ 0xff :: lineFeed :: third) (addedBehind 1) :=
    @Edit.blankLine first _ _ (.inr (by decide)) hblanks (by decide)
  have hreturn : Edit (front ++ 0xff :: lineFeed :: third)
      (front ++ 0xff :: carriageReturn :: lineFeed :: third) fun _ => 0 :=
    .innerReturn (front ++ [0xff]) third
  have hend : Edit (front ++ 0xff :: carriageReturn :: lineFeed :: third) bs' fun _ => 0 :=
    .lastFeed (by decide)
  have hedits := ((Edits.none.more hblank).more hreturn).more hend
  have hitems : Reader.items { bytes := bs.toByteArray } =
      [.ok (.increment .a), .error (.invalidUtf8 2),
        .error (.assembly ⟨some 3, .invalidDestination .cpy 2⟩)] := by
    rw [Reader.items_eq_expected]
    rfl
  refine ⟨⟨_, hedits⟩, ?_⟩
  rw [(@layout_does_not_matter bs.toByteArray _ _ (by simpa using hedits)).1, hitems]
  rfl

end FourReg.Source
