import FourReg.Proofs.Reading

/-!
Lines one by one, and the same lines as one text.

What is read from a text is what its lines that are not blank are assembled to, with the numbers
they have among all lines.
-/

namespace FourReg

namespace Source

/-! ### Lines that are joined -/

lemma readings_last {line : String} (h : '\n' ∉ line.toList) (n : Nat) :
    readings n (bytesOf line) = (textItem n line).toList := by
  by_cases hempty : bytesOf line = []
  · have hitem : textItem n line = textItem n "" := by
      rw [← reading_chomp_bytesOf, ← reading_chomp_bytesOf, hempty]
      rfl
    rw [hempty, hitem]
    exact readings_nil n
  · have hlines : lines (bytesOf line) = bytesOf line :: lines [] := by
      rw [lines_of_notMem (lineFeed_notMem_bytesOf h) hempty, lines_nil]
    rw [readings_of_lines_eq_cons hlines, reading_chomp_bytesOf, readings_nil, List.append_nil]

/-- The text has these lines: a line feed stands between any two of them, and perhaps one behind the
last. -/
def Joins (ls : List String) (text : String) : Prop :=
  text = "\n".intercalate ls ∨ text = "\n".intercalate ls ++ "\n"

def lineItems (n : Nat) (ls : List String) : List Item :=
  (ls.zipIdx n).filterMap fun l => textItem l.2 l.1

lemma lineItems_cons (n : Nat) (line : String) (ls : List String) :
    lineItems n (line :: ls) = (textItem n line).toList ++ lineItems (n + 1) ls := by
  rw [lineItems, List.zipIdx_cons, List.filterMap_cons]
  cases textItem n line <;> simp [lineItems]

lemma Joins.cons {line text : String} {ls : List String} (h : Joins (line :: ls) text) :
    (ls = [] ∧ text = line) ∨ ∃ rest, Joins ls rest ∧ text = line ++ "\n" ++ rest := by
  cases ls with
  | nil =>
    rw [Joins, String.intercalate_singleton] at h
    refine h.imp (fun htext => ⟨rfl, htext⟩) fun htext => ⟨"", .inl rfl, ?_⟩
    rw [htext, String.append_empty]
  | cons next ls =>
    rw [Joins, String.intercalate_cons_cons] at h
    rcases h with rfl | rfl
    · exact .inr ⟨_, .inl rfl, rfl⟩
    · exact .inr ⟨_, .inr rfl, String.append_assoc⟩

/-- **A text is read line by line.** -/
lemma Joins.readings_eq {text : String} {ls : List String} (h : Joins ls text)
    (hls : ∀ line ∈ ls, '\n' ∉ line.toList) (n : Nat) :
    readings n (bytesOf text) = lineItems n ls := by
  induction ls generalizing text n with
  | nil =>
    have hempty : '\n' ∉ "".toList := by decide
    rcases h with rfl | rfl
    · exact readings_nil n
    · exact readings_line hempty n ""
  | cons line ls ih =>
    obtain ⟨hline, hls⟩ := List.forall_mem_cons.1 hls
    rw [lineItems_cons]
    rcases h.cons with ⟨rfl, rfl⟩ | ⟨rest, hrest, rfl⟩
    · rw [readings_last hline]
      exact (List.append_nil _).symm
    · rw [readings_line hline, ih hrest hls]

end Source

/-! ### Numbers of lines -/

/-- The lines that are not blank, with their numbers if all lines are numbered from `n` on. -/
def numbered (n : Nat) (ls : List String) : List (String × Nat) :=
  (ls.zipIdx n).filter fun l => !Text.isBlankText l.1

lemma numbered_cons_of_blank {line : String} (h : Text.isBlankText line = true) (n : Nat)
    (ls : List String) : numbered n (line :: ls) = numbered (n + 1) ls := by
  simp [numbered, List.zipIdx_cons, h]

lemma numbered_cons_of_not_blank {line : String} (h : Text.isBlankText line = false) (n : Nat)
    (ls : List String) : numbered n (line :: ls) = (line, n) :: numbered (n + 1) ls := by
  simp [numbered, List.zipIdx_cons, h]

lemma map_fst_numbered (n : Nat) (ls : List String) :
    (numbered n ls).map Prod.fst = ls.filter fun line => !Text.isBlankText line := by
  have hfilter := List.filter_map (f := Prod.fst) (p := fun line => !Text.isBlankText line)
    (l := ls.zipIdx n)
  rw [List.zipIdx_map_fst] at hfilter
  exact hfilter.symm

lemma numbered_of_forall {ls : List String} (h : ∀ line ∈ ls, Text.isBlankText line = false)
    (n : Nat) : numbered n ls = ls.zipIdx n := by
  refine List.filter_eq_self.2 fun ⟨line, k⟩ hmem => ?_
  simp [h line (List.fst_mem_of_mem_zipIdx hmem)]

def assembleNumbered (ns : List (String × Nat)) : Except Assembly.Error (List Instruction) :=
  ns.mapM fun l => assembleAt l.2 l.1

lemma assembleLines_eq (ls : List String) :
    assembleLines ls = (assembleNumbered (ls.zipIdx 1)).map List.toArray := rfl

section

variable {line : String} {fault : Assembly.Fault} {i : Instruction}

lemma assembleNumbered_cons_of_error (h : assemble line = .error fault) (n : Nat)
    (ns : List (String × Nat)) :
    assembleNumbered ((line, n) :: ns) = .error ⟨some n, fault⟩ := by
  have hline : assembleAt n line = .error ⟨some n, fault⟩ := by
    rw [assembleAt, h]
    rfl
  exact mapM_cons_of_error (a := (line, n)) hline ns

lemma assembleNumbered_cons_of_ok (h : assemble line = .ok i) (n : Nat)
    (ns : List (String × Nat)) :
    assembleNumbered ((line, n) :: ns) = (assembleNumbered ns).map (i :: ·) := by
  have hline : assembleAt n line = .ok i := by
    rw [assembleAt, h]
    rfl
  exact mapM_cons_of_ok (a := (line, n)) hline ns

end

/-- **Other numbers** change neither the instructions nor the line at fault, but only the number
that is reported for it. -/
lemma assembleNumbered_zipIdx (ns : List (String × Nat)) (k : Nat) :
    (∃ is, assembleNumbered ns = .ok is ∧
      assembleNumbered ((ns.map Prod.fst).zipIdx k) = .ok is) ∨
    ∃ j line n fault, ns[j]? = some (line, n) ∧
      assembleNumbered ns = .error ⟨some n, fault⟩ ∧
      assembleNumbered ((ns.map Prod.fst).zipIdx k) = .error ⟨some (k + j), fault⟩ := by
  induction ns generalizing k with
  | nil => exact .inl ⟨[], rfl, rfl⟩
  | cons head ns ih =>
    obtain ⟨line, n⟩ := head
    rw [List.map_cons, List.zipIdx_cons]
    cases h : assemble line with
    | error fault =>
      rw [assembleNumbered_cons_of_error h, assembleNumbered_cons_of_error h]
      exact .inr ⟨0, line, n, fault, rfl, rfl, rfl⟩
    | ok i =>
      rw [assembleNumbered_cons_of_ok h, assembleNumbered_cons_of_ok h]
      rcases ih (k + 1) with ⟨is, h₁, h₂⟩ | ⟨j, line', n', fault, hj, h₁, h₂⟩
      · rw [h₁, h₂]
        exact .inl ⟨i :: is, rfl, rfl⟩
      · rw [h₁, h₂, Nat.add_assoc, Nat.add_comm 1 j]
        exact .inr ⟨j + 1, line', n', fault, hj, rfl, rfl⟩

namespace Source

lemma collected_lineItems (n : Nat) (ls : List String) :
    collected (lineItems n ls) =
      ((assembleNumbered (numbered n ls)).map List.toArray).mapError .assembly := by
  induction ls generalizing n with
  | nil => rfl
  | cons line ls ih =>
    rw [lineItems_cons]
    cases hblank : Text.isBlankText line with
    | true =>
      rw [textItem_of_blank hblank, numbered_cons_of_blank hblank]
      exact ih (n + 1)
    | false =>
      rw [numbered_cons_of_not_blank hblank]
      cases h : assemble line with
      | error fault =>
        rw [textItem_of_error hblank h, assembleNumbered_cons_of_error h]
        rfl
      | ok i =>
        rw [textItem_of_ok h, assembleNumbered_cons_of_ok h, Option.toList_some,
          List.singleton_append, collected_ok_cons, ih]
        cases assembleNumbered (numbered (n + 1) ls) <;> simp [Except.map, Except.mapError]

/-- **A text gives what its lines give** that are not blank, with their numbers among all lines. -/
lemma Joins.program_eq {text : String} {ls : List String} (h : Joins ls text)
    (hls : ∀ line ∈ ls, '\n' ∉ line.toList) :
    (Reader.ofText text).program =
      ((assembleNumbered (numbered 1 ls)).map List.toArray).mapError .assembly := by
  have hitems : (Reader.ofText text).items = lineItems 1 ls :=
    (Reader.items_eq_expected _).trans (h.readings_eq hls 1)
  rw [Reader.program_eq_collected, hitems, collected_lineItems]

end Source

lemma Source.Joins.agrees {text : String} {ls : List String} (h : Joins ls text)
    (hls : ∀ line ∈ ls, '\n' ∉ line.toList) :
    (∃ p, (Reader.ofText text).program = .ok p ∧
      assembleLines ((numbered 1 ls).map Prod.fst) = .ok p) ∨
    ∃ j line n fault, (numbered 1 ls)[j]? = some (line, n) ∧
      (Reader.ofText text).program = .error (.assembly ⟨some n, fault⟩) ∧
      assembleLines ((numbered 1 ls).map Prod.fst) = .error ⟨some (j + 1), fault⟩ := by
  rw [h.program_eq hls, assembleLines_eq]
  rcases assembleNumbered_zipIdx (numbered 1 ls) 1 with
    ⟨is, h₁, h₂⟩ | ⟨j, line, n, fault, hj, h₁, h₂⟩
  · rw [h₁, h₂]
    exact .inl ⟨is.toArray, rfl, rfl⟩
  · rw [h₁, h₂, Nat.add_comm 1 j]
    exact .inr ⟨j, line, n, fault, hj, rfl, rfl⟩

/-- A blank line among others is a fault, unless there is one before it. -/
lemma assembleLines_append_blank {line : String} (h : Text.isBlankText line = true)
    (before behind : List String) :
    assembleLines (before ++ line :: behind) =
      (assembleLines before).bind fun _ => .error ⟨some (before.length + 1), .emptyLine⟩ := by
  have hrest := assembleNumbered_cons_of_error (assemble_eq_emptyLine_iff.2 h) (1 + before.length)
    (behind.zipIdx (1 + before.length + 1))
  rw [assembleLines_eq, assembleLines_eq, List.zipIdx_append, List.zipIdx_cons, assembleNumbered,
    List.mapM_append, ← assembleNumbered, ← assembleNumbered, hrest, Nat.add_comm 1]
  cases assembleNumbered (before.zipIdx 1) <;> rfl

/-- **A text and its lines give the same program**, or the same fault on the same line. -/
theorem text_agrees_with_lines {ls : List String} {text : String} (h : Source.Joins ls text)
    (hls : ∀ line ∈ ls, '\n' ∉ line.toList) :
    let ks := ls.filter fun line => !Text.isBlankText line
    let program := (Source.Reader.ofText text).program
    (∀ p, program = .ok p ↔ assembleLines ks = .ok p) ∧
    ((numbered 1 ls).map Prod.fst = ks ∧
      ∀ n fault, program = .error (.assembly ⟨some n, fault⟩) ↔
        ∃ j line, assembleLines ks = .error ⟨some (j + 1), fault⟩ ∧
          (numbered 1 ls)[j]? = some (line, n)) ∧
    ((∀ line ∈ ls, Text.isBlankText line = false) →
      program = (assembleLines ls).mapError .assembly) ∧
    ((∃ line ∈ ls, Text.isBlankText line = true) →
      ∃ before line behind, ls = before ++ line :: behind ∧ Text.isBlankText line = true ∧
        (∀ l ∈ before, Text.isBlankText l = false) ∧
        assembleLines ls =
          (assembleLines before).bind fun _ => .error ⟨some (before.length + 1), .emptyLine⟩) := by
  intro ks program
  have hks : (numbered 1 ls).map Prod.fst = ks := map_fst_numbered 1 ls
  have hagrees := h.agrees hls
  rw [hks] at hagrees
  refine ⟨fun p => ?_, ⟨hks, fun n fault => ?_⟩, fun hnone => ?_, fun ⟨line, hmem, hblank⟩ => ?_⟩
  · rcases hagrees with ⟨q, h₁, h₂⟩ | ⟨j, line, n, fault, -, h₁, h₂⟩
    · simp [program, h₁, h₂]
    · simp [program, h₁, h₂]
  · rcases hagrees with ⟨q, h₁, h₂⟩ | ⟨j, line, n', fault', hj, h₁, h₂⟩
    · simp [program, h₁, h₂]
    · constructor
      · intro hn
        cases h₁.symm.trans hn
        exact ⟨j, line, h₂, hj⟩
      · rintro ⟨j', line', hj', hline⟩
        cases h₂.symm.trans hj'
        cases hj.symm.trans hline
        exact h₁
  · rw [assembleLines_eq, ← numbered_of_forall hnone]
    exact h.program_eq hls
  · -- the first of the blank lines
    have hsome : (ls.find? Text.isBlankText).isSome = true :=
      List.find?_isSome.2 ⟨line, hmem, hblank⟩
    obtain ⟨first, hfirst⟩ := Option.isSome_iff_exists.1 hsome
    obtain ⟨hfirst', before, behind, rfl, hbefore⟩ := List.find?_eq_some_iff_append.1 hfirst
    refine ⟨before, first, behind, rfl, hfirst', fun l hl => ?_, ?_⟩
    · simpa using hbefore l hl
    · exact assembleLines_append_blank hfirst' before behind

/-- A fault on the third line, which is the second that is not blank and ends with a carriage
return. -/
theorem text_agrees_with_lines_third :
    (Source.Reader.ofText "inc a\n \ncpy 1 2\r\n").program =
      .error (.assembly ⟨some 3, .invalidDestination .cpy 2⟩) ∧
    assembleLines ["inc a", "cpy 1 2\r"] = .error ⟨some 2, .invalidDestination .cpy 2⟩ := by
  have hjoins : Source.Joins ["inc a", " ", "cpy 1 2\r"] "inc a\n \ncpy 1 2\r\n" :=
    .inr (by decide)
  have hlines : assembleLines ["inc a", "cpy 1 2\r"] =
      .error ⟨some 2, .invalidDestination .cpy 2⟩ := by rfl
  obtain ⟨-, ⟨-, hfault⟩, -⟩ := text_agrees_with_lines hjoins (by decide)
  exact ⟨(hfault _ _).2 ⟨1, _, hlines, rfl⟩, hlines⟩

end FourReg
