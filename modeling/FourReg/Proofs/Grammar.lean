import FourReg.Proofs.Numerals
import FourReg.Proofs.RoundTrip

/-!
The grammar of assembly lines.

A line is tokens with blanks around them. The first token is a mnemonic, and the others spell the
operands that the mnemonic asks for. Lines of this form are assembled, and no others.
-/

namespace FourReg

/-! ### Tokens on a line -/

namespace Text

/-- The code points with the property `White_Space`. -/
def whiteSpace : List Nat :=
  [0x09, 0x0a, 0x0b, 0x0c, 0x0d, 0x20, 0x85, 0xa0, 0x1680, 0x2000, 0x2001, 0x2002, 0x2003, 0x2004,
   0x2005, 0x2006, 0x2007, 0x2008, 0x2009, 0x200a, 0x2028, 0x2029, 0x202f, 0x205f, 0x3000]

lemma isBlank_iff {ch : Char} : isBlank ch = true ↔ ch.toNat ∈ whiteSpace := by
  simp only [isBlank, blankRanges, whiteSpace, List.any_cons, List.any_nil, Bool.or_false,
    Bool.or_eq_true, Bool.and_eq_true, decide_eq_true_eq, List.mem_cons, List.not_mem_nil, or_false]
  omega

def Blanks (gap : List Char) : Prop := ∀ ch ∈ gap, isBlank ch = true

/-- What follows a token: others, each behind at least one blank, and any blanks at the end. -/
inductive Behind : List (List Char) → List Char → Prop
  | nothing {gap : List Char} (h : Blanks gap) : Behind [] gap
  | token {gap w rest : List Char} {ws : List (List Char)} (hgap : Blanks gap) (hne : gap ≠ [])
      (hw : IsWord w) (hrest : Behind ws rest) : Behind (w :: ws) (gap ++ (w ++ rest))

/-- Tokens on a line: any blanks, the first token and what follows it. -/
inductive Laid : List (List Char) → List Char → Prop
  | line {gap w rest : List Char} {ws : List (List Char)} (hgap : Blanks gap) (hw : IsWord w)
      (hrest : Behind ws rest) : Laid (w :: ws) (gap ++ (w ++ rest))

lemma blanks_cons {ch : Char} {gap : List Char} (hch : isBlank ch = true) (h : Blanks gap) :
    Blanks (ch :: gap) :=
  List.forall_mem_cons.2 ⟨hch, h⟩

lemma Behind.cons_blank {ws : List (List Char)} {rest : List Char} (h : Behind ws rest) {ch : Char}
    (hch : isBlank ch = true) : Behind ws (ch :: rest) := by
  cases h with
  | nothing h => exact .nothing (blanks_cons hch h)
  | token hgap hne hw hrest =>
    rw [← List.cons_append]
    exact .token (blanks_cons hch hgap) (by simp) hw hrest

lemma exists_behind_of_scanWords {cs w : List Char} {ws : List (List Char)}
    (h : scanWords cs = (w, ws)) :
    ∃ rest, cs = w ++ rest ∧ (∀ ch ∈ w, isBlank ch = false) ∧ Behind ws rest := by
  induction cs generalizing w ws with
  | nil =>
    cases h
    exact ⟨[], rfl, by simp, .nothing (by simp [Blanks])⟩
  | cons ch cs ih =>
    rcases hscan : scanWords cs with ⟨v, vs⟩
    obtain ⟨rest, rfl, hv, hrest⟩ := ih hscan
    simp only [scanWords, hscan] at h
    split at h
    · -- a blank ends the run before it, and the run behind it is a word unless it is empty
      rename_i hch
      cases h
      refine ⟨ch :: (v ++ rest), rfl, by simp, ?_⟩
      cases v with
      | nil => exact hrest.cons_blank hch
      | cons d v =>
        have hgap : Blanks [ch] := by simpa [Blanks] using hch
        exact .token hgap (by simp) ⟨by simp, hv⟩ hrest
    · rename_i hch
      cases h
      exact ⟨rest, rfl, List.forall_mem_cons.2 ⟨by simpa using hch, hv⟩, hrest⟩

lemma laid_charWords {cs w : List Char} {ws : List (List Char)} (h : charWords cs = w :: ws) :
    Laid (w :: ws) cs := by
  rcases hscan : scanWords cs with ⟨v, vs⟩
  obtain ⟨rest, rfl, hv, hrest⟩ := exists_behind_of_scanWords hscan
  rw [charWords, hscan] at h
  cases v with
  | nil =>
    obtain rfl : vs = w :: ws := h
    cases hrest with
    | token hgap hne hw hrest => exact .line hgap hw hrest
  | cons d v =>
    obtain ⟨rfl, rfl⟩ := List.cons.inj h
    have hgap : Blanks [] := fun ch hch => absurd hch List.not_mem_nil
    exact .line hgap ⟨by simp, hv⟩ hrest

lemma charWords_blanks_append {gap : List Char} (h : Blanks gap) (rest : List Char) :
    charWords (gap ++ rest) = charWords rest := by
  induction gap with
  | nil => rfl
  | cons ch gap ih =>
    obtain ⟨hch, hgap⟩ := List.forall_mem_cons.1 h
    rw [List.cons_append, charWords_blank hch, ih hgap]

lemma Behind.head_isBlank {ws : List (List Char)} {rest : List Char} (h : Behind ws rest) :
    ∀ ch ∈ rest.head?, isBlank ch = true := by
  intro ch hch
  cases h with
  | nothing h => exact h ch (List.mem_of_head? hch)
  | token hgap hne hw hrest =>
    rw [List.head?_append_of_ne_nil _ hne] at hch
    exact hgap ch (List.mem_of_head? hch)

lemma Behind.charWords_eq {ws : List (List Char)} {rest : List Char} (h : Behind ws rest) :
    charWords rest = ws := by
  induction h with
  | nothing h => exact charWords_eq_nil_iff.2 (List.all_eq_true.2 h)
  | token hgap hne hw hrest ih =>
    rw [charWords_blanks_append hgap, charWords_append hw.1 hw.2 hrest.head_isBlank, ih]

lemma Laid.charWords_eq {ws : List (List Char)} {cs : List Char} (h : Laid ws cs) :
    charWords cs = ws := by
  cases h with
  | line hgap hw hrest =>
    rw [charWords_blanks_append hgap, charWords_append hw.1 hw.2 hrest.head_isBlank,
      hrest.charWords_eq]

/-- **The words of a line are the tokens laid out on it.** -/
lemma words_eq_cons_iff {line t : String} {ts : List String} :
    words line = t :: ts ↔ Laid ((t :: ts).map String.toList) line.toList := by
  constructor
  · intro h
    have hchars : charWords line.toList = (t :: ts).map String.toList := by
      rw [← h, words, List.map_map]
      exact (List.map_id'' (fun w => String.toList_ofList) _).symm
    rw [List.map_cons] at hchars ⊢
    exact laid_charWords hchars
  · intro h
    rw [words, h.charWords_eq, List.map_map]
    exact List.map_id'' (fun w => String.ofList_toList) _

end Text

/-! ### Operands -/

namespace Assembly

/-- `Spells t x`: the token stands for the operand. -/
inductive Spells : String → Operand → Prop
  | literal {t : String} {v : Int64} (h : Decimal.Numeral t.toList v.toInt) : Spells t (.literal v)
  | register (r : Register) : Spells r.name (.register r)

lemma operand_eq_ok_iff {token : String} {x : Operand} :
    operand token = .ok x ↔ Spells token x := by
  constructor
  · intro h
    unfold operand at h
    split at h
    · rename_i v hv
      cases h
      exact .literal (Decimal.readInt64_eq_ok_iff.1 hv)
    · split at h
      · rename_i r hr
        cases h
        rw [Register.ofName?_eq_some_iff.1 hr]
        exact .register r
      · cases h
  · intro h
    cases h with
    | literal h => rw [operand, Decimal.readInt64_eq_ok_iff.2 h]
    | register r => exact operand_text (.register r)

lemma spells_register_iff {t : String} {r : Register} : Spells t (.register r) ↔ t = r.name := by
  constructor
  · rintro ⟨⟩
    rfl
  · rintro rfl
    exact .register r

lemma destination_eq_ok_iff {m : Mnemonic} {x : Operand} {r : Register} :
    destination m x = .ok r ↔ x = .register r := by
  cases x <;> simp [destination]

lemma instruction_eq_ok_iff {m : Mnemonic} {operands : List Operand} {i : Instruction} :
    instruction m operands = .ok i ↔ m = i.mnemonic ∧ operands = i.operands := by
  constructor
  · intro h
    have hdest : ∀ {m : Mnemonic} {x : Operand} {g : Register → Instruction},
        (destination m x).map g = .ok i → ∃ r, x = .register r ∧ i = g r := by
      intro m x g h
      obtain ⟨r, hr, hi⟩ := map_eq_ok_iff.1 h
      exact ⟨r, destination_eq_ok_iff.1 hr, hi.symm⟩
    unfold instruction at h
    split at h
    · obtain ⟨r, rfl, rfl⟩ := hdest h
      exact ⟨rfl, rfl⟩
    · obtain ⟨r, rfl, rfl⟩ := hdest h
      exact ⟨rfl, rfl⟩
    · obtain ⟨r, rfl, rfl⟩ := hdest h
      exact ⟨rfl, rfl⟩
    · cases h
      exact ⟨rfl, rfl⟩
    · cases h
      exact ⟨rfl, rfl⟩
    · cases h
  · rintro ⟨rfl, rfl⟩
    exact instruction_operands i

/-! ### Lines -/

/-- `Written ts i`: the tokens are a mnemonic and operands, and stand for the instruction. -/
inductive Written : List String → Instruction → Prop
  | copy {t : String} {source : Operand} (h : Spells t source) (target : Register) :
      Written ["cpy", t, target.name] (.copy source target)
  | increment (target : Register) : Written ["inc", target.name] (.increment target)
  | decrement (target : Register) : Written ["dec", target.name] (.decrement target)
  | jumpIfNonZero {t u : String} {condition offset : Operand} (ht : Spells t condition)
      (hu : Spells u offset) : Written ["jnz", t, u] (.jumpIfNonZero condition offset)
  | output {t : String} {source : Operand} (h : Spells t source) :
      Written ["out", t] (.output source)

lemma written_iff {ts : List String} {i : Instruction} :
    Written ts i ↔ ∃ args, ts = i.mnemonic.name :: args ∧ List.Forall₂ Spells args i.operands := by
  constructor
  · intro h
    cases h with
    | copy h target => exact ⟨_, rfl, .cons h (.cons (.register target) .nil)⟩
    | increment target => exact ⟨_, rfl, .cons (.register target) .nil⟩
    | decrement target => exact ⟨_, rfl, .cons (.register target) .nil⟩
    | jumpIfNonZero ht hu => exact ⟨_, rfl, .cons ht (.cons hu .nil)⟩
    | output h => exact ⟨_, rfl, .cons h .nil⟩
  · rintro ⟨args, rfl, h⟩
    cases i with
    | copy source target =>
      obtain _ | ⟨h, _ | ⟨htarget, ⟨⟩⟩⟩ := h
      rw [spells_register_iff.1 htarget]
      exact .copy h target
    | increment target =>
      obtain _ | ⟨htarget, ⟨⟩⟩ := h
      rw [spells_register_iff.1 htarget]
      exact .increment target
    | decrement target =>
      obtain _ | ⟨htarget, ⟨⟩⟩ := h
      rw [spells_register_iff.1 htarget]
      exact .decrement target
    | jumpIfNonZero condition offset =>
      obtain _ | ⟨ht, _ | ⟨hu, ⟨⟩⟩⟩ := h
      exact .jumpIfNonZero ht hu
    | output source =>
      obtain _ | ⟨h, ⟨⟩⟩ := h
      exact .output h

end Assembly

lemma assemble_eq_ok_iff_words {line : String} {i : Instruction} :
    assemble line = .ok i ↔ Assembly.Written (Text.words line) i := by
  rw [Assembly.written_iff]
  constructor
  · intro h
    unfold assemble at h
    split at h
    · cases h
    · rename_i t ts hwords
      split at h
      · cases h
      · rename_i m hm
        cases hargs : ts.mapM Assembly.operand with
        | error fault => rw [hargs] at h; cases h
        | ok operands =>
          rw [hargs] at h
          obtain ⟨rfl, rfl⟩ := Assembly.instruction_eq_ok_iff.1 h
          rw [hwords, Mnemonic.ofName?_eq_some_iff.1 hm]
          refine ⟨ts, rfl, (mapM_eq_ok_iff.1 hargs).imp fun t x => ?_⟩
          exact Assembly.operand_eq_ok_iff.1
  · rintro ⟨args, hwords, hargs⟩
    have hoperands : args.mapM Assembly.operand = .ok i.operands :=
      mapM_eq_ok_iff.2 (hargs.imp fun t x => Assembly.operand_eq_ok_iff.2)
    rw [assemble, hwords]
    simp only [Mnemonic.ofName?_eq_some_iff.2 rfl, hoperands]
    exact instruction_operands i

/-- **The lines that are assembled**: tokens with white space around them, which spell a mnemonic
and its operands. -/
theorem assembles_exactly_grammar :
    (∀ (line : String) (i : Instruction), assemble line = .ok i ↔
      ∃ ts, Text.Laid (ts.map String.toList) line.toList ∧ Assembly.Written ts i) ∧
    ∀ ch : Char, Text.isBlank ch = true ↔ ch.toNat ∈ Text.whiteSpace := by
  refine ⟨fun line i => ?_, fun ch => Text.isBlank_iff⟩
  rw [assemble_eq_ok_iff_words]
  constructor
  · intro h
    obtain ⟨args, hwords, -⟩ := Assembly.written_iff.1 h
    exact ⟨_, Text.words_eq_cons_iff.1 hwords, hwords ▸ h⟩
  · rintro ⟨ts, hlaid, h⟩
    obtain ⟨args, rfl, -⟩ := Assembly.written_iff.1 h
    rwa [Text.words_eq_cons_iff.2 hlaid]

end FourReg
