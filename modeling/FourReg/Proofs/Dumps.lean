import FourReg.Proofs.RoundTrip
import FourReg.Proofs.UniqueReading
import FourReg.Session.Trace

/-!
Dumps that can be read in one way only.

A part of a value stands in a block of its own, which begins with what the part is and is as long as
that says. So values can be read back from their dumps, and where a dump ends shows in the mark that
the next one begins with.
-/

namespace FourReg

/-! ### Blocks -/

namespace Dump

variable {opening closing : String} {ls ms : List String} {ps qs : List (List String)}

lemma indent_cons {l : String} (h : ls ≠ []) : indent (l :: ls) = ("    " ++ l) :: indent ls := by
  rw [indent]
  exact h

@[simp] lemma length_indent (ls : List String) : (indent ls).length = ls.length := by
  induction ls using indent.induct with
  | case1 => rfl
  | case2 l => rfl
  | case3 l ls hne ih => rw [indent_cons hne, List.length_cons, List.length_cons, ih]

lemma indent_injective : Function.Injective indent := by
  intro ls ms h
  have hlength : ls.length = ms.length := by rw [← length_indent, h, length_indent]
  induction ls using indent.induct generalizing ms with
  | case1 => exact (List.length_eq_zero_iff.1 hlength.symm).symm
  | case2 l =>
    obtain ⟨m, rfl⟩ := List.length_eq_one_iff.1 hlength.symm
    simpa [indent] using h
  | case3 l ls hne ih =>
    cases ms with
    | nil => cases hlength
    | cons m ms =>
      have hrest : ls.length = ms.length := Nat.succ.inj hlength
      have hne' : ms ≠ [] := by
        rintro rfl
        exact hne (List.length_eq_zero_iff.1 hrest)
      rw [indent_cons hne, indent_cons hne', List.cons.injEq, String.append_right_inj] at h
      rw [h.1, ih h.2 hrest]

/-- Parts are told apart if it is known how many lines each of them has. -/
lemma block_inj (hwidths : ps.map List.length = qs.map List.length)
    (h : block opening ps closing = block opening qs closing) : ps = qs := by
  rw [block, block, List.cons.injEq, List.append_left_inj] at h
  exact flatMap_inj indent_injective (by simpa using hwidths) h.2

/-- A single part may have any number of lines. -/
lemma block_singleton_inj (h : block opening [ls] closing = block opening [ms] closing) :
    ls = ms := by
  simp only [block, List.flatMap_cons, List.flatMap_nil, List.append_nil, List.cons.injEq,
    List.append_left_inj, true_and] at h
  exact indent_injective h

end Dump

namespace Trace

open Text

/-! ### Values -/

lemma register_injective {r r' : Register} (h : register r = register r') : r = r' := by
  revert h
  cases r <;> cases r' <;> decide

lemma length_operand (x : Operand) : (operand x).length = 3 := by
  cases x <;> rfl

lemma operand_injective {x y : Operand} (h : operand x = operand y) : x = y := by
  cases x with
  | literal v =>
    cases y with
    | literal w =>
      have hvalue := Dump.block_singleton_inj h
      rw [Decimal.ofInt64_injective (List.singleton_inj.1 hvalue)]
    | register r => exact absurd (List.cons.inj h).1 (by decide)
  | register r =>
    cases y with
    | literal w => exact absurd (List.cons.inj h).1 (by decide)
    | register r' =>
      have hname := Dump.block_singleton_inj h
      rw [register_injective (List.singleton_inj.1 hname)]

lemma mnemonic_eq_of_instruction_eq {i j : Instruction} (h : instruction i = instruction j) :
    i.mnemonic = j.mnemonic := by
  have hopening := congrArg List.head? h
  revert hopening
  cases i <;> cases j <;> simp [instruction, Dump.block, Instruction.mnemonic]

lemma instruction_injective {i j : Instruction} (h : instruction i = instruction j) : i = j := by
  have hmnemonic := mnemonic_eq_of_instruction_eq h
  cases i with
  | copy source target =>
    cases j with
    | copy source' target' =>
      have hparts := Dump.block_inj (by simp [length_operand]) h
      simp only [List.cons.injEq, and_true] at hparts
      rw [operand_injective hparts.1, register_injective hparts.2]
    | _ => cases hmnemonic
  | increment target =>
    cases j with
    | increment target' =>
      have hname := Dump.block_singleton_inj h
      rw [register_injective (List.singleton_inj.1 hname)]
    | _ => cases hmnemonic
  | decrement target =>
    cases j with
    | decrement target' =>
      have hname := Dump.block_singleton_inj h
      rw [register_injective (List.singleton_inj.1 hname)]
    | _ => cases hmnemonic
  | jumpIfNonZero condition offset =>
    cases j with
    | jumpIfNonZero condition' offset' =>
      have hparts := Dump.block_inj (by simp [length_operand]) h
      simp only [List.cons.injEq, and_true] at hparts
      rw [operand_injective hparts.1, operand_injective hparts.2]
    | _ => cases hmnemonic
  | output source =>
    cases j with
    | output source' => rw [operand_injective (Dump.block_singleton_inj h)]
    | _ => cases hmnemonic

lemma fetched_injective {i j : Option Instruction} (h : fetched i = fetched j) : i = j := by
  cases i with
  | none =>
    cases j with
    | none => rfl
    | some j => exact absurd (List.cons.inj h).1 (by decide)
  | some i =>
    cases j with
    | none => exact absurd (List.cons.inj h).1 (by decide)
    | some j => rw [instruction_injective (Dump.block_singleton_inj h)]

lemma fetched_ne_nil (i : Option Instruction) : fetched i ≠ [] := by
  cases i <;> exact List.cons_ne_nil _ _

lemma registers_injective {v w : Registers} (h : registers v = registers w) : v = w := by
  rw [registers, registers] at h
  have hlist := Dump.block_singleton_inj h
  have hvalues := Dump.block_inj (by simp [Registers.toList, Function.comp_def]) hlist
  have hlists : v.toList = w.toList := by
    refine List.map_injective_iff.2 (fun x y hxy => ?_) hvalues
    exact Decimal.ofInt64_injective (List.singleton_inj.1 hxy)
  exact Registers.get_injective fun r => List.map_inj_left.1 hlists r (Register.mem_all r)

/-! ### Dumps -/

def headed (label : String) : List String → List String
  | [] => [mark ++ label ++ " = "]
  | l :: ls => (mark ++ label ++ " = " ++ l) :: ls

/-- What stands behind the mark can be read back. -/
lemma headed_inj {label : String} {ls ms : List String} (hls : ls ≠ []) (hms : ms ≠ [])
    (h : headed label ls = headed label ms) : ls = ms := by
  cases ls with
  | nil => exact absurd rfl hls
  | cons l ls =>
    cases ms with
    | nil => exact absurd rfl hms
    | cons m ms =>
      rw [headed, headed, List.cons.injEq, String.append_right_inj] at h
      rw [h.1, h.2]

lemma dump_eq_unlines (label : String) (ls : List String) :
    dump label ls = unlines (headed label ls) := by
  have hlines (l : String) (ls : List String) :
      "\n".intercalate (l :: ls) ++ "\n" = unlines (l :: ls) := by
    induction ls generalizing l with
    | nil => simp [unlines]
    | cons m ls ih =>
      rw [unlines_cons, ← ih m]
      simp [String.append_assoc]
  cases ls with
  | nil => simp [dump, headed, unlines]
  | cons l ls =>
    rw [dump, String.append_assoc, hlines, unlines_cons, headed, unlines_cons]
    simp [String.append_assoc]

/-- A line that begins a dump, as its mark does. -/
def begins (l : String) : Bool := l.toList.head? == some '['

/-- The lines of a value. They can stand behind the mark of a dump and are not taken for the
beginning of another one. -/
structure IsBody (ls : List String) : Prop where
  lines : ∀ l ∈ ls, IsLine l
  inner : ∀ l ∈ ls.tail, begins l = false

lemma isBody_singleton {l : String} (h : IsLine l) : IsBody [l] := ⟨by simpa using h, nofun⟩

lemma exists_of_mem_indent {ls : List String} {m : String} (h : m ∈ Dump.indent ls) :
    ∃ l ∈ ls, m = "    " ++ l ++ "," ∨ m = "    " ++ l := by
  induction ls using Dump.indent.induct with
  | case1 => cases h
  | case2 l => exact ⟨l, .head _, .inl (by simpa [Dump.indent] using h)⟩
  | case3 l ls hne ih =>
    rw [Dump.indent] at h
    · rcases List.mem_cons.1 h with rfl | h
      · exact ⟨l, .head _, .inr rfl⟩
      · obtain ⟨k, hk, hm⟩ := ih h
        exact ⟨k, .tail _ hk, hm⟩
    · exact hne

/-- Parts between brackets. The opening bracket may look like a mark, as it is not an inner line. -/
lemma isBody_block {opening closing : String} {parts : List (List String)} (ho : IsLine opening)
    (hc : IsLine closing ∧ begins closing = false)
    (hparts : ∀ part ∈ parts, IsBody part) : IsBody (Dump.block opening parts closing) := by
  have hinner : ∀ l ∈ parts.flatMap Dump.indent, IsLine l ∧ begins l = false := by
    intro l hl
    obtain ⟨part, hpart, hl⟩ := List.mem_flatMap.1 hl
    obtain ⟨k, hk, hform⟩ := exists_of_mem_indent hl
    have hline := (hparts part hpart).lines k hk
    rcases hform with rfl | rfl
    all_goals exact ⟨by simpa [hline] using by decide, by simp [begins]⟩
  have htail : ∀ l ∈ parts.flatMap Dump.indent ++ [closing], IsLine l ∧ begins l = false := by
    intro l hl
    rcases List.mem_append.1 hl with hl | hl
    · exact hinner l hl
    · exact List.mem_singleton.1 hl ▸ hc
  refine ⟨fun l hl => ?_, fun l hl => (htail l hl).2⟩
  rcases List.mem_cons.1 hl with rfl | hl
  · exact ho
  · exact (htail l hl).1

lemma isBody_ofInt64 (x : Int64) : IsBody [Decimal.ofInt64 x] := by
  refine isBody_singleton fun h => ?_
  have hword := (isWord_ofInt x.toInt).2 '\n' h
  revert hword
  decide

lemma isBody_register (r : Register) : IsBody [register r] :=
  isBody_singleton (by cases r <;> decide)

lemma isBody_operand (x : Operand) : IsBody (operand x) := by
  cases x with
  | literal v => exact isBody_block (by decide) (by decide) (by simpa using isBody_ofInt64 v)
  | register r => exact isBody_block (by decide) (by decide) (by simpa using isBody_register r)

lemma isBody_instruction (i : Instruction) : IsBody (instruction i) := by
  cases i <;> refine isBody_block (by decide) (by decide) ?_ <;>
    simp [isBody_operand, isBody_register]

lemma isBody_fetched (i : Option Instruction) : IsBody (fetched i) := by
  cases i with
  | none => exact isBody_singleton (by decide)
  | some i =>
    exact isBody_block (by decide) (by decide) (by simpa using isBody_instruction i)

lemma isBody_registers (v : Registers) : IsBody (registers v) := by
  refine isBody_block (by decide) (by decide) ?_
  simp only [List.mem_singleton, forall_eq]
  refine isBody_block (by decide) (by decide) ?_
  intro part hpart
  obtain ⟨x, -, rfl⟩ := List.mem_map.1 hpart
  exact isBody_ofInt64 x

/-- A dump begins with a line that shows it, and no other line of it does. -/
structure IsDump (d : List String) : Prop where
  lines : ∀ l ∈ d, IsLine l
  head : ∃ l ls, d = l :: ls ∧ begins l = true ∧ ∀ m ∈ ls, begins m = false

lemma IsBody.isDump {label : String} (hlabel : IsLine label) {ls : List String} (h : IsBody ls) :
    IsDump (headed label ls) := by
  have hbegins (l : String) : begins (mark ++ label ++ " = " ++ l) = true := by
    simp [begins, mark]
  have hmark : IsLine mark ∧ IsLine " = " := by decide
  cases ls with
  | nil =>
    refine ⟨by simp [headed, hmark, hlabel], _, [], rfl, ?_, nofun⟩
    simpa using hbegins ""
  | cons l ls =>
    have hl := h.lines l (.head _)
    refine ⟨?_, _, ls, rfl, hbegins l, h.inner⟩
    rintro m (_ | ⟨_, hm⟩)
    · simp [hmark, hlabel, hl]
    · exact h.lines m (.tail _ hm)

/-- **Dumps are told apart** by the lines that begin them. -/
lemma flatten_inj {ds es : List (List String)} (hds : ∀ d ∈ ds, IsDump d) (hes : ∀ e ∈ es, IsDump e)
    (h : ds.flatten = es.flatten) : ds = es := by
  have hrest {ds : List (List String)} (hds : ∀ d ∈ ds, IsDump d) :
      ∀ l ∈ ds.flatten.head?, (!begins l) = false := by
    cases ds with
    | nil => simp
    | cons d ds =>
      obtain ⟨l, ls, rfl, hl, -⟩ := (hds d (.head _)).head
      simpa using hl
  induction ds generalizing es with
  | nil =>
    cases es with
    | nil => rfl
    | cons e es =>
      obtain ⟨l, ls, rfl, -⟩ := (hes e (.head _)).head
      cases h
  | cons d ds ih =>
    obtain ⟨l, ls, rfl, -, hls⟩ := (hds d (.head _)).head
    cases es with
    | nil => cases h
    | cons e es =>
      obtain ⟨m, ms, rfl, -, hms⟩ := (hes e (.head _)).head
      have hds' : ∀ d ∈ ds, IsDump d := fun d hd => hds d (.tail _ hd)
      have hes' : ∀ e ∈ es, IsDump e := fun e he => hes e (.tail _ he)
      simp only [List.flatten_cons, List.cons_append, List.cons.injEq] at h
      obtain ⟨rfl, hbehind⟩ := h
      obtain ⟨rfl, hothers⟩ := append_eq_append_of_head (P := fun l => !begins l)
        (by simpa using hls) (by simpa using hms) (hrest hds') (hrest hes') hbehind
      rw [ih hds' hes' hothers]

end Trace

end FourReg
