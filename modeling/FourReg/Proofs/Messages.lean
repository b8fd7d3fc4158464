import FourReg.Proofs.Quotation
import FourReg.Proofs.UniqueReading
import FourReg.Source.Line
import Mathlib.Data.List.Nodup

/-!
Messages identify errors.

The first five characters of a message show the kind of its fault. Behind them numbers end where the
digits do and tokens stand in quotation marks, so what a token imitates does not matter.
-/

namespace FourReg

namespace Assembly

/-! ### Kinds of faults -/

/-- What the beginning of a message tells apart. -/
inductive Kind where
  | emptyLine
  | unknownMnemonic
  | invalidOperand
  | arityMismatch (mnemonic : Mnemonic)
  | invalidDestination (mnemonic : Mnemonic)
  deriving DecidableEq

namespace Kind

def all : List Kind :=
  [emptyLine, unknownMnemonic, invalidOperand] ++ Mnemonic.all.map arityMismatch
    ++ Mnemonic.all.map invalidDestination

lemma mem_all (k : Kind) : k ∈ all := by
  rcases k with _ | _ | _ | m | m
  case arityMismatch => cases m <;> decide
  case invalidDestination => cases m <;> decide
  all_goals decide

def opening : Kind → String
  | emptyLine => "line holds no instruction"
  | unknownMnemonic => "unknown mnemonic "
  | invalidOperand => "invalid operand "
  | arityMismatch mnemonic => mnemonic.name ++ " takes "
  | invalidDestination mnemonic => mnemonic.name ++ " writes to its operand "

def closing : Kind → String
  | emptyLine => ""
  | unknownMnemonic => ", expected one of cpy, inc, dec, jnz, out"
  | invalidOperand => ", expected an integer or one of the registers a, b, c, d"
  | arityMismatch _ => ""
  | invalidDestination _ => ", which must be a register"

/-- The characters that tell kinds apart. -/
def lead (k : Kind) : List Char := k.opening.toList.take 5

lemma five_le_length_opening (k : Kind) : 5 ≤ k.opening.toList.length := by
  have hall : ∀ k ∈ all, 5 ≤ k.opening.toList.length := by decide
  exact hall k (mem_all k)

lemma lead_injective {k k' : Kind} (h : k.lead = k'.lead) : k = k' := by
  have hnodup : (all.map lead).Nodup := by decide
  exact List.inj_on_of_nodup_map hnodup (mem_all k) (mem_all k') h

lemma printable_opening_closing (k : Kind) :
    Text.Printable k.opening ∧ Text.Printable k.closing := by
  have hall : ∀ k ∈ all, Text.Printable k.opening ∧ Text.Printable k.closing := by decide +kernel
  exact hall k (mem_all k)

end Kind

/-! ### Faults -/

namespace Fault

variable {hidden : Char → Bool} {f f' : Fault}

def kind : Fault → Kind
  | emptyLine => .emptyLine
  | unknownMnemonic _ => .unknownMnemonic
  | invalidOperand _ => .invalidOperand
  | arityMismatch mnemonic _ _ => .arityMismatch mnemonic
  | invalidDestination mnemonic _ => .invalidDestination mnemonic

def shown (hidden : Char → Bool) : Fault → String
  | emptyLine => ""
  | unknownMnemonic token => Text.quoteWith hidden token
  | invalidOperand token => Text.quoteWith hidden token
  | arityMismatch _ expected actual =>
    Decimal.ofNat expected ++ " operand(s), but got " ++ Decimal.ofNat actual
  | invalidDestination _ value => Decimal.ofInt64 value

lemma messageWith_eq (hidden : Char → Bool) (f : Fault) :
    f.messageWith hidden = f.kind.opening ++ (f.shown hidden ++ f.kind.closing) := by
  cases f with
  | emptyLine => exact (String.append_empty.trans String.append_empty).symm
  | unknownMnemonic token => exact String.append_assoc ..
  | invalidOperand token => exact String.append_assoc ..
  | arityMismatch mnemonic expected actual =>
    rw [kind, Kind.closing, String.append_empty, shown, ← String.append_assoc,
      ← String.append_assoc]
    rfl
  | invalidDestination mnemonic value => exact String.append_assoc ..

lemma take_messageWith (hidden : Char → Bool) (f : Fault) :
    (f.messageWith hidden).toList.take 5 = f.kind.lead := by
  rw [messageWith_eq, String.toList_append,
    List.take_append_of_le_length (Kind.five_le_length_opening _), Kind.lead]

/-- What is shown identifies a fault among those of its kind. -/
lemma shown_injective (hkind : f.kind = f'.kind) (h : f.shown hidden = f'.shown hidden) :
    f = f' := by
  -- pairs of different kinds are dropped here
  cases f <;> cases f' <;> cases hkind
  case emptyLine => rfl
  case unknownMnemonic token token' => rw [Text.quoteWith_injective h]
  case invalidOperand token token' => rw [Text.quoteWith_injective h]
  case arityMismatch mnemonic expected actual expected' actual' =>
    simp only [shown, String.append_assoc] at h
    obtain ⟨rfl, hrest⟩ := Decimal.ofNat_append_inj (by simp) (by simp) h
    rw [String.append_right_inj] at hrest
    rw [Decimal.ofNat_injective hrest]
  case invalidDestination mnemonic value value' => rw [Decimal.ofInt64_injective h]

/-- **The message of a fault identifies it.** -/
lemma messageWith_injective (h : f.messageWith hidden = f'.messageWith hidden) : f = f' := by
  have hkind : f.kind = f'.kind := by
    apply Kind.lead_injective
    rw [← take_messageWith hidden, h, take_messageWith]
  rw [messageWith_eq, messageWith_eq, hkind, String.append_right_inj, String.append_left_inj] at h
  exact shown_injective hkind h

lemma messageWith_ne_line (f : Fault) (n : Nat) (rest : String) :
    f.messageWith hidden ≠ "line " ++ (Decimal.ofNat n ++ rest) := by
  intro h
  have hkind : f.kind = .emptyLine := by
    apply Kind.lead_injective
    rw [← take_messageWith hidden, h]
    simp [Kind.lead, Kind.opening]
  obtain rfl : f = .emptyLine := by cases f <;> first | rfl | cases hkind
  obtain ⟨c, cs, hdigits, hc⟩ := Decimal.toDigits_eq_cons n
  have hsixth : c = 'h' := by
    have hchars := congrArg (fun s => s.toList[5]?) h
    simpa [Decimal.ofNat, hdigits, messageWith_eq, kind, Kind.opening, eq_comm] using hchars
  rw [hsixth] at hc
  revert hc
  decide

lemma printable_shown (hhidden : ∀ c, Text.IsControl c → hidden c = true) (f : Fault) :
    Text.Printable (f.shown hidden) := by
  cases f with
  | emptyLine => exact show Text.Printable "" by decide
  | unknownMnemonic token => exact Text.printable_quoteWith hhidden token
  | invalidOperand token => exact Text.printable_quoteWith hhidden token
  | arityMismatch mnemonic expected actual =>
    have hmiddle : Text.Printable " operand(s), but got " := by decide
    simp [shown, hmiddle, Text.printable_ofNat]
  | invalidDestination mnemonic value => exact Text.printable_ofInt64 value

lemma printable_messageWith (hhidden : ∀ c, Text.IsControl c → hidden c = true) (f : Fault) :
    Text.Printable (f.messageWith hidden) := by
  obtain ⟨hopening, hclosing⟩ := f.kind.printable_opening_closing
  simp only [messageWith_eq, Text.printable_append]
  exact ⟨hopening, printable_shown hhidden f, hclosing⟩

end Fault

/-! ### Errors -/

namespace Error

variable {hidden : Char → Bool} {e e' : Error} {n : Nat}

lemma messageWith_of_line (h : e.line = some n) :
    e.messageWith hidden =
      "line " ++ (Decimal.ofNat n ++ (": " ++ e.fault.messageWith hidden)) := by
  simp only [messageWith, h, String.append_assoc]

lemma messageWith_of_no_line (h : e.line = none) :
    e.messageWith hidden = e.fault.messageWith hidden := by
  rw [messageWith, h]

/-- **The message of an error identifies it**, its line included. -/
lemma messageWith_injective (h : e.messageWith hidden = e'.messageWith hidden) : e = e' := by
  have hext (hline : e.line = e'.line) (hfault : e.fault = e'.fault) : e = e' := by
    cases e; cases e'; cases hline; cases hfault; rfl
  cases hl : e.line with
  | none =>
    rw [messageWith_of_no_line hl] at h
    cases hl' : e'.line with
    | none =>
      rw [messageWith_of_no_line hl'] at h
      exact hext (hl.trans hl'.symm) (Fault.messageWith_injective h)
    | some n' =>
      rw [messageWith_of_line hl'] at h
      exact absurd h (Fault.messageWith_ne_line _ _ _)
  | some n =>
    rw [messageWith_of_line hl] at h
    cases hl' : e'.line with
    | none =>
      rw [messageWith_of_no_line hl'] at h
      exact absurd h.symm (Fault.messageWith_ne_line _ _ _)
    | some n' =>
      rw [messageWith_of_line hl', String.append_right_inj] at h
      obtain ⟨rfl, hrest⟩ := Decimal.ofNat_append_inj (by simp) (by simp) h
      rw [String.append_right_inj] at hrest
      exact hext (hl.trans hl'.symm) (Fault.messageWith_injective hrest)

lemma printable_messageWith (hhidden : ∀ c, Text.IsControl c → hidden c = true) (e : Error) :
    Text.Printable (e.messageWith hidden) := by
  have hfault := Fault.printable_messageWith hhidden e.fault
  cases hl : e.line with
  | none => rwa [messageWith_of_no_line hl]
  | some n =>
    have hfixed : Text.Printable "line " ∧ Text.Printable ": " := by decide
    rw [messageWith_of_line hl]
    simp [hfixed, Text.printable_ofNat, hfault]

end Error

end Assembly

namespace Source.Error

def Numbered : Error → Prop
  | invalidUtf8 _ => True
  | assembly error => error.line ≠ none
  | _ => False

lemma invalidUtf8_message_ne (n n' : Nat) (rest : String) :
    "line " ++ Decimal.ofNat n ++ " is not valid utf-8" ≠
      "line " ++ (Decimal.ofNat n' ++ (": " ++ rest)) := by
  intro h
  rw [String.append_assoc, String.append_right_inj] at h
  obtain ⟨-, hrest⟩ := Decimal.ofNat_append_inj (by simp) (by simp) h
  have hhead := congrArg (fun s => s.toList.head?) hrest
  simp at hhead

/-- **The message of an error in a line identifies it.** -/
lemma message_injective {e e' : Error} (he : e.Numbered) (he' : e'.Numbered)
    (h : e.message = e'.message) : e = e' := by
  cases e with
  | openFailed | mapFailed => exact absurd he id
  | invalidUtf8 n =>
    cases e' with
    | openFailed | mapFailed => exact absurd he' id
    | invalidUtf8 n' =>
      have hnumber := (String.append_right_inj _).1 ((String.append_left_inj _).1 h)
      rw [Decimal.ofNat_injective hnumber]
    | assembly error' =>
      obtain ⟨n', hn'⟩ := Option.ne_none_iff_exists'.1 he'
      exact absurd (h.trans (Assembly.Error.messageWith_of_line hn'))
        (invalidUtf8_message_ne _ _ _)
  | assembly error =>
    cases e' with
    | openFailed | mapFailed => exact absurd he' id
    | invalidUtf8 n' =>
      obtain ⟨n, hn⟩ := Option.ne_none_iff_exists'.1 he
      exact absurd (h.symm.trans (Assembly.Error.messageWith_of_line hn))
        (invalidUtf8_message_ne _ _ _)
    | assembly error' => rw [Assembly.Error.messageWith_injective h]

end Source.Error

/-- **Messages identify errors**, and what they show of a line can be read back, whichever of its
characters are written by an escape. If control characters are, no message holds one. -/
theorem messages_identify_errors :
    (∀ hidden (e e' : Assembly.Error), e.messageWith hidden = e'.messageWith hidden → e = e') ∧
    (∀ e e' : Source.Error, e.Numbered → e'.Numbered → e.message = e'.message → e = e') ∧
    ((∀ hidden token, Text.unquote (Text.quoteWith hidden token) = some token) ∧
      ∀ cs ws, List.Forall₂ Text.Escapes cs ws →
        Text.unquote (String.ofList ('\x22' :: (ws.flatten ++ ['\x22']))) =
          some (String.ofList cs)) ∧
    (∀ hidden : Char → Bool, (∀ c, Text.IsControl c → hidden c = true) →
      ∀ e : Assembly.Error, Text.Printable (e.messageWith hidden)) ∧
    ∀ e : Assembly.Error, Text.Printable e.message :=
  ⟨fun _ _ _ => Assembly.Error.messageWith_injective, fun _ _ => Source.Error.message_injective,
    ⟨Text.unquote_quoteWith, fun _ _ => Text.unquote_of_escapes⟩,
    fun _ => Assembly.Error.printable_messageWith,
    Assembly.Error.printable_messageWith fun _ => Text.isHidden_of_control⟩

/-- A token that imitates the end of a message and holds a line feed. -/
theorem messages_identify_errors_imitated :
    let imitation := "cpy\x22, expected one of cpy, inc, dec, jnz, out\n"
    let e : Assembly.Error := ⟨some 1, .unknownMnemonic imitation⟩
    let e' : Assembly.Error := ⟨some 1, .unknownMnemonic "cpy"⟩
    (e.messageWith fun _ => false) ≠ (e'.messageWith fun _ => false) ∧
    (Source.Error.invalidUtf8 1).message ≠ (Source.Error.assembly e).message ∧
    Text.unquote (Text.quoteWith (fun _ => false) imitation) = some imitation ∧
    Text.unquote (String.ofList (['\x22', '\\', 't', '\x22'])) = some "\t" ∧
    Text.Printable (e.messageWith fun _ => true) := by
  intro imitation e e'
  obtain ⟨herrors, hparse, ⟨hquoted, hescapes⟩, hprintable, -⟩ := messages_identify_errors
  refine ⟨fun h => ?_, fun h => ?_, hquoted _ imitation, ?_, hprintable _ (fun _ _ => rfl) _⟩
  · exact absurd (herrors _ e e' h) (by decide)
  · have hnumbered : (Source.Error.assembly e).Numbered := Option.some_ne_none 1
    exact absurd (hparse (.invalidUtf8 1) (.assembly e) trivial hnumbered h) nofun
  · exact hescapes ['\t'] [['\\', 't']] (.cons (.short rfl) .nil)

end FourReg
