import FourReg.Text.Decimal
import FourReg.Text.Quoted
import Mathlib.Data.List.Forall2

/-!
Quotations read back.

A quotation is read from left to right, and each character of the text is found behind the ones
before it. Which characters are written by an escape does not matter, as long as quotation marks
and backslashes are.
-/

namespace FourReg.Text

/-! ### Reading -/

def hexValue? (c : Char) : Option Nat :=
  if 48 ≤ c.toNat ∧ c.toNat ≤ 57 then some (c.toNat - 48)
  else if 97 ≤ c.toNat ∧ c.toNat ≤ 102 then some (c.toNat - 87)
  else none

def short? : Char → Option Char
  | '0' => some '\x00'
  | 't' => some '\t'
  | 'r' => some '\r'
  | 'n' => some '\n'
  | '\x22' => some '\x22'
  | '\\' => some '\\'
  | _ => none

/-- Where in a quotation the next character stands: in the text, behind a backslash, behind `\u`, or
in the braces behind that and the digits read so far. -/
inductive Place where
  | text
  | escape
  | opening
  | code (value : Nat)

/-- Reads a text up to its quotation mark, which has to be the last character. -/
def readQuoted : Place → List Char → Option (List Char)
  | _, [] => none
  | .text, c :: cs =>
    if c = '\x22' then if cs = [] then some [] else none
    else if c = '\\' then readQuoted .escape cs
    else (readQuoted .text cs).map (c :: ·)
  | .escape, c :: cs =>
    if c = 'u' then readQuoted .opening cs
    else (short? c).bind fun d => (readQuoted .text cs).map (d :: ·)
  | .opening, c :: cs => if c = '\x7b' then readQuoted (.code 0) cs else none
  | .code n, c :: cs =>
    if c = '\x7d' then (readQuoted .text cs).map (Char.ofNat n :: ·)
    else (hexValue? c).bind fun d => readQuoted (.code (16 * n + d)) cs

def unquote (s : String) : Option String :=
  match s.toList with
  | '\x22' :: cs => (readQuoted .text cs).map String.ofList
  | _ => none

variable {hidden : Char → Bool} {c d : Char} {cs w : List Char} {n : Nat}

lemma readQuoted_of_ne (hmark : c ≠ '\x22') (hback : c ≠ '\\') (cs : List Char) :
    readQuoted .text (c :: cs) = (readQuoted .text cs).map (c :: ·) := by
  rw [readQuoted, if_neg hmark, if_neg hback]

lemma readQuoted_short (h : short? d = some c) (cs : List Char) :
    readQuoted .text ('\\' :: d :: cs) = (readQuoted .text cs).map (c :: ·) := by
  have hd : d ≠ 'u' := by
    rintro rfl
    cases h
  rw [readQuoted, if_neg (by decide), if_pos rfl, readQuoted, if_neg hd, h, Option.bind_some]

lemma readQuoted_digitChar (hn : n < 16) (m : Nat) (cs : List Char) :
    readQuoted (.code m) (n.digitChar :: cs) = readQuoted (.code (16 * m + n)) cs := by
  have hdigit : ∀ n < 16, n.digitChar ≠ '\x7d' ∧ hexValue? n.digitChar = some n := by decide
  rw [readQuoted, if_neg (hdigit n hn).1, (hdigit n hn).2, Option.bind_some]

lemma readQuoted_toDigits (n : Nat) (cs : List Char) :
    readQuoted (.code 0) (Nat.toDigits 16 n ++ cs) = readQuoted (.code n) cs := by
  induction n using Nat.strongRecOn generalizing cs with
  | ind n ih =>
    by_cases hn : n < 16
    · rw [Nat.toDigits_of_lt_base hn, List.singleton_append, readQuoted_digitChar hn, Nat.mul_zero,
        Nat.zero_add]
    · have hle : 16 ≤ n := Nat.le_of_not_lt hn
      rw [Nat.toDigits_of_base_le (by decide) hle, List.append_assoc, ih (n / 16) (by omega),
        List.singleton_append, readQuoted_digitChar (Nat.mod_lt n (by decide)), Nat.div_add_mod]

/-! ### Ways to write a character -/

/-- `Escapes c w`: in a quotation, `w` may stand for `c`. -/
inductive Escapes : Char → List Char → Prop
  | plain {c : Char} (hmark : c ≠ '\x22') (hback : c ≠ '\\') : Escapes c [c]
  | short {c d : Char} (h : short? d = some c) : Escapes c ['\\', d]
  | code (c : Char) :
      Escapes c (['\\', 'u', '\x7b'] ++ Nat.toDigits 16 c.toNat ++ ['\x7d'])

/-- **One character** is read back, whatever follows it. -/
lemma Escapes.readQuoted (h : Escapes c w) (cs : List Char) :
    readQuoted .text (w ++ cs) = (Text.readQuoted .text cs).map (c :: ·) := by
  cases h with
  | plain hmark hback => exact readQuoted_of_ne hmark hback cs
  | short h => exact readQuoted_short h cs
  | code =>
    have hopening (ds : List Char) :
        Text.readQuoted .text ('\\' :: 'u' :: '\x7b' :: ds) = Text.readQuoted (.code 0) ds := rfl
    have hclosing (n : Nat) : Text.readQuoted (.code n) ('\x7d' :: cs) =
        (Text.readQuoted .text cs).map (Char.ofNat n :: ·) := rfl
    rw [List.append_assoc, List.append_assoc, List.singleton_append, List.cons_append,
      List.cons_append, List.singleton_append, hopening, readQuoted_toDigits, hclosing,
      Char.ofNat_toNat]

/-- **A text** is read back, however each of its characters is written. -/
lemma unquote_of_escapes {ws : List (List Char)} (h : List.Forall₂ Escapes cs ws) :
    unquote (String.ofList ('\x22' :: (ws.flatten ++ ['\x22']))) = some (String.ofList cs) := by
  have hread : readQuoted .text (ws.flatten ++ ['\x22']) = some cs := by
    induction h with
    | nil => rfl
    | cons hc _ ih => rw [List.flatten_cons, List.append_assoc, hc.readQuoted, ih, Option.map_some]
  rw [unquote, String.toList_ofList]
  exact congrArg (Option.map String.ofList) hread

/-- **The three ways** in which a character is written. -/
lemma escape_cases (hidden : Char → Bool) (c : Char) :
    (∃ d, short? d = some c ∧ escape hidden c = ['\\', d]) ∨
    (hidden c = true ∧
      escape hidden c = ['\\', 'u', '\x7b'] ++ Nat.toDigits 16 c.toNat ++ ['\x7d']) ∨
    (hidden c = false ∧ (c ≠ '\x22' ∧ c ≠ '\\') ∧ escape hidden c = [c]) := by
  rw [escape]
  split_ifs with hnul htab hreturn hfeed hmark hback hhidden
  · exact .inl ⟨'0', congrArg some hnul.symm, rfl⟩
  · exact .inl ⟨'t', congrArg some htab.symm, rfl⟩
  · exact .inl ⟨'r', congrArg some hreturn.symm, rfl⟩
  · exact .inl ⟨'n', congrArg some hfeed.symm, rfl⟩
  · exact .inl ⟨'\x22', congrArg some hmark.symm, rfl⟩
  · exact .inl ⟨'\\', congrArg some hback.symm, rfl⟩
  · exact .inr (.inl ⟨hhidden, rfl⟩)
  · exact .inr (.inr ⟨Bool.eq_false_iff.2 hhidden, ⟨hmark, hback⟩, rfl⟩)

lemma escapes_escape (hidden : Char → Bool) (c : Char) : Escapes c (escape hidden c) := by
  rcases escape_cases hidden c with ⟨d, hd, he⟩ | ⟨-, he⟩ | ⟨-, ⟨hmark, hback⟩, he⟩
  · exact he ▸ .short hd
  · exact he ▸ .code c
  · exact he ▸ .plain hmark hback

lemma unquote_quoteWith (hidden : Char → Bool) (s : String) :
    unquote (quoteWith hidden s) = some s := by
  have hescapes : List.Forall₂ Escapes s.toList (s.toList.map (escape hidden)) :=
    List.forall₂_map_right_iff.2 (List.forall₂_same.2 fun c _ => escapes_escape hidden c)
  rw [quoteWith, quoteChars, List.flatMap, unquote_of_escapes hescapes, String.ofList_toList]

lemma quoteWith_injective {s t : String} (h : quoteWith hidden s = quoteWith hidden t) : s = t := by
  have hread := unquote_quoteWith hidden s
  rw [h, unquote_quoteWith] at hread
  exact (Option.some.inj hread).symm

/-! ### Control characters -/

/-- The characters of the general category `Cc`. -/
def IsControl (c : Char) : Prop := c.toNat < 0x20 ∨ 0x7f ≤ c.toNat ∧ c.toNat < 0xa0

instance (c : Char) : Decidable (IsControl c) :=
  inferInstanceAs (Decidable (c.toNat < 0x20 ∨ 0x7f ≤ c.toNat ∧ c.toNat < 0xa0))

def Printable (s : String) : Prop := ∀ c ∈ s.toList, ¬ IsControl c

instance (s : String) : Decidable (Printable s) :=
  decidable_of_iff (s.toList.all fun c => !decide (IsControl c)) (by simp [Printable])

@[simp] lemma printable_append {s t : String} :
    Printable (s ++ t) ↔ Printable s ∧ Printable t := by
  simp only [Printable, String.toList_append, List.mem_append, or_imp, forall_and]

lemma not_isControl_of_mem_toDigits {b : Nat} (hb : 1 < b) (hb' : b ≤ 16) (n : Nat)
    (h : c ∈ Nat.toDigits b n) : ¬ IsControl c := by
  have hdigit : ∀ d < 16, ¬ IsControl d.digitChar := by decide
  induction n using Nat.strongRecOn with
  | ind n ih =>
    by_cases hn : n < b
    · rw [Nat.toDigits_of_lt_base hn, List.mem_singleton] at h
      exact h ▸ hdigit n (by omega)
    · rw [Nat.toDigits_of_base_le hb (Nat.le_of_not_lt hn), List.mem_append,
        List.mem_singleton] at h
      rcases h with h | rfl
      · exact ih (n / b) (Nat.div_lt_self (by omega) hb) h
      · exact hdigit _ (by have := Nat.mod_lt n (show b > 0 by omega); omega)

/-- If control characters are among those that are hidden, no escape holds one. -/
lemma not_isControl_of_mem_escape (hhidden : ∀ c, IsControl c → hidden c = true)
    (h : d ∈ escape hidden c) : ¬ IsControl d := by
  rcases escape_cases hidden c with ⟨e, he, hw⟩ | ⟨-, hw⟩ | ⟨hshown, -, hw⟩
  · have hmark : ¬ IsControl e := by
      unfold short? at he
      split at he
      all_goals first | decide | cases he
    simp only [hw, List.mem_cons, List.not_mem_nil, or_false] at h
    rcases h with rfl | rfl
    · decide
    · exact hmark
  · simp only [hw, List.mem_append, List.mem_cons, List.not_mem_nil, or_false] at h
    rcases h with ((rfl | rfl | rfl) | h) | rfl
    · decide
    · decide
    · decide
    · exact not_isControl_of_mem_toDigits (by decide) (by decide) _ h
    · decide
  · rw [hw, List.mem_singleton] at h
    subst h
    exact fun hd => Bool.false_ne_true (hshown.symm.trans (hhidden d hd))

lemma printable_ofNat (n : Nat) : Printable (Decimal.ofNat n) := by
  intro c hc
  rw [Decimal.ofNat, String.toList_ofList] at hc
  exact not_isControl_of_mem_toDigits (by decide) (by decide) n hc

lemma printable_ofInt64 (x : Int64) : Printable (Decimal.ofInt64 x) := by
  rw [Decimal.ofInt64]
  cases x.toInt with
  | ofNat n => exact printable_ofNat n
  | negSucc n =>
    have hsign : Printable "-" := by decide
    rw [Decimal.ofInt, printable_append]
    exact ⟨hsign, printable_ofNat (n + 1)⟩

lemma printable_quoteWith (hhidden : ∀ c, IsControl c → hidden c = true) (s : String) :
    Printable (quoteWith hidden s) := by
  intro d hd
  simp only [quoteWith, quoteChars, String.toList_ofList, List.mem_cons, List.mem_append,
    List.mem_flatMap, List.not_mem_nil, or_false] at hd
  rcases hd with rfl | ⟨c, -, hd⟩ | rfl
  · decide
  · exact not_isControl_of_mem_escape hhidden hd
  · decide

end FourReg.Text
