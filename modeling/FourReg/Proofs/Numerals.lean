import FourReg.Text.Decimal.Lemmas
import FourReg.Proofs.Faults

/-!
Which texts are numerals, and that the readers accept these and no others.
-/

namespace FourReg.Decimal

/-- At least one digit and nothing else. -/
def Digits (cs : List Char) : Prop := cs ≠ [] ∧ ∀ c ∈ cs, c.isDigit = true

/-- The number that digits stand for. -/
def digitsValue (cs : List Char) : Nat := Nat.ofDigitChars 10 cs 0

/-- `Unsigned cs n`: the text is digits, with or without a plus sign, and stands for `n`. -/
inductive Unsigned : List Char → Nat → Prop
  | plain {ds : List Char} (h : Digits ds) : Unsigned ds (digitsValue ds)
  | plus {ds : List Char} (h : Digits ds) : Unsigned ('+' :: ds) (digitsValue ds)

/-- `Numeral cs x`: the text is digits, with a sign or without, and stands for `x`. -/
inductive Numeral : List Char → Int → Prop
  | unsigned {cs : List Char} {n : Nat} (h : Unsigned cs n) : Numeral cs n
  | minus {ds : List Char} (h : Digits ds) : Numeral ('-' :: ds) (-(digitsValue ds : Int))

variable {c : Char} {cs : List Char}

lemma not_digits_cons (h : c.isDigit = false) : ¬Digits (c :: cs) := fun hd => by
  have hc := hd.2 c (.head _)
  rw [h] at hc
  cases hc

lemma unsigned_plus_iff {n : Nat} : Unsigned ('+' :: cs) n ↔ Digits cs ∧ n = digitsValue cs := by
  constructor
  · intro h
    cases h with
    | plain h => exact absurd h (not_digits_cons (by decide))
    | plus h => exact ⟨h, rfl⟩
  · rintro ⟨h, rfl⟩
    exact .plus h

lemma unsigned_iff_of_ne {n : Nat} (hplus : ∀ ds, cs ≠ '+' :: ds) :
    Unsigned cs n ↔ Digits cs ∧ n = digitsValue cs := by
  constructor
  · intro h
    cases h with
    | plain h => exact ⟨h, rfl⟩
    | plus h => exact absurd rfl (hplus _)
  · rintro ⟨h, rfl⟩
    exact .plain h

lemma not_unsigned_minus {n : Nat} : ¬Unsigned ('-' :: cs) n := by
  rw [unsigned_iff_of_ne (by simp)]
  exact fun h => not_digits_cons (by decide) h.1

lemma numeral_minus_iff {x : Int} :
    Numeral ('-' :: cs) x ↔ Digits cs ∧ x = -(digitsValue cs : Int) := by
  constructor
  · intro h
    cases h with
    | unsigned h => exact absurd h not_unsigned_minus
    | minus h => exact ⟨h, rfl⟩
  · rintro ⟨h, rfl⟩
    exact .minus h

lemma numeral_iff_of_ne {x : Int} (hminus : ∀ ds, cs ≠ '-' :: ds) :
    Numeral cs x ↔ ∃ n, Unsigned cs n ∧ x = n := by
  constructor
  · intro h
    cases h with
    | unsigned h => exact ⟨_, h, rfl⟩
    | minus h => exact absurd rfl (hminus _)
  · rintro ⟨n, h, rfl⟩
    exact .unsigned h

/-! ### Readers -/

lemma readDigits_zero_eq_ok_iff {limit n : Nat} {beyond : Fault} :
    readDigits limit beyond 0 (c :: cs) = .ok n ↔
      (Digits (c :: cs) ∧ n = digitsValue (c :: cs)) ∧ n ≤ limit := by
  rw [readDigits_eq_ok_iff (Nat.zero_le _), Digits, digitsValue, eq_comm (a := n), and_assoc]
  simp only [ne_eq, reduceCtorEq, not_false_eq_true, true_and]

lemma readMagnitude_eq_ok_iff {limit n : Nat} {beyond : Fault} :
    readMagnitude limit beyond cs = .ok n ↔ (Digits cs ∧ n = digitsValue cs) ∧ n ≤ limit := by
  cases cs with
  | nil => simp [readMagnitude, Digits]
  | cons c cs => exact readDigits_zero_eq_ok_iff

lemma readNat_eq_ok_iff {limit n : Nat} :
    readNat limit cs = .ok n ↔ Unsigned cs n ∧ n ≤ limit := by
  unfold readNat
  split
  · simp [unsigned_iff_of_ne, Digits]
  · rw [readMagnitude_eq_ok_iff, unsigned_plus_iff]
  · rename_i c cs hplus
    rw [readDigits_zero_eq_ok_iff, unsigned_iff_of_ne]
    rintro ds ⟨⟩
    exact hplus rfl

lemma readInt_of_ne (low high : Nat) (hminus : ∀ ds, cs ≠ '-' :: ds) :
    readInt low high cs = (readNat high cs).map Int.ofNat := by
  unfold readInt
  split
  · rfl
  · rfl
  · exact absurd rfl (hminus _)
  · rename_i c cs hplus _
    rw [readNat]
    exact hplus

lemma readInt_eq_ok_iff {low high : Nat} {x : Int} :
    readInt low high cs = .ok x ↔ Numeral cs x ∧ -(low : Int) ≤ x ∧ x ≤ high := by
  by_cases hminus : ∃ ds, cs = '-' :: ds
  · obtain ⟨ds, rfl⟩ := hminus
    have hread : readInt low high ('-' :: ds)
        = (readMagnitude low .tooSmall ds).map fun n : Nat => -(n : Int) := by
      rw [readInt]
      cases readMagnitude low .tooSmall ds <;> rfl
    rw [numeral_minus_iff, hread, map_eq_ok_iff]
    constructor
    · rintro ⟨n, hn, rfl⟩
      obtain ⟨⟨hd, rfl⟩, hle⟩ := readMagnitude_eq_ok_iff.1 hn
      exact ⟨⟨hd, rfl⟩, by omega⟩
    · rintro ⟨⟨hd, rfl⟩, hle⟩
      exact ⟨_, readMagnitude_eq_ok_iff.2 ⟨⟨hd, rfl⟩, by omega⟩, rfl⟩
  · have hne : ∀ ds, cs ≠ '-' :: ds := by simpa using hminus
    rw [readInt_of_ne low high hne, numeral_iff_of_ne hne, map_eq_ok_iff]
    constructor
    · rintro ⟨n, hn, rfl⟩
      obtain ⟨hu, hle⟩ := readNat_eq_ok_iff.1 hn
      exact ⟨⟨n, hu, rfl⟩, by simp; omega⟩
    · rintro ⟨⟨n, hu, rfl⟩, hle⟩
      exact ⟨n, readNat_eq_ok_iff.2 ⟨hu, by omega⟩, rfl⟩

/-- **A text is read as a word** if it is a numeral of that word. -/
lemma readInt64_eq_ok_iff {s : String} {v : Int64} :
    readInt64 s = .ok v ↔ Numeral s.toList v.toInt := by
  have hlow := v.le_toInt
  have hhigh := v.toInt_lt
  rw [readInt64, map_eq_ok_iff]
  constructor
  · rintro ⟨x, hx, rfl⟩
    obtain ⟨hx, hle⟩ := readInt_eq_ok_iff.1 hx
    rw [Int64.toInt_ofInt_of_le (by omega) (by omega)]
    exact hx
  · intro h
    exact ⟨v.toInt, readInt_eq_ok_iff.2 ⟨h, by omega⟩, Int64.ofInt_toInt v⟩

lemma readUInt64_eq_ok_iff {s : String} {v : UInt64} :
    readUInt64 s = .ok v ↔ Unsigned s.toList v.toNat := by
  rw [readUInt64, map_eq_ok_iff]
  constructor
  · rintro ⟨n, hn, rfl⟩
    obtain ⟨hn, hle⟩ := readNat_eq_ok_iff.1 hn
    rw [UInt64.toNat_ofNat_of_lt' (by simp only [UInt64.size]; omega)]
    exact hn
  · intro h
    have hlt := v.toNat_lt
    exact ⟨v.toNat, readNat_eq_ok_iff.2 ⟨h, by omega⟩, UInt64.ofNat_toNat⟩

end FourReg.Decimal
