import FourReg.Text.Decimal

/-!
Numerals read back: the text of a number in range is accepted and gives that number.
-/

namespace FourReg.Decimal

theorem le_ofDigitChars (cs : List Char) (acc : Nat) : acc ≤ Nat.ofDigitChars 10 cs acc := by
  induction cs generalizing acc with
  | nil => simp
  | cons c cs ih =>
    rw [Nat.ofDigitChars_cons]
    exact Nat.le_trans (by omega) (ih _)

/-- Digits are accepted exactly if the number they append is within the limit. -/
theorem readDigits_eq_ok_iff {limit acc n : Nat} {beyond : Fault} {cs : List Char}
    (hacc : acc ≤ limit) :
    readDigits limit beyond acc cs = .ok n ↔
      (∀ c ∈ cs, c.isDigit = true) ∧ Nat.ofDigitChars 10 cs acc = n ∧ n ≤ limit := by
  induction cs generalizing acc with
  | nil =>
    simp only [readDigits, Except.ok.injEq, List.not_mem_nil, Nat.ofDigitChars_nil]
    constructor
    · rintro rfl; exact ⟨by simp, rfl, hacc⟩
    · exact fun h => h.2.1
  | cons c cs ih =>
    rw [Nat.ofDigitChars_cons]
    by_cases hc : c.isDigit = true
    · by_cases hv : 10 * acc + (c.toNat - '0'.toNat) ≤ limit
      · simp only [readDigits, hc, if_true, if_pos hv, ih hv, List.forall_mem_cons, true_and]
      · have hle := le_ofDigitChars cs (10 * acc + (c.toNat - '0'.toNat))
        simp only [readDigits, hc, if_true, if_neg hv, reduceCtorEq, false_iff]
        rintro ⟨-, rfl, h⟩
        omega
    · simp [readDigits, hc]

theorem readDigits_toDigits {limit n : Nat} (beyond : Fault) (h : n ≤ limit) :
    readDigits limit beyond 0 (Nat.toDigits 10 n) = .ok n := by
  rw [readDigits_eq_ok_iff (Nat.zero_le _)]
  exact ⟨fun c hc => Nat.isDigit_of_mem_toDigits (by decide) (by decide) hc,
    Nat.ofDigitChars_ten_toDigits, h⟩

theorem toDigits_eq_cons (n : Nat) :
    ∃ c cs, Nat.toDigits 10 n = c :: cs ∧ c.isDigit = true := by
  cases h : Nat.toDigits 10 n with
  | nil => exact absurd h Nat.toDigits_ne_nil
  | cons c cs =>
    have hmem : c ∈ Nat.toDigits 10 n := h ▸ .head _
    exact ⟨c, cs, rfl, Nat.isDigit_of_mem_toDigits (by decide) (by decide) hmem⟩

theorem isDigit_of_mem_ofNat {n : Nat} {c : Char} (h : c ∈ (ofNat n).toList) :
    c.isDigit = true := by
  rw [ofNat, String.toList_ofList] at h
  exact Nat.isDigit_of_mem_toDigits (by decide) (by decide) h

theorem ofNat_injective {m n : Nat} (h : ofNat m = ofNat n) : m = n := by
  have hdigits : Nat.toDigits 10 m = Nat.toDigits 10 n := String.ofList_injective h
  rw [← Nat.ofDigitChars_ten_toDigits (n := m), hdigits, Nat.ofDigitChars_ten_toDigits]

theorem readInt_ofInt {low high : Nat} {x : Int} (hlow : -(low : Int) ≤ x) (hhigh : x ≤ high) :
    readInt low high (ofInt x).toList = .ok x := by
  cases x with
  | ofNat n =>
    obtain ⟨c, cs, h, hc⟩ := toDigits_eq_cons n
    have hle : (n : Int) ≤ high := hhigh
    have hread := readDigits_toDigits .tooLarge (show n ≤ high by omega)
    rw [h] at hread
    rw [ofInt, ofNat, String.toList_ofList, h, readInt, hread]
    · rfl
    · rintro rfl; simp at hc
    · rintro rfl; simp at hc
  | negSucc n =>
    obtain ⟨c, cs, h, -⟩ := toDigits_eq_cons (n + 1)
    have hread := readDigits_toDigits .tooSmall (show n + 1 ≤ low by omega)
    rw [h] at hread
    have htext : (ofInt (.negSucc n)).toList = '-' :: c :: cs := by simp [ofInt, ofNat, h]
    rw [htext, readInt, readMagnitude, hread]
    rfl

/-- The text of a word reads back as that word. -/
theorem readInt64_ofInt64 (x : Int64) : readInt64 (ofInt64 x) = .ok x := by
  have h₁ := x.le_toInt
  have h₂ := x.toInt_lt
  rw [readInt64, ofInt64, readInt_ofInt (by simp; omega) (by simp; omega)]
  simp [Except.map]

theorem ofInt64_injective {x y : Int64} (h : ofInt64 x = ofInt64 y) : x = y := by
  have hread := readInt64_ofInt64 x
  rw [h, readInt64_ofInt64] at hread
  exact (Except.ok.inj hread).symm

end FourReg.Decimal
