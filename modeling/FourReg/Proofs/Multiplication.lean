import FourReg.Proofs.CountedLoops
import FourReg.Proofs.RoundTrip

/-!
Multiplication by counting.

One counted loop adds a register to another, and a second one around it does so as often as its own
register says. Since registers wrap around, a counter that begins at zero or below goes through the
lower end of the range, and the sum is still the product, up to a multiple of the number of words.
-/

namespace FourReg.Machine

open Unbounded

variable {p : Program} {s t u : State} {r : Register} {x y : Int64}

/-! ### Loops of any kind -/

def Reaches (p : Program) (s t : State) : Prop := ∃ n, stepN p n s = .ok t

lemma Reaches.trans (h₁ : Reaches p s t) (h₂ : Reaches p t u) : Reaches p s u := by
  obtain ⟨m, hm⟩ := h₁
  obtain ⟨n, hn⟩ := h₂
  exact ⟨m + n, by rw [stepN_add_of_eq_ok n hm, hn]⟩

lemma exists_rounds_eq (x : Int64) : ∃ m, (x - 1).toUInt64.toNat = m ∧ rounds x = m + 1 :=
  ⟨_, rfl, rounds_eq x⟩

/-- As a word, the number of rounds is the value they are counted down from. -/
lemma ofNat_rounds (x : Int64) : Int64.ofNat (rounds x) = x := by
  unfold rounds
  split
  · rename_i hx
    rw [hx]
    rfl
  · rw [← UInt64.toInt64_ofNat', UInt64.ofNat_toNat, Int64.toInt64_toUInt64]

/-- **A loop around anything** that counts `r` down, and comes back to `start` while `r` is not
zero, goes round as often as `r` says. -/
lemma Reaches.loop {pass : State → State} {start stop : Int64}
    (hpass : ∀ s, s.pc = start → Reaches p s
      { pass s with pc := if (pass s).registers.get r = 0 then stop else start })
    (hpc : ∀ s, (pass s).pc = s.pc)
    (hcount : ∀ s, (pass s).registers.get r = s.registers.get r - 1)
    (hs : s.pc = start) :
    Reaches p s { pass^[rounds (s.registers.get r)] s with pc := stop } := by
  obtain ⟨m, hm, hrounds⟩ := exists_rounds_eq (s.registers.get r)
  rw [hrounds]
  clear hrounds
  induction m generalizing s with
  | zero =>
    have hlast := hpass s hs
    rwa [hcount, if_pos (toNat_toUInt64_eq_zero_iff.1 hm)] at hlast
  | succ m ih =>
    have hvalue : s.registers.get r - 1 ≠ 0 := fun hzero => by
      rw [toNat_toUInt64_eq_zero_iff.2 hzero] at hm
      cases hm
    have hback : Reaches p s (pass s) := by
      have hnext := hpass s hs
      rwa [hcount, if_neg hvalue, ← hs, ← hpc s] at hnext
    have hrest : (s.registers.get r - 1 - 1).toUInt64.toNat = m := by
      have hcount := rounds_eq (s.registers.get r - 1)
      rw [rounds, if_neg hvalue] at hcount
      omega
    rw [Function.iterate_succ_apply]
    exact hback.trans (ih ((hpc s).trans hs) (by rw [hcount, hrest]))

/-! ### Sums -/

/-- The loop that adds `d` to `a`. -/
def addition : Program := counted [.increment .a] .d

lemma iterate_addition (s : State) (n : Nat) :
    (round [.increment .a] .d)^[n] s = { s with registers :=
      { s.registers with a := s.registers.a + .ofNat n, d := s.registers.d - .ofNat n } } := by
  induction n with
  | zero => simp
  | succ n ih =>
    have ha : s.registers.a + .ofNat n + 1 = s.registers.a + .ofNat (n + 1) := by
      rw [Int64.ofNat_add, ← Int64.add_assoc]
      rfl
    have hd : s.registers.d - .ofNat n - 1 = s.registers.d - .ofNat (n + 1) := by
      rw [Int64.ofNat_add, Int64.sub_sub]
      rfl
    rw [Function.iterate_succ_apply', ih, ← ha, ← hd]
    rfl

lemma reaches_addition (hpc : s.pc = 0) :
    Reaches addition s { s with
      pc := 3
      registers := { s.registers with a := s.registers.a + s.registers.d, d := 0 } } := by
  have hspares : Spares [.increment .a] .d :=
    ⟨by simp [Instruction.mnemonic], by simp [Instruction.target?]⟩
  have hfits : Fits (counted [.increment .a] .d) := by unfold Fits; decide
  obtain ⟨m, hm, hrounds⟩ := exists_rounds_eq s.registers.d
  have hrun := stepN_rounds hspares hfits hpc hm
  rw [← hrounds, iterate_addition, ofNat_rounds, Int64.sub_self] at hrun
  exact ⟨_, hrun⟩

/-! ### Products -/

/-- The program that adds the product of `x` and `y` to `a` and puts out what it gets. -/
def multiplication (x y : Int64) : Program :=
  #[.copy (.literal x) .b,
    .copy (.literal y) .c,
    .copy (.register .c) .d,
    .increment .a,
    .decrement .d,
    .jumpIfNonZero (.register .d) (.literal (-2)),
    .decrement .b,
    .jumpIfNonZero (.register .b) (.literal (-5)),
    .output (.register .a)]

/-- What a round of the outer loop does to the registers: `a` grows by `c`, and `b` is counted
down. -/
def product (s : State) : State :=
  { s with registers :=
    { s.registers with a := s.registers.a + s.registers.c, b := s.registers.b - 1, d := 0 } }

lemma fits_multiplication (x y : Int64) : Fits (multiplication x y) := by
  have hsize : (multiplication x y).size = 9 := rfl
  rw [Fits, hsize]
  decide

lemma reaches_inner (v : Registers) (out : Array Int64) :
    Reaches (multiplication x y) ⟨3, v, out⟩ ⟨6, { v with a := v.a + v.d, d := 0 }, out⟩ := by
  have hplace : multiplication x y =
      #[.copy (.literal x) .b, .copy (.literal y) .c, .copy (.register .c) .d] ++ addition ++
        #[.decrement .b, .jumpIfNonZero (.register .b) (.literal (-5)),
          .output (.register .a)] := rfl
  obtain ⟨n, hrun⟩ := reaches_addition (s := ⟨0, v, out⟩) rfl
  have hmoved := (stepN_moved (hplace ▸ fits_multiplication x y) hrun).1
  rw [← hplace, State.moved, State.moved] at hmoved
  have hstart : saturatingAdd 0 (.ofNat 3) = 3 := by decide
  have hend : saturatingAdd 3 (.ofNat 3) = 6 := by decide
  refine ⟨n, ?_⟩
  rw [← hstart, ← hend]
  exact hmoved

lemma reaches_jump (v : Registers) (out : Array Int64) :
    Reaches (multiplication x y) ⟨7, v, out⟩ ⟨if v.b = 0 then 8 else 2, v, out⟩ := by
  have hfetch : (multiplication x y).fetch 7 =
      some (.jumpIfNonZero (.register .b) (.literal (-5))) := rfl
  have hback : saturatingAdd 7 (-5) = 2 := by decide
  refine ⟨1, ?_⟩
  rw [stepN_succ_of_step 0 (step_of_fetch (s := ⟨7, v, out⟩) hfetch), stepN_zero]
  simp only [State.apply, Operand.value, Registers.get, hback]
  split
  · have hnext : (7 : Int64) + 1 = 8 := by decide
    rw [hnext]
  · rfl

lemma reaches_product (hpc : s.pc = 2) :
    Reaches (multiplication x y) s
      { product s with pc := if (product s).registers.get .b = 0 then 8 else 2 } := by
  obtain ⟨pc, v, out⟩ := s
  obtain rfl : pc = 2 := hpc
  have hfirst : Reaches (multiplication x y) ⟨2, v, out⟩ ⟨3, { v with d := v.c }, out⟩ := ⟨1, rfl⟩
  have hcount : Reaches (multiplication x y) ⟨6, { v with a := v.a + v.c, d := 0 }, out⟩
      ⟨7, { v with a := v.a + v.c, b := v.b - 1, d := 0 }, out⟩ := ⟨1, rfl⟩
  exact ((hfirst.trans (reaches_inner _ _)).trans hcount).trans (reaches_jump _ _)

lemma iterate_product (s : State) (n : Nat) :
    product^[n + 1] s = { s with registers :=
      { s.registers with
        a := s.registers.a + .ofNat (n + 1) * s.registers.c
        b := s.registers.b - .ofNat (n + 1)
        d := 0 } } := by
  induction n with
  | zero =>
    have ha : s.registers.a + s.registers.c = s.registers.a + .ofNat (0 + 1) * s.registers.c :=
      congrArg _ (Int64.one_mul _).symm
    rw [Nat.zero_add, Function.iterate_one, product, ha]
    rfl
  | succ n ih =>
    have ha : s.registers.a + .ofNat (n + 1) * s.registers.c + s.registers.c =
        s.registers.a + .ofNat (n + 1 + 1) * s.registers.c := by
      rw [Int64.ofNat_add (n + 1) 1, Int64.add_mul, Int64.add_assoc]
      exact congrArg _ (congrArg _ (Int64.one_mul _).symm)
    have hb : s.registers.b - .ofNat (n + 1) - 1 = s.registers.b - .ofNat (n + 1 + 1) := by
      rw [Int64.ofNat_add (n + 1) 1, Int64.sub_sub]
      rfl
    rw [Function.iterate_succ_apply', ih, ← ha, ← hb]
    rfl

/-- **All rounds** of the outer loop: `a` grows by the product of `b` and `c`. -/
lemma reaches_products (v : Registers) (out : Array Int64) :
    Reaches (multiplication x y) ⟨2, v, out⟩
      ⟨8, { v with a := v.a + v.b * v.c, b := 0, d := 0 }, out⟩ := by
  have hloop := Reaches.loop (s := ⟨2, v, out⟩) (fun _ => reaches_product (x := x) (y := y))
    (fun _ => rfl) (fun _ => rfl) rfl
  obtain ⟨m, -, hrounds⟩ := exists_rounds_eq v.b
  have hvalue : Int64.ofNat (m + 1) = v.b := by rw [← hrounds, ofNat_rounds]
  rw [Registers.get, hrounds, iterate_product, hvalue, Int64.sub_self] at hloop
  exact hloop

/-! ### The program as it is written -/

def multiplicationText (x y : Int64) : String :=
  String.join ["cpy " ++ Decimal.ofInt64 x ++ " b\n", "cpy " ++ Decimal.ofInt64 y ++ " c\n",
    "cpy c d\n", "inc a\n", "dec d\n", "jnz d -2\n", "dec b\n", "jnz b -5\n", "out a\n"]

lemma text_copy_literal (x : Int64) (r : Register) :
    (Instruction.copy (.literal x) r).text = "cpy " ++ Decimal.ofInt64 x ++ " " ++ r.name := by
  have htokens : (Instruction.copy (.literal x) r).text =
      " ".intercalate ["cpy", Decimal.ofInt64 x, r.name] := rfl
  rw [htokens]
  simp [String.append_assoc]

lemma multiplicationText_eq (x y : Int64) :
    multiplicationText x y = (multiplication x y).listing := by
  have hlines : (multiplication x y).listing = String.join
      [(Instruction.copy (.literal x) .b).text ++ "\n",
        (Instruction.copy (.literal y) .c).text ++ "\n", "cpy c d\n", "inc a\n", "dec d\n",
        "jnz d -2\n", "dec b\n", "jnz b -5\n", "out a\n"] := rfl
  have hb : " " ++ (Register.b.name ++ "\n") = " b\n" := by decide
  have hc : " " ++ (Register.c.name ++ "\n") = " c\n" := by decide
  simp only [hlines, text_copy_literal, multiplicationText, String.append_assoc, hb, hc]

/-- **Counting multiplies**, whatever the signs of the factors and wherever `a` begins: the text is
read as the program, and the program halts with the product added to `a`, modulo the number of
words. -/
theorem counting_multiplies (x y : Int64) (v : Registers) :
    let sum : Int64 := .ofInt (v.a.toInt + x.toInt * y.toInt)
    let s : State := { pc := 9, registers := { a := sum, b := 0, c := y, d := 0 }, out := #[sum] }
    (Source.Reader.ofText (multiplicationText x y)).program = .ok (multiplication x y) ∧
    (∃ n, stepN (multiplication x y) n { registers := v } = .ok s) ∧
    s.isHalted (multiplication x y) = true := by
  intro sum s
  have hsum : v.a + x * y = sum := by
    simp only [sum, Int64.ofInt_add, Int64.ofInt_mul, Int64.ofInt_toInt]
  have hfirst : Reaches (multiplication x y) { registers := v }
      ⟨2, { v with b := x, c := y }, #[]⟩ := ⟨2, rfl⟩
  have hlast : Reaches (multiplication x y)
      ⟨8, { v with a := sum, b := 0, c := y, d := 0 }, #[]⟩ s := ⟨1, rfl⟩
  have hloop := reaches_products (x := x) (y := y) { v with b := x, c := y } #[]
  rw [hsum] at hloop
  refine ⟨?_, (hfirst.trans hloop).trans hlast, rfl⟩
  rw [multiplicationText_eq, Program.listing, Source.program_listing]

example : multiplicationText 6 7 =
    "cpy 6 b\ncpy 7 c\ncpy c d\ninc a\ndec d\njnz d -2\ndec b\njnz b -5\nout a\n" := by
  decide

end FourReg.Machine
