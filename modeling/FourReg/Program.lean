import FourReg.Instruction

/-!
Programs: instructions by index, from zero.

A program counter is a word with a sign, so it may lie before the first instruction as well as
behind the last one.
-/

namespace FourReg

abbrev Program := Array Instruction

/-- The index a program counter stands for, if it is not negative. -/
def index? (pc : Int64) : Option Nat :=
  if pc < 0 then none else some pc.toInt.toNat

theorem index?_eq_some_iff {pc : Int64} {i : Nat} : index? pc = some i ↔ pc.toInt = i := by
  have hneg : pc < 0 ↔ pc.toInt < 0 := by simp [Int64.lt_iff_toInt_lt]
  by_cases h : pc < 0
  · have hlt := hneg.1 h
    simp only [index?, h, if_true, reduceCtorEq, false_iff]
    omega
  · have hge := mt hneg.2 h
    simp only [index?, h, if_false, Option.some.injEq]
    omega

theorem index?_eq_none_iff {pc : Int64} : index? pc = none ↔ pc.toInt < 0 := by
  simp [index?, Int64.lt_iff_toInt_lt]

namespace Program

def fetch (p : Program) (pc : Int64) : Option Instruction :=
  (index? pc).bind fun i => p[i]?

def contains (p : Program) (pc : Int64) : Bool :=
  (p.fetch pc).isSome

theorem fetch_eq_some_iff {p : Program} {pc : Int64} {i : Instruction} :
    p.fetch pc = some i ↔ ∃ n : Nat, pc.toInt = n ∧ p[n]? = some i := by
  simp [fetch, Option.bind_eq_some_iff, index?_eq_some_iff]

theorem contains_iff {p : Program} {pc : Int64} :
    p.contains pc = true ↔ 0 ≤ pc.toInt ∧ pc.toInt < p.size := by
  rw [contains, Option.isSome_iff_exists]
  constructor
  · rintro ⟨i, hi⟩
    obtain ⟨n, hn, hi⟩ := fetch_eq_some_iff.1 hi
    obtain ⟨hlt, -⟩ := Array.getElem?_eq_some_iff.1 hi
    omega
  · rintro ⟨h₁, h₂⟩
    have hlt : pc.toInt.toNat < p.size := by omega
    exact ⟨_, fetch_eq_some_iff.2
      ⟨pc.toInt.toNat, by omega, Array.getElem?_eq_getElem hlt⟩⟩

theorem contains_eq_false_iff {p : Program} {pc : Int64} :
    p.contains pc = false ↔ p.fetch pc = none := by
  rw [contains, Option.isSome_eq_false_iff, Option.isNone_iff_eq_none]

/-- The text of each instruction on a line of its own. -/
def listing (p : Program) : String :=
  String.join (p.toList.map fun i => i.text ++ "\n")

end Program

end FourReg
