/-!
The four registers of the machine and the values they hold.
-/

namespace FourReg

inductive Register where
  | a
  | b
  | c
  | d
  deriving DecidableEq

namespace Register

/-- All registers, in the order in which they are listed everywhere. -/
def all : List Register := [a, b, c, d]

def index : Register → Nat
  | a => 0
  | b => 1
  | c => 2
  | d => 3

def name : Register → String
  | a => "a"
  | b => "b"
  | c => "c"
  | d => "d"

/-- The register with exactly this name. -/
def ofName? (s : String) : Option Register :=
  all.find? fun r => r.name == s

theorem mem_all (r : Register) : r ∈ all := by
  cases r <;> simp [all]

theorem ofName?_eq_some_iff {s : String} {r : Register} : ofName? s = some r ↔ s = r.name := by
  constructor
  · intro h
    rw [ofName?] at h
    have hname := List.find?_some h
    exact (eq_of_beq hname).symm
  · rintro rfl
    cases r <;> decide

end Register

/-- A value for each register. Words have 64 bits and a sign. -/
structure Registers where
  a : Int64 := 0
  b : Int64 := 0
  c : Int64 := 0
  d : Int64 := 0
  deriving DecidableEq

namespace Registers

def get (v : Registers) : Register → Int64
  | .a => v.a
  | .b => v.b
  | .c => v.c
  | .d => v.d

def set (v : Registers) (r : Register) (x : Int64) : Registers :=
  match r with
  | .a => { v with a := x }
  | .b => { v with b := x }
  | .c => { v with c := x }
  | .d => { v with d := x }

def toList (v : Registers) : List Int64 :=
  Register.all.map v.get

@[simp] theorem get_set_self (v : Registers) (r : Register) (x : Int64) :
    (v.set r x).get r = x := by
  cases r <;> rfl

theorem get_set_of_ne (v : Registers) {r r' : Register} (h : r' ≠ r) (x : Int64) :
    (v.set r x).get r' = v.get r' := by
  cases r <;> cases r' <;> first | rfl | exact absurd rfl h

theorem get_injective {v w : Registers} (h : ∀ r, v.get r = w.get r) : v = w := by
  cases v; cases w
  have ha := h .a; have hb := h .b; have hc := h .c; have hd := h .d
  simp only [get] at ha hb hc hd
  simp [ha, hb, hc, hd]

@[simp] theorem get_default (r : Register) : ({} : Registers).get r = 0 := by
  cases r <;> rfl

end Registers

end FourReg
