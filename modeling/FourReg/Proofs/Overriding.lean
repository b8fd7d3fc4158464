import FourReg.Proofs.Assignments
import FourReg.Proofs.Recording
import Mathlib.Data.List.Induction
import Mathlib.Data.List.Nodup
import Mathlib.Data.List.Perm.Basic

/-!
Assignments in a row.

Each argument is read by itself, and of several for one register the last one counts. So only the
order of the assignments to the same register matters. The first argument that is no assignment
ends the command, before anything else is looked at.
-/

namespace FourReg.Cli

open Text (Padded)

variable {args : Arguments} {arg : String} {f : Failure} {r : Register} {x : Int64}
  {as as' : List (Register × Int64)} {texts texts' : List String}

/-! ### Arguments that are no assignments -/

/-- What the last of the assignments to `r` assigns; zero if there is none. -/
def lastValue (as : List (Register × Int64)) (r : Register) : Int64 :=
  ((as.filter fun a => a.1 = r).getLast?.map Prod.snd).getD 0

@[simp] lemma lastValue_nil (r : Register) : lastValue [] r = 0 := rfl

/-- The arguments are in order, and these are their assignments, one for one. -/
def Amounts (texts : List String) (as : List (Register × Int64)) : Prop :=
  List.Forall₂ (fun arg a => assignment arg = .ok a) texts as

lemma foldlM_assign_eq (texts : List String) (v : Registers) :
    texts.foldlM assign v = (texts.mapM assignment).map (assigned v) := by
  induction texts generalizing v with
  | nil => rfl
  | cons arg texts ih =>
    rw [List.foldlM_cons]
    cases harg : assignment arg with
    | error f =>
      rw [mapM_cons_of_error harg, assign, harg]
      rfl
    | ok a =>
      have hassign : assign v arg = .ok (v.set a.1 a.2) := by rw [assign, harg]; rfl
      rw [mapM_cons_of_ok harg, hassign]
      change texts.foldlM assign (v.set a.1 a.2) = _
      rw [ih]
      cases texts.mapM assignment <;> rfl

lemma Amounts.config (h : Amounts args.assignments as) :
    args.config = (stepLimit args.maxSteps).map (args.configFor (assigned {} as)) := by
  rw [Arguments.config, foldlM_assign_eq, mapM_eq_ok_iff.2 h]
  change (stepLimit args.maxSteps >>= _) = _
  cases stepLimit args.maxSteps <;> rfl

end FourReg.Cli
