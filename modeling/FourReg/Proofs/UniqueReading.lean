import FourReg.Text.Decimal.Lemmas
import Mathlib.Data.List.Basic

/-!
Texts that can be read in one way only.

A text can be cut in one way where a stretch of one kind of character ends, or where the lengths of
its pieces say so. Hence a number can be told from what follows it, and lines from the lines behind
them.
-/

namespace FourReg

/-! ### Cuts -/

section

variable {α : Type} {P : α → Bool} {l l' r r' : List α}

lemma takeWhile_append_of_head (hl : ∀ a ∈ l, P a = true) (hr : ∀ a ∈ r.head?, P a = false) :
    (l ++ r).takeWhile P = l := by
  rw [List.takeWhile_append_of_pos hl]
  cases r with
  | nil => simp
  | cons a r => simp [hr a rfl]

/-- Two stretches of one kind are equal if what begins with another kind follows each of them and
they make the same list with it. -/
lemma append_eq_append_of_head (hl : ∀ a ∈ l, P a = true) (hl' : ∀ a ∈ l', P a = true)
    (hr : ∀ a ∈ r.head?, P a = false) (hr' : ∀ a ∈ r'.head?, P a = false)
    (h : l ++ r = l' ++ r') : l = l' ∧ r = r' := by
  have hstretch : l = l' := by
    rw [← takeWhile_append_of_head hl hr, h, takeWhile_append_of_head hl' hr']
  exact ⟨hstretch, List.append_cancel_left (hstretch ▸ h)⟩

/-- Pieces are told apart if it is known how long each of them is. -/
lemma flatMap_inj {β : Type} {f : α → List β} (hf : Function.Injective f)
    (hlengths : l.map (fun a => (f a).length) = l'.map fun a => (f a).length)
    (h : l.flatMap f = l'.flatMap f) : l = l' := by
  induction l generalizing l' with
  | nil => exact (List.map_eq_nil_iff.1 hlengths.symm).symm
  | cons a l ih =>
    cases l' with
    | nil => cases hlengths
    | cons a' l' =>
      obtain ⟨hlength, hlengths⟩ := List.cons.inj hlengths
      obtain ⟨hpiece, hpieces⟩ := List.append_inj h hlength
      rw [hf hpiece, ih hlengths hpieces]

end

/-! ### Numbers -/

namespace Decimal

/-- A number ends where there is no further digit. -/
lemma ofNat_append_inj {m n : Nat} {s t : String} (hs : ∀ c ∈ s.toList.head?, c.isDigit = false)
    (ht : ∀ c ∈ t.toList.head?, c.isDigit = false) (h : ofNat m ++ s = ofNat n ++ t) :
    m = n ∧ s = t := by
  have hchars : (ofNat m).toList ++ s.toList = (ofNat n).toList ++ t.toList := by
    rw [← String.toList_append, h, String.toList_append]
  obtain ⟨hnumber, hrest⟩ := append_eq_append_of_head (P := Char.isDigit)
    (fun _ => isDigit_of_mem_ofNat) (fun _ => isDigit_of_mem_ofNat) hs ht hchars
  exact ⟨ofNat_injective (String.toList_inj.1 hnumber), String.toList_inj.1 hrest⟩

end Decimal

/-! ### Lines -/

namespace Text

def unlines (ls : List String) : String := String.join (ls.map (· ++ "\n"))

@[simp] lemma unlines_nil : unlines [] = "" := rfl

lemma unlines_cons (l : String) (ls : List String) :
    unlines (l :: ls) = l ++ "\n" ++ unlines ls := by
  simp [unlines]

lemma unlines_append (ls ms : List String) : unlines (ls ++ ms) = unlines ls ++ unlines ms := by
  simp [unlines]

/-- The line holds no line feed. -/
def IsLine (l : String) : Prop := '\n' ∉ l.toList

instance (l : String) : Decidable (IsLine l) := inferInstanceAs (Decidable ('\n' ∉ l.toList))

@[simp] lemma isLine_append {l m : String} : IsLine (l ++ m) ↔ IsLine l ∧ IsLine m := by
  simp [IsLine]

/-- **Lines are told apart** by the line feeds between them. -/
lemma unlines_inj {ls ms : List String} (hls : ∀ l ∈ ls, IsLine l) (hms : ∀ l ∈ ms, IsLine l)
    (h : unlines ls = unlines ms) : ls = ms := by
  induction ls generalizing ms with
  | nil =>
    cases ms with
    | nil => rfl
    | cons m ms =>
      have hempty := congrArg String.toList h
      simp [unlines_cons] at hempty
  | cons l ls ih =>
    cases ms with
    | nil =>
      have hempty := congrArg String.toList h
      simp [unlines_cons] at hempty
    | cons m ms =>
      have hchars : l.toList ++ '\n' :: (unlines ls).toList =
          m.toList ++ '\n' :: (unlines ms).toList := by
        have htexts := congrArg String.toList h
        simpa [unlines_cons] using htexts
      have hkind {s : String} (hs : IsLine s) : ∀ c ∈ s.toList, (c != '\n') = true := by
        rintro c hc
        rw [bne_iff_ne]
        rintro rfl
        exact hs hc
      obtain ⟨hline, hrest⟩ := append_eq_append_of_head (hkind (hls l (.head _)))
        (hkind (hms m (.head _))) (by simp) (by simp) hchars
      rw [String.toList_inj.1 hline, ih (fun l hl => hls l (.tail _ hl))
        (fun m hm => hms m (.tail _ hm)) (String.toList_inj.1 (List.cons.inj hrest).2)]

end Text

end FourReg
