/-!
White space, and text cut at white space.

A blank is a character with the Unicode property `White_Space`; a word is a maximal run of
other characters.
-/

namespace FourReg.Text

def blankRanges : List (Nat × Nat) :=
  [(0x09, 0x0d), (0x20, 0x20), (0x85, 0x85), (0xa0, 0xa0), (0x1680, 0x1680), (0x2000, 0x200a),
   (0x2028, 0x2029), (0x202f, 0x202f), (0x205f, 0x205f), (0x3000, 0x3000)]

def isBlank (c : Char) : Bool :=
  blankRanges.any fun r => r.1 ≤ c.toNat && c.toNat ≤ r.2

/-- Puts a word in front of others; an empty run is no word. -/
def consWord : List Char → List (List Char) → List (List Char)
  | [], ws => ws
  | c :: w, ws => (c :: w) :: ws

/-- The run of characters up to the first blank, and the words after it. -/
def scanWords : List Char → List Char × List (List Char)
  | [] => ([], [])
  | c :: cs =>
    let (w, ws) := scanWords cs
    if isBlank c then ([], consWord w ws) else (c :: w, ws)

def charWords (cs : List Char) : List (List Char) :=
  consWord (scanWords cs).1 (scanWords cs).2

def words (s : String) : List String :=
  (charWords s.toList).map String.ofList

@[simp] theorem charWords_nil : charWords [] = [] := rfl

theorem charWords_blank {c : Char} (h : isBlank c = true) (cs : List Char) :
    charWords (c :: cs) = charWords cs := by
  simp [charWords, scanWords, h, consWord]

theorem scanWords_fst (cs : List Char) : (scanWords cs).1 = cs.takeWhile (!isBlank ·) := by
  induction cs with
  | nil => rfl
  | cons c cs ih => by_cases h : isBlank c = true <;> simp [scanWords, h, ih]

theorem charWords_eq_nil_iff {cs : List Char} : charWords cs = [] ↔ cs.all isBlank = true := by
  induction cs with
  | nil => simp
  | cons c cs ih =>
    by_cases h : isBlank c = true
    · simp [charWords_blank h, ih, h]
    · simp [charWords, scanWords, consWord, h]

/-- A run without blanks is a word, if nothing or a blank follows it. -/
theorem charWords_append {w rest : List Char} (hne : w ≠ []) (hw : ∀ c ∈ w, isBlank c = false)
    (hrest : ∀ c ∈ rest.head?, isBlank c = true) :
    charWords (w ++ rest) = w :: charWords rest := by
  have hscan : ∀ v : List Char, (∀ c ∈ v, isBlank c = false) →
      scanWords (v ++ rest) = (v ++ (scanWords rest).1, (scanWords rest).2) := by
    intro v hv
    induction v with
    | nil => rfl
    | cons c v ih =>
      have hc := hv c (.head _)
      simp [scanWords, ih fun d hd => hv d (.tail _ hd), hc]
  have hfst : (scanWords rest).1 = [] := by
    rw [scanWords_fst]
    cases rest with
    | nil => rfl
    | cons c rest => simp [hrest c rfl]
  obtain ⟨c, v, rfl⟩ := List.exists_cons_of_ne_nil hne
  rw [charWords, charWords, hscan _ hw, hfst]
  simp [consWord]

def isBlankText (s : String) : Bool :=
  s.toList.all isBlank

def trimChars (cs : List Char) : List Char :=
  ((cs.dropWhile isBlank).reverse.dropWhile isBlank).reverse

/-- A text without the blanks at its two ends. -/
def trim (s : String) : String :=
  String.ofList (trimChars s.toList)

end FourReg.Text
