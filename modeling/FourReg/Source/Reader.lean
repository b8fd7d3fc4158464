import FourReg.Source.Line

/-!
Reading a source file line by line.

A line ends before a line feed or at the end of the file, and one carriage return at its end does
not belong to it. Reading goes on behind a line at fault, so a reader can list every error.
-/

namespace FourReg.Source

def lineFeed : UInt8 := 0x0a

def carriageReturn : UInt8 := 0x0d

def lineEnd (bytes : ByteArray) (i : Nat) : Nat :=
  if h : i < bytes.size then
    if bytes[i] = lineFeed then i else lineEnd bytes (i + 1)
  else bytes.size
termination_by bytes.size - i

theorem lineEnd_le (bytes : ByteArray) (i : Nat) : lineEnd bytes i ≤ bytes.size := by
  fun_induction lineEnd bytes i with
  | case1 i h _ => omega
  | case2 _ _ _ ih => exact ih
  | case3 => omega

theorem le_lineEnd (bytes : ByteArray) {i : Nat} (hi : i ≤ bytes.size) :
    i ≤ lineEnd bytes i := by
  fun_induction lineEnd bytes i with
  | case1 => omega
  | case2 i h _ ih => have := ih (by omega); omega
  | case3 => exact hi

/-- The end of a line's text, before a carriage return that ends the line. -/
def textEnd (bytes : ByteArray) (start stop : Nat) : Nat :=
  if h : start < stop ∧ stop ≤ bytes.size then
    if bytes[stop - 1] = carriageReturn then stop - 1 else stop
  else stop

/-- A place in a file, and how many lines begin before it. -/
structure Reader where
  bytes : ByteArray
  offset : Nat := 0
  line : Nat := 0

/-- A stretch of a file: from `start` up to `stop`, which does not belong to it. -/
structure Span where
  start : Nat
  stop : Nat
  deriving DecidableEq

namespace Reader

def ofText (text : String) : Reader where
  bytes := text.toUTF8

/-- The text of the next line, and the reader behind that line. -/
def nextLine (r : Reader) : Option (Span × Reader) :=
  if r.offset < r.bytes.size then
    let stop := lineEnd r.bytes r.offset
    some (⟨r.offset, textEnd r.bytes r.offset stop⟩,
      { r with offset := stop + 1, line := r.line + 1 })
  else none

theorem nextLine_some {r r' : Reader} {span : Span} (h : r.nextLine = some (span, r')) :
    r.offset < r.bytes.size ∧ r'.bytes = r.bytes ∧ r.offset < r'.offset
      ∧ r'.offset ≤ r.bytes.size + 1 := by
  unfold nextLine at h
  split at h
  · simp only [Option.some.injEq, Prod.mk.injEq] at h
    obtain ⟨-, rfl⟩ := h
    have h₁ : r.offset ≤ lineEnd r.bytes r.offset := le_lineEnd r.bytes (by omega)
    have h₂ := lineEnd_le r.bytes r.offset
    exact ⟨by assumption, rfl, by simp only; omega, by simp only; omega⟩
  · simp at h

/-- Bounds the number of lines to come. -/
def remaining (r : Reader) : Nat :=
  r.bytes.size + 1 - r.offset

theorem remaining_lt_of_nextLine {r r' : Reader} {span : Span}
    (h : r.nextLine = some (span, r')) : r'.remaining < r.remaining := by
  obtain ⟨h₁, h₂, h₃, -⟩ := nextLine_some h
  simp only [remaining, h₂]
  omega

/-- The next item, behind any number of blank lines, and the reader behind its line. -/
def next (r : Reader) : Option Item × Reader :=
  match _h : r.nextLine with
  | none => (none, r)
  | some (span, r') =>
    match lineItem r'.line (r.bytes.extract span.start span.stop) with
    | some item => (some item, r')
    | none => next r'
termination_by r.remaining
decreasing_by exact remaining_lt_of_nextLine _h

theorem remaining_lt_of_next {r r' : Reader} {item : Item} (h : r.next = (some item, r')) :
    r'.remaining < r.remaining := by
  fun_induction next r with
  | case1 => simp at h
  | case2 r span s hline item' =>
    obtain ⟨-, rfl⟩ := Prod.mk.inj h
    exact remaining_lt_of_nextLine hline
  | case3 r span s hline _ ih => exact Nat.lt_trans (ih h) (remaining_lt_of_nextLine hline)

def take : Nat → Reader → List Item
  | 0, _ => []
  | n + 1, r =>
    match r.next with
    | (none, _) => []
    | (some item, r') => item :: take n r'

def items (r : Reader) : List Item :=
  r.take r.remaining

theorem next_of_size_le {r : Reader} (h : r.bytes.size ≤ r.offset) : r.next = (none, r) := by
  have hline : r.nextLine = none := by simp [nextLine]; omega
  unfold next
  split
  · rfl
  · simp_all

theorem take_of_remaining_le {m n : Nat} {r : Reader} (hm : r.remaining ≤ m)
    (hn : r.remaining ≤ n) : r.take m = r.take n := by
  have hnone : r.remaining = 0 → r.next = (none, r) := fun h =>
    next_of_size_le (by unfold remaining at h; omega)
  induction m generalizing n r with
  | zero => cases n <;> simp [take, hnone (by omega)]
  | succ m ih =>
    cases n with
    | zero => simp [take, hnone (by omega)]
    | succ n =>
      rcases hnext : r.next with ⟨_ | item, r'⟩
      · simp [take, hnext]
      · have hlt := remaining_lt_of_next hnext
        have htake := ih (n := n) (r := r') (by omega) (by omega) fun h =>
          next_of_size_le (by unfold remaining at h; omega)
        simp [take, hnext, htake]

theorem items_of_next_none {r r' : Reader} (h : r.next = (none, r')) : r.items = [] := by
  unfold items
  cases r.remaining <;> simp [take, h]

theorem items_of_next_some {r r' : Reader} {item : Item} (h : r.next = (some item, r')) :
    r.items = item :: r'.items := by
  have hlt := remaining_lt_of_next h
  obtain ⟨n, hn⟩ : ∃ n, r.remaining = n + 1 := ⟨r.remaining - 1, by omega⟩
  rw [items, hn, take, h]
  exact congrArg _ (take_of_remaining_le (by omega) (Nat.le_refl _))

def skip : Nat → Reader → Reader
  | 0, r => r
  | n + 1, r => skip n r.next.2

/-- The program made of all items to come; the first error refuses it. -/
def program (r : Reader) : Except Error Program :=
  (r.items.mapM id).map List.toArray

end Reader

end FourReg.Source
