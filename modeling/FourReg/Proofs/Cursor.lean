import FourReg.Proofs.Reading
import Mathlib.Data.List.Chain
import Mathlib.Data.Nat.Count

/-!
The offsets of a reader.

A reader stands at the beginning of a line, or one place behind the end of its file. The lines that
it has read lie one behind the other and make up all that stands before it, so none of its accesses
is outside of the file, it comes to an end, and there it stays.
-/

namespace FourReg.Source

variable {bytes : ByteArray} {i j start stop : Nat}

/-! ### Places in a file -/

def BehindFeed (bytes : ByteArray) : Nat → Prop
  | 0 => False
  | i + 1 => bytes[i]? = some lineFeed

def StartsLine (bytes : ByteArray) (i : Nat) : Prop :=
  i < bytes.size ∧ (i = 0 ∨ BehindFeed bytes i)

instance (bytes : ByteArray) : DecidablePred (BehindFeed bytes)
  | 0 => inferInstanceAs (Decidable False)
  | i + 1 => inferInstanceAs (Decidable (bytes[i]? = some lineFeed))

instance (bytes : ByteArray) : DecidablePred (StartsLine bytes) := fun i =>
  inferInstanceAs (Decidable (i < bytes.size ∧ (i = 0 ∨ BehindFeed bytes i)))

lemma getElem?_lineEnd (h : lineEnd bytes i < bytes.size) :
    bytes[lineEnd bytes i]? = some lineFeed := by
  fun_induction lineEnd bytes i with
  | case1 i hi hb => rw [getElem?_pos bytes i hi, hb]
  | case2 i hi hb ih => exact ih h
  | case3 i hi => exact absurd h (Nat.lt_irrefl _)

lemma getElem?_ne_lineFeed (hij : i ≤ j) (hj : j < lineEnd bytes i) :
    bytes[j]? ≠ some lineFeed := by
  fun_induction lineEnd bytes i with
  | case1 i hi hb => omega
  | case2 i hi hb ih =>
    rcases Nat.eq_or_lt_of_le hij with rfl | hlt
    · rw [getElem?_pos bytes i hi]
      simpa using hb
    · exact ih hlt hj
  | case3 i hi =>
    rw [getElem?_neg bytes j (by omega)]
    exact (Option.some_ne_none lineFeed).symm

lemma textEnd_cases (start : Nat) (h : stop ≤ bytes.size) :
    textEnd bytes start stop = stop ∨
    start < stop ∧ textEnd bytes start stop = stop - 1 ∧
      bytes[stop - 1]? = some carriageReturn := by
  unfold textEnd
  split
  · rename_i hbounds
    split
    · rename_i hb
      exact .inr ⟨hbounds.1, rfl, by rw [getElem?_pos bytes _ (by omega), hb]⟩
    · exact .inl rfl
  · exact .inl rfl

/-! ### Lines that have been read -/

/-- What ends a line takes up the places from `stop` up to another one: a line feed, or nothing if
the file ends there, and a carriage return in front of it. -/
inductive Ends (bytes : ByteArray) (stop : Nat) : Nat → Prop
  | feed (h : bytes[stop]? = some lineFeed) : Ends bytes stop (stop + 1)
  | returnFeed (h : bytes[stop]? = some carriageReturn)
      (h' : bytes[stop + 1]? = some lineFeed) : Ends bytes stop (stop + 2)
  | file (h : stop = bytes.size) : Ends bytes stop stop
  | returnFile (h : bytes[stop]? = some carriageReturn) (h' : stop + 1 = bytes.size) :
      Ends bytes stop (stop + 1)

lemma ends_textEnd (start : Nat) (hsize : stop ≤ bytes.size)
    (hfeed : stop < bytes.size → bytes[stop]? = some lineFeed) :
    Ends bytes (textEnd bytes start stop) (min (stop + 1) bytes.size) := by
  rcases textEnd_cases start hsize with htext | ⟨hpos, htext, hreturn⟩
  · rw [htext]
    rcases Nat.eq_or_lt_of_le hsize with rfl | hlt
    · rw [Nat.min_eq_right (Nat.le_succ _)]
      exact .file rfl
    · rw [Nat.min_eq_left hlt]
      exact .feed (hfeed hlt)
  · obtain ⟨m, rfl⟩ : ∃ m, stop = m + 1 := ⟨stop - 1, by omega⟩
    rw [Nat.add_sub_cancel] at htext hreturn
    rw [htext]
    rcases Nat.eq_or_lt_of_le hsize with hend | hlt
    · rw [Nat.min_eq_right (by omega), ← hend]
      exact .returnFile hreturn hend
    · rw [Nat.min_eq_left hlt]
      exact .returnFeed hreturn (hfeed hlt)

/-- A line that has been read: its text, and the place behind what ends it. -/
structure Row where
  text : Span
  behind : Nat

namespace Row

def holds (row : Row) (i : Nat) : Bool := row.text.start ≤ i && i < row.behind

/-- The line lies in the file and holds something, and its text goes on up to what ends it. -/
structure Wf (bytes : ByteArray) (row : Row) : Prop where
  start_le_stop : row.text.start ≤ row.text.stop
  stop_le_size : row.text.stop ≤ bytes.size
  start_lt_behind : row.text.start < row.behind
  ne_lineFeed : ∀ i, row.text.start ≤ i → i < row.text.stop → bytes[i]? ≠ some lineFeed
  ends : Ends bytes row.text.stop row.behind

lemma wf_textEnd (hlt : start < bytes.size) (hle : start ≤ stop) (hsize : stop ≤ bytes.size)
    (hfeed : stop < bytes.size → bytes[stop]? = some lineFeed)
    (hfree : ∀ i, start ≤ i → i < stop → bytes[i]? ≠ some lineFeed) :
    Wf bytes ⟨⟨start, textEnd bytes start stop⟩, min (stop + 1) bytes.size⟩ := by
  have hbehind : start < min (stop + 1) bytes.size := by omega
  have hends := ends_textEnd start hsize hfeed
  rcases textEnd_cases start hsize with htext | ⟨hpos, htext, -⟩
  · rw [htext] at hends ⊢
    exact ⟨hle, hsize, hbehind, hfree, hends⟩
  · rw [htext] at hends ⊢
    exact ⟨Nat.le_sub_one_of_lt hpos, (Nat.sub_le stop 1).trans hsize, hbehind,
      fun i hi hlt => hfree i hi (hlt.trans_le (Nat.sub_le stop 1)), hends⟩

end Row

/-- The lines lie one behind the other, from the beginning of the file on, and each place in front
of the offset belongs to one of them and to no more than one. -/
structure Cut (bytes : ByteArray) (rows : List Row) (offset : Nat) : Prop where
  wf : ∀ row ∈ rows, row.Wf bytes
  first : ∀ row ∈ rows.head?, row.text.start = 0
  next : rows.IsChain fun row row' =>
    row'.text.start = row.behind ∧ BehindFeed bytes row.behind
  last : ∀ row ∈ rows.getLast?, row.behind = min offset bytes.size
  holds : ∀ i, rows.countP (·.holds i) = if i < offset ∧ i < bytes.size then 1 else 0

namespace Cut

variable {rows : List Row} {row : Row} {offset offset' : Nat}

lemma eq_zero_of_nil (h : Cut bytes [] offset) (hlt : offset < bytes.size) : offset = 0 := by
  have hnone := h.holds 0
  by_contra hne
  rw [if_pos (by omega)] at hnone
  cases hnone

lemma behind_last (h : Cut bytes rows offset) (hstarts : StartsLine bytes offset)
    (hlast : row ∈ rows.getLast?) : row.behind = offset ∧ BehindFeed bytes row.behind := by
  have hbehind : row.behind = offset :=
    (h.last row hlast).trans (Nat.min_eq_left (Nat.le_of_lt hstarts.1))
  have hpos := (h.wf row (List.mem_of_getLast? hlast)).start_lt_behind
  rcases hstarts.2 with hzero | hfeed
  · omega
  · exact ⟨hbehind, hbehind ▸ hfeed⟩

/-- **One more line**, from where another one may begin. -/
lemma concat (h : Cut bytes rows offset) (hstarts : StartsLine bytes offset) (hwf : row.Wf bytes)
    (hstart : row.text.start = offset) (hbehind : row.behind = min offset' bytes.size) :
    Cut bytes (rows ++ [row]) offset' := by
  have hlt := hwf.start_lt_behind
  refine ⟨?_, ?_, ?_, ?_, fun i => ?_⟩
  · intro row' hrow
    rcases List.mem_append.1 hrow with hrow | hrow
    · exact h.wf row' hrow
    · rwa [List.mem_singleton.1 hrow]
  · cases rows with
    | nil =>
      rintro _ ⟨rfl⟩
      exact hstart.trans (h.eq_zero_of_nil hstarts.1)
    | cons row' rows => exact h.first
  · refine h.next.append (List.isChain_singleton _) ?_
    rintro row' hlast _ ⟨rfl⟩
    obtain ⟨hend, hfeed⟩ := h.behind_last hstarts hlast
    exact ⟨hstart.trans hend.symm, hfeed⟩
  · rw [List.getLast?_concat]
    rintro _ ⟨rfl⟩
    exact hbehind
  · rw [List.countP_append, h.holds i, List.countP_singleton]
    simp only [Row.holds, hstart, hbehind, Bool.and_eq_true, decide_eq_true_eq]
    split_ifs <;> omega

end Cut

namespace Reader

variable {r r' : Reader} {span : Span}

def row (span : Span) (r' : Reader) : Row := ⟨span, min r'.offset r'.bytes.size⟩

lemma wf_row (h : r.nextLine = some (span, r')) : (row span r').Wf r.bytes := by
  obtain ⟨hlt, rfl, rfl⟩ := eq_of_nextLine h
  exact Row.wf_textEnd hlt (le_lineEnd r.bytes (Nat.le_of_lt hlt)) (lineEnd_le r.bytes r.offset)
    getElem?_lineEnd fun _ => getElem?_ne_lineFeed

lemma offset_of_nextLine (h : r.nextLine = some (span, r')) :
    r'.offset = r.bytes.size + 1 ∨ BehindFeed r.bytes r'.offset := by
  obtain ⟨-, -, rfl⟩ := eq_of_nextLine h
  rcases Nat.eq_or_lt_of_le (lineEnd_le r.bytes r.offset) with hend | hend
  · exact .inl (congrArg _ hend)
  · exact .inr (getElem?_lineEnd hend)

lemma count_of_nextLine (h : r.nextLine = some (span, r')) (hstarts : StartsLine r.bytes r.offset) :
    Nat.count (StartsLine r.bytes) r'.offset = Nat.count (StartsLine r.bytes) r.offset + 1 := by
  obtain ⟨hlt, -, rfl⟩ := eq_of_nextLine h
  obtain ⟨k, hk⟩ := Nat.exists_eq_add_of_le (le_lineEnd r.bytes (Nat.le_of_lt hlt))
  -- a line that began behind the first place would need a line feed in front of the end
  have hnone : Nat.count (fun j => StartsLine r.bytes (r.offset + (j + 1))) k = 0 := by
    refine Nat.count_of_forall_not fun j hj hstart => ?_
    rcases hstart.2 with hzero | hfeed
    · omega
    · exact getElem?_ne_lineFeed (Nat.le_add_right r.offset j) (by omega) hfeed
  rw [hk, Nat.add_assoc, Nat.count_add, Nat.count_succ', hnone, Nat.add_zero, if_pos hstarts]

/-- `HasRead bytes rows r`: these lines of a file have been read, from its beginning up to where the
reader stands. -/
inductive HasRead (bytes : ByteArray) : List Row → Reader → Prop
  | beginning : HasRead bytes [] { bytes }
  | line {rows : List Row} {r r' : Reader} {span : Span} (h : HasRead bytes rows r)
      (hline : r.nextLine = some (span, r')) : HasRead bytes (rows ++ [row span r']) r'

/-- The reader stands where a line begins or behind the file, and its number of lines is right. -/
structure Aligned (bytes : ByteArray) (r : Reader) : Prop where
  bytes_eq : r.bytes = bytes
  offset : r.offset = 0 ∨ r.offset = bytes.size + 1 ∨ BehindFeed bytes r.offset
  line : r.line = Nat.count (StartsLine bytes) r.offset

variable {rows : List Row}

lemma Aligned.startsLine (h : Aligned bytes r) (hlt : r.offset < bytes.size) :
    StartsLine bytes r.offset := by
  rcases h.offset with hzero | hover | hfeed
  · exact ⟨hlt, .inl hzero⟩
  · omega
  · exact ⟨hlt, .inr hfeed⟩

lemma Aligned.nextLine (h : Aligned bytes r) (hline : r.nextLine = some (span, r')) :
    Aligned bytes r' := by
  obtain ⟨hlt, hbytes, -⟩ := nextLine_some hline
  have hstarts := h.startsLine (h.bytes_eq ▸ hlt)
  obtain ⟨rfl, -, hcount⟩ := h
  refine ⟨hbytes, .inr (offset_of_nextLine hline), ?_⟩
  rw [count_of_nextLine hline hstarts, ← hcount]
  exact congrArg Reader.line (eq_of_nextLine hline).2.2

lemma HasRead.aligned (h : HasRead bytes rows r) : Aligned bytes r := by
  induction h with
  | beginning => exact ⟨rfl, .inl rfl, (Nat.count_zero _).symm⟩
  | line _ hline ih => exact ih.nextLine hline

lemma HasRead.cut (h : HasRead bytes rows r) : Cut bytes rows r.offset := by
  induction h with
  | beginning => exact ⟨nofun, nofun, .nil, nofun, fun i => by simp⟩
  | @line rows r r' span h hline ih =>
    obtain ⟨hlt, hbytes, -⟩ := nextLine_some hline
    have heq := h.aligned.bytes_eq
    have hstarts := h.aligned.startsLine (heq ▸ hlt)
    refine ih.concat hstarts (heq ▸ wf_row hline) ?_ ?_
    · exact congrArg Span.start (eq_of_nextLine hline).2.1
    · rw [row, hbytes, heq]

/-- What the reader looks for, it looks for line by line. -/
lemma HasRead.next (h : HasRead bytes rows r) :
    ∃ rows', HasRead bytes (rows ++ rows') r.next.2 := by
  fun_induction Reader.next r generalizing rows with
  | case1 r => exact ⟨[], by simpa using h⟩
  | case2 r span r' hline item hitem => exact ⟨_, h.line hline⟩
  | case3 r span r' hline hitem ih =>
    obtain ⟨rows', hrows⟩ := ih (h.line hline)
    exact ⟨row span r' :: rows', by simpa using hrows⟩

lemma HasRead.skip (h : HasRead bytes rows r) (k : Nat) :
    ∃ rows', HasRead bytes (rows ++ rows') (r.skip k) := by
  induction k generalizing rows r with
  | zero => exact ⟨[], by simpa [Reader.skip] using h⟩
  | succ k ih =>
    obtain ⟨rows', hnext⟩ := h.next
    obtain ⟨rows'', hskip⟩ := ih hnext
    exact ⟨rows' ++ rows'', by simpa [Reader.skip] using hskip⟩

/-! ### The end -/

lemma size_le_of_next (h : r.next.1 = none) :
    r.next.2.bytes.size ≤ r.next.2.offset := by
  fun_induction Reader.next r with
  | case1 r hline => exact size_le_of_nextLine hline
  | case2 r span r' hline item hitem => cases h
  | case3 r span r' hline hitem ih => exact ih h

lemma skip_add (j k : Nat) (r : Reader) : r.skip (j + k) = (r.skip j).skip k := by
  induction j generalizing r with
  | zero => rw [Nat.zero_add]; rfl
  | succ j ih => rw [Nat.succ_add, skip, skip, ih]

lemma skip_of_size_le (h : r.bytes.size ≤ r.offset) (k : Nat) : r.skip k = r := by
  induction k with
  | zero => rfl
  | succ k ih => rw [skip, next_of_size_le h, ih]

/-! ### Accesses -/

/-- The bytes from one place up to another one, if these are places of the file in this order. -/
def slice? (bytes : ByteArray) (start stop : Nat) : Option ByteArray :=
  if start ≤ stop ∧ stop ≤ bytes.size then some (bytes.extract start stop) else none

/-- `nextLine` with every access checked; there is no result if one fails. -/
def nextLineChecked (r : Reader) : Option (Option (Span × Reader)) :=
  if r.offset < r.bytes.size then do
    let behind ← slice? r.bytes r.offset r.bytes.size
    let stop := (behind.data.toList.findIdx? (· = lineFeed)).elim r.bytes.size (r.offset + ·)
    let next : Reader := { r with offset := stop + 1, line := r.line + 1 }
    if r.offset < stop then
      let last ← r.bytes[stop - 1]?
      return some (⟨r.offset, if last = carriageReturn then stop - 1 else stop⟩, next)
    else return some (⟨r.offset, stop⟩, next)
  else some none

/-- `next` with every access checked and no more than `n` lines to look at. -/
def nextChecked : Nat → Reader → Option (Option Item × Reader)
  | 0, _ => none
  | n + 1, r => do
    match ← r.nextLineChecked with
    | none => return (none, r)
    | some (span, r') =>
      let text ← slice? r'.bytes span.start span.stop
      match lineItem r'.line text with
      | some item => return (some item, r')
      | none => nextChecked n r'

lemma slice?_of_le (h : start ≤ stop) (hstop : stop ≤ bytes.size) :
    slice? bytes start stop = some (bytes.extract start stop) :=
  if_pos ⟨h, hstop⟩

lemma toList_extract_size (bytes : ByteArray) (i : Nat) :
    (bytes.extract i bytes.size).data.toList = bytesFrom bytes i := by
  simp [bytesFrom, List.extract_eq_take_drop]

lemma elim_findIdx?_bytesFrom (h : i ≤ bytes.size) :
    ((bytesFrom bytes i).findIdx? (· = lineFeed)).elim bytes.size (i + ·) = lineEnd bytes i := by
  fun_induction lineEnd bytes i with
  | case1 i hi hb => simp [bytesFrom_eq_cons hi, List.findIdx?_cons, hb]
  | case2 i hi hb ih =>
    rw [← ih (by omega), bytesFrom_eq_cons hi, List.findIdx?_cons, if_neg (by simpa using hb)]
    cases (bytesFrom bytes (i + 1)).findIdx? (· = lineFeed) with
    | none => rfl
    | some n => simp only [Option.map_some, Option.elim_some]; omega
  | case3 i hi => rw [bytesFrom_eq_nil (by omega)]; rfl

lemma nextLineChecked_eq (r : Reader) : r.nextLineChecked = some r.nextLine := by
  unfold nextLineChecked nextLine
  split
  · rename_i hlt
    have hle := lineEnd_le r.bytes r.offset
    rw [slice?_of_le (Nat.le_of_lt hlt) (Nat.le_refl _)]
    simp only [Option.bind_eq_bind, Option.bind_some, toList_extract_size,
      elim_findIdx?_bytesFrom (Nat.le_of_lt hlt)]
    split
    · rename_i hpos
      rw [getElem?_pos r.bytes _ (by omega), textEnd, dif_pos ⟨hpos, hle⟩]
      rfl
    · rename_i hpos
      rw [textEnd, dif_neg fun h => hpos h.1]
      rfl
  · rfl

lemma slice?_text (h : r.nextLine = some (span, r')) :
    slice? r'.bytes span.start span.stop = some (r.bytes.extract span.start span.stop) := by
  rw [(nextLine_some h).2.1]
  exact slice?_of_le (wf_row h).start_le_stop (wf_row h).stop_le_size

lemma nextChecked_eq {n : Nat} (h : r.remaining < n) : nextChecked n r = some r.next := by
  fun_induction Reader.next r generalizing n with
  | case1 r hline =>
    cases n with
    | zero => omega
    | succ n => simp [nextChecked, nextLineChecked_eq, hline]
  | case2 r span r' hline item hitem =>
    cases n with
    | zero => omega
    | succ n => simp [nextChecked, nextLineChecked_eq, hline, slice?_text hline, hitem]
  | case3 r span r' hline hitem ih =>
    have hlt := remaining_lt_of_nextLine hline
    cases n with
    | zero => omega
    | succ n =>
      rw [← ih (show r'.remaining < n by omega)]
      simp [nextChecked, nextLineChecked_eq, hline, slice?_text hline, hitem]

/-- **A reader stays aligned with the lines of its file**, whatever the file holds and however often
it is asked for an item. -/
theorem reader_stays_aligned (bytes : ByteArray) :
    (∀ k, ∃ rows, HasRead bytes rows (skip k { bytes })) ∧
    (∀ rows r, HasRead bytes rows r →
      Aligned bytes r ∧ Cut bytes rows r.offset ∧
      (r.nextLineChecked = some r.nextLine ∧
        ∀ n, r.remaining < n → nextChecked n r = some r.next) ∧
      (∀ span r', r.nextLine = some (span, r') → r.offset < r'.offset) ∧
      (r.nextLine = none → ∀ i < bytes.size, rows.countP (·.holds i) = 1)) ∧
    ∀ k, (skip k { bytes }).next.1 = none →
      (skip (k + 1) { bytes }).nextLine = none ∧
        ∀ m, (skip (k + 1 + m) { bytes }).next = (none, skip (k + 1) { bytes }) := by
  refine ⟨fun k => HasRead.beginning.skip k, fun rows r h => ?_, fun k hnone => ?_⟩
  · refine ⟨h.aligned, h.cut, ⟨nextLineChecked_eq r, fun n => nextChecked_eq⟩, ?_, ?_⟩
    · exact fun span r' hline => (nextLine_some hline).2.2.1
    · intro hline i hi
      have hsize := size_le_of_nextLine hline
      rw [h.aligned.bytes_eq] at hsize
      rw [h.cut.holds, if_pos ⟨by omega, hi⟩]
  · have hskip : skip (k + 1) { bytes } = (skip k { bytes }).next.2 := skip_add k 1 _
    have hsize := size_le_of_next hnone
    rw [← hskip] at hsize
    refine ⟨if_neg (Nat.not_lt.2 hsize), fun m => ?_⟩
    rw [skip_add, skip_of_size_le hsize, next_of_size_le hsize]

/-- Two blank lines with a carriage return. Only the first one has a line feed. -/
def twoReturns : ByteArray := ⟨#[carriageReturn, lineFeed, carriageReturn]⟩

/-- Behind both lines the offset is one more than the size. -/
theorem reader_stays_aligned_returns :
    let rows : List Row := [⟨⟨0, 0⟩, 2⟩, ⟨⟨2, 2⟩, 3⟩]
    let r : Reader := { bytes := twoReturns, offset := 4, line := 2 }
    HasRead twoReturns rows r ∧ Nat.count (StartsLine twoReturns) 4 = 2 ∧
    ∀ i < twoReturns.size, rows.countP (·.holds i) = 1 := by
  intro rows r
  have hline {r r' : Reader} {span : Span} (h : r.nextLineChecked = some (some (span, r'))) :
      r.nextLine = some (span, r') :=
    Option.some.inj ((nextLineChecked_eq r).symm.trans h)
  have hfirst : nextLine { bytes := twoReturns } =
      some (⟨0, 0⟩, { bytes := twoReturns, offset := 2, line := 1 }) := hline rfl
  have hsecond : nextLine { bytes := twoReturns, offset := 2, line := 1 } =
      some (⟨2, 2⟩, { bytes := twoReturns, offset := 4, line := 2 }) := hline rfl
  have hread : HasRead twoReturns rows r := (HasRead.beginning.line hfirst).line hsecond
  obtain ⟨haligned, -, -, -, hcovered⟩ := (reader_stays_aligned twoReturns).2.1 rows r hread
  exact ⟨hread, haligned.line.symm, hcovered (if_neg (by decide))⟩

end Reader

end FourReg.Source
