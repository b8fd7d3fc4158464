import FourReg.Session.Load
import FourReg.Proofs.RoundTrip

/-!
What loading a file gives: the program that its items make, and a listing of the instructions before
the first error. Without its indices, the listing is a source of these instructions.
-/

namespace FourReg.Source

/-- The instructions before the first error. -/
def leading : List Item → List Instruction
  | .ok i :: items => i :: leading items
  | _ => []

lemma collected_eq_ok_iff {items : List Item} {p : Program} :
    collected items = .ok p ↔ items = p.toList.map .ok := by
  constructor
  · intro h
    induction items generalizing p with
    | nil => cases h; rfl
    | cons item items ih =>
      rcases item with e | i
      · cases h
      · rw [collected_ok_cons, map_eq_ok_iff] at h
        obtain ⟨q, hq, rfl⟩ := h
        rw [ih hq]
        simp
  · rintro rfl
    exact collected_map_ok p.toList

lemma leading_spec (items : List Item) :
    ∃ rest, items = (leading items).map .ok ++ rest ∧
      (rest = [] ∧ collected items = .ok (leading items).toArray ∨
        ∃ e items', rest = .error e :: items' ∧ collected items = .error e) := by
  induction items with
  | nil => exact ⟨[], rfl, .inl ⟨rfl, rfl⟩⟩
  | cons item items ih =>
    rcases item with e | i
    · exact ⟨.error e :: items, rfl, .inr ⟨e, items, rfl, rfl⟩⟩
    · obtain ⟨rest, hitems, hrest⟩ := ih
      refine ⟨rest, congrArg (.ok i :: ·) hitems, ?_⟩
      rw [collected_ok_cons]
      rcases hrest with ⟨hrest, hprogram⟩ | ⟨e, items', hrest, hprogram⟩
      · refine .inl ⟨hrest, ?_⟩
        simp [hprogram, leading, Except.map]
      · exact .inr ⟨e, items', hrest, by rw [hprogram]; rfl⟩

end FourReg.Source

namespace FourReg.Session

open Source

def listingFrom (n : Nat) (is : List Instruction) : String :=
  String.join ((is.zipIdx n).map fun (i, k) => listingLine k i)

lemma listingFrom_cons (n : Nat) (i : Instruction) (is : List Instruction) :
    listingFrom n (i :: is) = listingLine n i ++ listingFrom (n + 1) is := by
  simp [listingFrom]

lemma collect_fst (listed : Bool) (listing : String) (p : Program) (items : List Item) :
    (collect listed listing p items).1 =
      listing ++ (if listed then listingFrom p.size (leading items) else "") := by
  fun_induction collect listed listing p items with
  | case1 => cases listed <;> simp [leading, listingFrom]
  | case2 => cases listed <;> simp [leading, listingFrom]
  | case3 listing p i items listing' ih =>
    rw [ih, leading, listingFrom_cons, Array.size_push]
    cases listed <;> simp [listing', String.append_assoc]

lemma collect_snd (listed : Bool) (listing : String) (p : Program) (items : List Item) :
    (collect listed listing p items).2 =
      ((collected items).map (p ++ ·)).mapError .load := by
  fun_induction collect listed listing p items with
  | case1 => simp [collected, Except.map, Except.mapError]
  | case2 => rfl
  | case3 listing p i items listing' ih =>
    rw [ih, collected_ok_cons]
    cases collected items <;> simp [Except.map, Except.mapError]

/-- **Loading a file** gives the session that its program starts, and lists the instructions before
the first error if that is asked for. -/
lemma load_ok (config : Config) (bytes : ByteArray) :
    load config (.ok bytes) =
      (if config.listing then listingFrom 0 (leading (Reader.items { bytes })) else "",
        ((collected (Reader.items { bytes })).map (start config)).mapError .load) := by
  refine Prod.ext ?_ ?_
  · simp only [load, collect_fst, String.empty_append, Array.size_empty]
  · simp only [load, collect_snd]
    cases collected (Reader.items { bytes }) <;> simp [Except.map, Except.mapError]

/-! ### The listing as a source -/

/-- A line of the listing behind its index, which ends with a colon and a space. -/
def withoutIndex (line : List Char) : List Char := (line.dropWhile (· != ':')).drop 2

def withoutIndices (listing : String) : String :=
  String.ofList (['\n'].intercalate ((listing.toList.splitOn '\n').map withoutIndex))

lemma column_spec (k : Nat) :
    ∃ pad, column k = String.ofList (List.replicate pad ' ') ++ Decimal.ofNat k ∧
      (column k).length = max 4 (Decimal.ofNat k).length := by
  refine ⟨4 - (Decimal.ofNat k).length, rfl, ?_⟩
  rw [column, String.length_append, String.length_ofList, List.length_replicate]
  omega

lemma eq_space_or_isDigit_of_mem_column {k : Nat} {ch : Char} (h : ch ∈ (column k).toList) :
    ch = ' ' ∨ ch.isDigit = true := by
  rw [column, String.toList_append, String.toList_ofList] at h
  rcases List.mem_append.1 h with h | h
  · exact .inl (List.eq_of_mem_replicate h)
  · exact .inr (Decimal.isDigit_of_mem_ofNat h)

lemma notMem_column {k : Nat} {ch : Char} (hspace : ch ≠ ' ') (hdigit : ch.isDigit = false) :
    ch ∉ (column k).toList := by
  intro h
  rcases eq_space_or_isDigit_of_mem_column h with h | h
  · exact hspace h
  · rw [hdigit] at h
    cases h

lemma withoutIndex_line (k : Nat) (i : Instruction) :
    withoutIndex (column k ++ ": " ++ i.text).toList = i.text.toList := by
  have hindex : ∀ ch ∈ (column k).toList, (ch != ':') = true := by
    intro ch hch
    rw [bne_iff_ne]
    rintro rfl
    exact notMem_column (by decide) (by decide) hch
  rw [withoutIndex, String.toList_append, String.toList_append, List.append_assoc,
    List.dropWhile_append_of_pos hindex]
  rfl

lemma notMem_line (k : Nat) (i : Instruction) :
    '\n' ∉ (column k ++ ": " ++ i.text).toList := by
  simp only [String.toList_append, List.mem_append, not_or]
  exact ⟨⟨notMem_column (by decide) (by decide), by decide⟩,
    notMem_text '\n' (by decide) (by decide) i⟩

/-- The listing is the text of its instructions, behind the indices. -/
lemma withoutIndices_listingFrom (n : Nat) (is : List Instruction) :
    withoutIndices (listingFrom n is) = String.join (is.map fun i => i.text ++ "\n") := by
  induction is generalizing n with
  | nil => rfl
  | cons i is ih =>
    have hline : (listingLine n i).toList = (column n ++ ": " ++ i.text).toList ++ ['\n'] :=
      String.toList_append
    have hlines : (listingFrom n (i :: is)).toList.splitOn '\n' =
        (column n ++ ": " ++ i.text).toList :: (listingFrom (n + 1) is).toList.splitOn '\n' := by
      rw [listingFrom_cons, String.toList_append, hline, List.append_assoc]
      exact List.splitOn_append_cons_self_of_not_mem (notMem_line n i) _
    have hrest : ((listingFrom (n + 1) is).toList.splitOn '\n').map withoutIndex ≠ [] := by
      simp
    rw [List.map_cons, String.join_cons, ← ih (n + 1), withoutIndices, hlines, List.map_cons,
      withoutIndex_line, List.intercalate_cons_of_ne_nil hrest]
    simp [withoutIndices, String.append_assoc]

lemma program_withoutIndices (n : Nat) (is : List Instruction) :
    (Reader.ofText (withoutIndices (listingFrom n is))).program = .ok is.toArray := by
  rw [withoutIndices_listingFrom, program_listing]

/-- **Loading agrees with reading**: a session is loaded from the program of a file and refused with
the error that refuses the program. What is listed on the way, if anything, is the instructions
before that error, each behind its index, and it reads back as them. -/
theorem load_agrees_with_reading (config : Config) :
    (∀ file : Except Source.Error ByteArray,
      (load config file).2 =
        ((file.bind fun bytes => Reader.program { bytes }).map (start config)).mapError .load) ∧
    (∀ e, (load config (.error e)).1 = "") ∧
    (∀ bytes : ByteArray, ∃ (is : List Instruction) (rest : List Item) (listing : String),
      Reader.items { bytes } = is.map .ok ++ rest ∧
      (rest = [] ∧ Reader.program { bytes } = .ok is.toArray ∨
        ∃ e items, rest = .error e :: items ∧ Reader.program { bytes } = .error e) ∧
      listing = String.join (is.zipIdx.map fun (i, k) => column k ++ ": " ++ i.text ++ "\n") ∧
      (load config (.ok bytes)).1 = (if config.listing then listing else "") ∧
      (Reader.ofText (withoutIndices listing)).program = .ok is.toArray) ∧
    ∀ k, ∃ pad, column k = String.ofList (List.replicate pad ' ') ++ Decimal.ofNat k ∧
      (column k).length = max 4 (Decimal.ofNat k).length := by
  refine ⟨fun file => ?_, fun e => rfl, fun bytes => ?_, column_spec⟩
  · cases file with
    | error e => rfl
    | ok bytes =>
      rw [load_ok]
      simp only [Except.bind, Reader.program_eq_collected]
  · obtain ⟨rest, hitems, hrest⟩ := leading_spec (Reader.items { bytes })
    refine ⟨leading (Reader.items { bytes }), rest, _, hitems, ?_, rfl, ?_, ?_⟩
    · rw [Reader.program_eq_collected]
      exact hrest
    · rw [load_ok]
      rfl
    · exact program_withoutIndices 0 _

end FourReg.Session
