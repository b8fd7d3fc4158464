import FourReg.Cli.Interpret
import FourReg.Proofs.Grammar
import Mathlib.Data.List.TakeWhile

/-!
Which arguments of the command are in order, and what they ask for.

An assignment is the name of a register, an equals sign and a numeral, with blanks around either. A
limit is a numeral as it stands.
-/

namespace FourReg

/-! ### Cuts and blanks at the ends -/

namespace Text

variable {cs w : List Char}

lemma splitOnce_eq_some_iff {sep : Char} {s before behind : String} :
    splitOnce sep s = some (before, behind) ↔
      s.toList = before.toList ++ sep :: behind.toList ∧ sep ∉ before.toList := by
  unfold splitOnce
  constructor
  · intro h
    split at h
    · cases h
    · rename_i ch rest hdrop
      cases h
      have hch : ch = sep := by simpa [hdrop] using List.head?_dropWhile_not (· != sep) s.toList
      have hsplit := List.takeWhile_append_dropWhile (p := (· != sep)) (l := s.toList)
      rw [hdrop, hch] at hsplit
      refine ⟨by simp [hsplit], fun hmem => ?_⟩
      rw [String.toList_ofList] at hmem
      simpa using List.mem_takeWhile_imp hmem
  · rintro ⟨hs, hsep⟩
    have hbefore : ∀ ch ∈ before.toList, (ch != sep) = true := by
      intro ch hch
      rw [bne_iff_ne]
      exact fun h => hsep (h ▸ hch)
    rw [hs, List.dropWhile_append_of_pos hbefore, List.takeWhile_append_of_pos hbefore]
    simp

lemma splitOnce_of_toList {sep : Char} {s : String} {before behind : List Char}
    (hs : s.toList = before ++ sep :: behind) (hsep : sep ∉ before) :
    splitOnce sep s = some (String.ofList before, String.ofList behind) :=
  splitOnce_eq_some_iff.2 (by simp [hs, hsep])

/-- The text is `w` with any blanks around it. -/
def Padded (w cs : List Char) : Prop :=
  ∃ lead trail, Blanks lead ∧ Blanks trail ∧ cs = lead ++ (w ++ trail)

lemma padded_trimChars (cs : List Char) : Padded (trimChars cs) cs := by
  refine ⟨cs.takeWhile isBlank, ((cs.dropWhile isBlank).reverse.takeWhile isBlank).reverse,
    fun ch => List.mem_takeWhile_imp, fun ch hch => ?_, ?_⟩
  · exact List.mem_takeWhile_imp (List.mem_reverse.1 hch)
  · rw [trimChars, ← List.reverse_append, List.takeWhile_append_dropWhile, List.reverse_reverse,
      List.takeWhile_append_dropWhile]

lemma dropWhile_blanks_append {gap : List Char} (hgap : Blanks gap) (hw : IsWord w)
    (rest : List Char) : (gap ++ (w ++ rest)).dropWhile isBlank = w ++ rest := by
  obtain ⟨ch, v, rfl⟩ := List.exists_cons_of_ne_nil hw.1
  have hch : isBlank ch = false := hw.2 ch (.head _)
  rw [List.dropWhile_append_of_pos hgap, List.cons_append,
    List.dropWhile_cons_of_neg (by simp [hch])]

/-- **Trimming to a word** takes off the blanks around it. -/
lemma trimChars_eq_iff (hw : IsWord w) : trimChars cs = w ↔ Padded w cs := by
  constructor
  · rintro rfl
    exact padded_trimChars cs
  · rintro ⟨lead, trail, hlead, htrail, rfl⟩
    have hreverse : IsWord w.reverse := ⟨by simp [hw.1], by simpa using hw.2⟩
    have htrail' : Blanks trail.reverse := fun ch hch => htrail ch (List.mem_reverse.1 hch)
    have hdrop := dropWhile_blanks_append htrail' hreverse []
    rw [List.append_nil] at hdrop
    rw [trimChars, dropWhile_blanks_append hlead hw, List.reverse_append, hdrop,
      List.reverse_reverse]

lemma toList_trim (s : String) : (trim s).toList = trimChars s.toList := String.toList_ofList

lemma Padded.notMem (h : Padded w cs) {ch : Char} (hblank : isBlank ch = false) (hw : ch ∉ w) :
    ch ∉ cs := by
  obtain ⟨lead, trail, hlead, htrail, rfl⟩ := h
  have hnot : ∀ gap : List Char, Blanks gap → ch ∉ gap := fun gap hgap hmem => by
    rw [hgap ch hmem] at hblank
    cases hblank
  simp [hnot lead hlead, hnot trail htrail, hw]

end Text

lemma Decimal.Digits.isWord {cs : List Char} (h : Digits cs) : Text.IsWord cs :=
  ⟨h.1, fun ch hch => Text.isBlank_of_isDigit (h.2 ch hch)⟩

lemma Decimal.Numeral.isWord {cs : List Char} {x : Int} (h : Numeral cs x) : Text.IsWord cs := by
  have hsign : ∀ {ch : Char} {ds : List Char}, Text.isBlank ch = false → Digits ds →
      Text.IsWord (ch :: ds) := fun hch hd =>
    ⟨by simp, List.forall_mem_cons.2 ⟨hch, hd.isWord.2⟩⟩
  cases h with
  | unsigned h =>
    cases h with
    | plain hd => exact hd.isWord
    | plus hd => exact hsign (by decide) hd
  | minus hd => exact hsign (by decide) hd

namespace Cli

/-! ### Assignments -/

/-- `Assigns arg r x`: the argument is the name of `r`, an equals sign and a numeral of `x`, with
any blanks around name and numeral. -/
def Assigns (arg : String) (r : Register) (x : Int64) : Prop :=
  ∃ before behind numeral, arg.toList = before ++ '=' :: behind ∧
    Text.Padded r.name.toList before ∧ Text.Padded numeral behind ∧
    Decimal.Numeral numeral x.toInt

lemma ofName?_trim_eq_some_iff {name : String} {r : Register} :
    Register.ofName? (Text.trim name) = some r ↔ Text.Padded r.name.toList name.toList := by
  rw [Register.ofName?_eq_some_iff, ← String.toList_inj, Text.toList_trim,
    Text.trimChars_eq_iff (isWord_register r)]

lemma readInt64_trim_eq_ok_iff {value : String} {x : Int64} :
    Decimal.readInt64 (Text.trim value) = .ok x ↔
      ∃ numeral, Text.Padded numeral value.toList ∧ Decimal.Numeral numeral x.toInt := by
  rw [Decimal.readInt64_eq_ok_iff, Text.toList_trim]
  constructor
  · exact fun h => ⟨_, Text.padded_trimChars _, h⟩
  · rintro ⟨numeral, hpadded, h⟩
    rwa [(Text.trimChars_eq_iff h.isWord).2 hpadded]

lemma equals_notMem {r : Register} {before : List Char} (h : Text.Padded r.name.toList before) :
    '=' ∉ before :=
  h.notMem (by decide) (by cases r <;> decide)

lemma assignment_eq_ok_iff {arg : String} {r : Register} {x : Int64} :
    assignment arg = .ok (r, x) ↔ Assigns arg r x := by
  constructor
  · intro h
    unfold assignment at h
    split at h
    · cases h
    · rename_i name value hsplit
      obtain ⟨harg, -⟩ := Text.splitOnce_eq_some_iff.1 hsplit
      split at h
      · cases h
      · rename_i r' hname
        split at h
        · cases h
        · rename_i x' hvalue
          cases h
          obtain ⟨numeral, hnumeral, hx⟩ := readInt64_trim_eq_ok_iff.1 hvalue
          exact ⟨_, _, numeral, harg, ofName?_trim_eq_some_iff.1 hname, hnumeral, hx⟩
  · rintro ⟨before, behind, numeral, harg, hname, hnumeral, hx⟩
    have hsplit := Text.splitOnce_of_toList harg (equals_notMem hname)
    have hregister : Register.ofName? (Text.trim (String.ofList before)) = some r :=
      ofName?_trim_eq_some_iff.2 (by rwa [String.toList_ofList])
    have hread : Decimal.readInt64 (Text.trim (String.ofList behind)) = .ok x :=
      readInt64_trim_eq_ok_iff.2 ⟨numeral, by rwa [String.toList_ofList], hx⟩
    simp only [assignment, hsplit, hregister, hread]

/-- The registers after assignments, in order. -/
def assigned (v : Registers) (as : List (Register × Int64)) : Registers :=
  as.foldl (fun v a => v.set a.1 a.2) v

lemma assign_eq_ok_iff {arg : String} {v w : Registers} :
    assign v arg = .ok w ↔ ∃ r x, Assigns arg r x ∧ v.set r x = w := by
  rw [assign, map_eq_ok_iff, Prod.exists]
  simp only [assignment_eq_ok_iff]

lemma foldlM_assign_eq_ok_iff {args : List String} {v w : Registers} :
    args.foldlM assign v = .ok w ↔
      ∃ as, List.Forall₂ (fun arg a => Assigns arg a.1 a.2) args as ∧ assigned v as = w := by
  induction args generalizing v with
  | nil => simp [assigned, pure, Except.pure]
  | cons arg args ih =>
    simp only [List.foldlM_cons, bind_eq_ok_iff, assign_eq_ok_iff, ih, List.forall₂_cons_left_iff]
    constructor
    · rintro ⟨u, ⟨r, x, hfirst, rfl⟩, as, hrest, hw⟩
      exact ⟨(r, x) :: as, ⟨(r, x), as, hfirst, hrest, rfl⟩, hw⟩
    · rintro ⟨-, ⟨⟨r, x⟩, as, hfirst, hrest, rfl⟩, hw⟩
      exact ⟨v.set r x, ⟨r, x, hfirst, rfl⟩, as, hrest, hw⟩

/-! ### The configuration -/

/-- `Limited text limit`: where a limit is given, its text is an unsigned numeral, with nothing
around it. -/
inductive Limited : Option String → Option UInt64 → Prop
  | none : Limited none none
  | some {text : String} {limit : UInt64} (h : Decimal.Unsigned text.toList limit.toNat) :
      Limited (some text) (some limit)

lemma stepLimit_eq_ok_iff {text : Option String} {limit : Option UInt64} :
    stepLimit text = .ok limit ↔ Limited text limit := by
  cases text with
  | none =>
    constructor
    · rintro ⟨⟩
      exact .none
    · rintro ⟨⟩
      rfl
  | some text =>
    constructor
    · intro h
      obtain ⟨n, hn, rfl⟩ := map_eq_ok_iff.1 h
      cases hread : Decimal.readUInt64 text with
      | error cause => rw [hread] at hn; cases hn
      | ok m =>
        rw [hread] at hn
        cases hn
        exact .some (Decimal.readUInt64_eq_ok_iff.1 hread)
    · rintro ⟨⟩
      rename_i limit h
      rw [stepLimit, Decimal.readUInt64_eq_ok_iff.2 h]
      rfl

/-- `Asks args v limit`: every assignment and the limit are in order, and they ask for the registers
`v` and for `limit`. Of several values for one register the last one counts. -/
structure Asks (args : Arguments) (v : Registers) (limit : Option UInt64) : Prop where
  registers : ∃ as, List.Forall₂ (fun arg a => Assigns arg a.1 a.2) args.assignments as ∧
    assigned {} as = v
  limit : Limited args.maxSteps limit

def Arguments.configFor (args : Arguments) (v : Registers) (limit : Option UInt64) :
    Session.Config where
  registers := v
  maxSteps := limit
  listing := args.ir
  trace := args.debug

/-- **The arguments make a configuration** exactly if all of them are in order. -/
lemma config_eq_ok_iff {args : Arguments} {config : Session.Config} :
    args.config = .ok config ↔ ∃ v limit, Asks args v limit ∧ args.configFor v limit = config := by
  simp only [Arguments.config, bind_eq_ok_iff, foldlM_assign_eq_ok_iff, stepLimit_eq_ok_iff]
  constructor
  · rintro ⟨v, hv, limit, hlimit, ⟨⟩⟩
    exact ⟨v, limit, ⟨hv, hlimit⟩, rfl⟩
  · rintro ⟨v, limit, ⟨hv, hlimit⟩, rfl⟩
    exact ⟨v, hv, limit, hlimit, rfl⟩

end Cli

end FourReg
