import FourReg.Proofs.History

/-!
What sessions write to standard output.

A session that is not muted offers each value of its log to standard output once and in order. An
operation ends with the first value that is refused. That value stays in the log, and it is not
offered again.
-/

namespace FourReg.Session

open Machine

variable {s t : Session} {c d : Console} {o : Outcome} {vs : List Int64}

def echoText (vs : List Int64) : String := String.join (vs.map echo)

lemma echoText_append (us vs : List Int64) : echoText (us ++ vs) = echoText us ++ echoText vs := by
  simp [echoText]

/-! ### Values that are written -/

/-- `Echoes vs s c t d`: on the way from `s` to `t` the values `vs` have been put into the log, and
all of them have been written. -/
structure Echoes (vs : List Int64) (s : Session) (c : Console) (t : Session) (d : Console) :
    Prop where
  log : t.state.out = s.state.out ++ vs.toArray
  refusal : d.refusal = c.refusal
  writes : d.writes = c.writes + vs.length
  accepted : ∀ k, c.writes ≤ k → k < d.writes → c.refusal k = none
  out : d.out = c.out ++ echoText vs

namespace Echoes

lemma none (hlog : t.state.out = s.state.out) : Echoes [] s c t (s.traced c) where
  log := by simp [hlog]
  refusal := traced_refusal s c
  writes := traced_writes s c
  accepted k h₁ h₂ := by rw [traced_writes] at h₂; omega
  out := by simp [echoText]

lemma refl (s : Session) (c : Console) : Echoes [] s c s c where
  log := by simp
  refusal := rfl
  writes := rfl
  accepted k h₁ h₂ := by omega
  out := by simp [echoText]

lemma one {v : Int64} (hlog : t.state.out = s.state.out.push v) (hc : c.refusal c.writes = .none) :
    Echoes [v] s c t (s.written c v) where
  log := by simp [hlog]
  refusal := traced_refusal s c
  writes := rfl
  accepted k h₁ h₂ := by
    obtain rfl : k = c.writes := by simp only [written] at h₂; omega
    exact hc
  out := by simp [written, echoText]

lemma trans {us : List Int64} {u : Session} {e : Console} (h₁ : Echoes us s c t d)
    (h₂ : Echoes vs t d u e) : Echoes (us ++ vs) s c u e where
  log := by rw [h₂.log, h₁.log]; simp
  refusal := h₂.refusal.trans h₁.refusal
  writes := by rw [h₂.writes, h₁.writes, List.length_append, Nat.add_assoc]
  accepted k hk hlt := by
    by_cases h : k < d.writes
    · exact h₁.accepted k hk h
    · rw [← h₁.refusal]
      exact h₂.accepted k (by omega) hlt
  out := by rw [h₂.out, h₁.out, echoText_append, String.append_assoc]

end Echoes

/-! ### Operations -/

/-- How an operation ends: all its values are written, or it stops at one that is refused, behind
the instruction that put it out. -/
inductive Echoing (s : Session) (c : Console) (o : Outcome) : Prop
  | written {vs : List Int64} (h : Echoes vs s c o.session o.console)
      (hresult : ∀ pc cause, o.result ≠ .error (.write pc cause))
  | refused {vs : List Int64} {n : Nat} {t : Session} {d : Console} {source : Operand}
      {cause : SystemError} (h : Echoes vs s c t d) (hadv : Advances n s t)
      (hfetch : t.program.fetch t.state.pc = some (.output source))
      (hcause : d.refusal d.writes = some cause)
      (ho : o = ⟨.error (.write t.state.pc cause), t.after (.output source),
        { t.traced d with writes := d.writes + 1 }⟩)

lemma output_of_echoed? {i : Instruction} {v : Int64} (h : s.echoed? i = some v) :
    ∃ source, i = .output source ∧ source.value s.state.registers = v := by
  unfold echoed? at h
  split at h
  · cases h
  · cases i with
    | output source => exact ⟨source, rfl, Option.some.inj h⟩
    | _ => cases h

lemma out_of_silent (hm : s.config.muted = false) {i : Instruction} (h : s.echoed? i = none) :
    (s.state.apply i).out = s.state.out := by
  have hnone : i.output? s.state.registers = none := by simpa [echoed?, hm] using h
  rw [State.out_apply, hnone]
  simp

lemma echoing_exec (hm : s.config.muted = false) (c : Console) : Echoing s c (s.exec c) := by
  rcases exec_cases s c with ⟨-, he⟩ | ⟨i, hi, ⟨hv, he⟩ | ⟨v, hv, hwrite⟩⟩
  · rw [he]
    exact .written (.none rfl) nofun
  · rw [he]
    exact .written (.none (out_of_silent hm hv)) nofun
  · obtain ⟨source, rfl, rfl⟩ := output_of_echoed? hv
    rcases hwrite with ⟨hc, he⟩ | ⟨cause, hc, he⟩
    · rw [he]
      exact .written (.one rfl hc) nofun
    · exact .refused (.refl s c) (.refl s) hi hc he

lemma Echoing.prepend {us : List Int64} {k : Nat} (h : Echoes us s c t d) (hadv : Advances k s t)
    (ho : Echoing t d o) : Echoing s c o := by
  cases ho with
  | written hrest hresult => exact .written (h.trans hrest) hresult
  | refused hrest hadv' hfetch hcause ho =>
    exact .refused (h.trans hrest) (hadv.trans hadv') hfetch hcause ho

lemma echoes_of_exec (hm : s.config.muted = false) (he : s.exec c = ⟨.ok (), t, d⟩) :
    ∃ vs, Echoes vs s c t d := by
  cases echoing_exec hm c with
  | written h hresult => rw [he] at h; exact ⟨_, h⟩
  | refused _ _ _ _ ho => rw [he] at ho; cases ho

/-- **A run** echoes like the instructions it is made of. -/
lemma Ran.echoing {n : Nat} (h : Ran s c n o) (hm : s.config.muted = false) : Echoing s c o := by
  induction h with
  | halted h => exact .written (.refl _ _) nofun
  | exhausted h hl => exact .written (.refl _ _) nofun
  | failed h hl he =>
    rw [← he]
    exact echoing_exec hm _
  | more h hl he _ ih =>
    obtain ⟨vs, hfirst⟩ := echoes_of_exec hm he
    have hone := advances_of_exec h he
    exact .prepend hfirst hone (ih (hone.config ▸ hm))

namespace Operation

/-- The values that an operation puts at the end of the log. Going back to the beginning puts
none. -/
def appended (s : Session) (o : Outcome) : Operation → List Int64
  | exec => o.session.state.out.toList.drop s.state.out.size
  | run => o.session.state.out.toList.drop s.state.out.size
  | reset => []

variable {op : Operation}

lemma appended_eq {us : List Int64} (hop : op ≠ reset)
    (h : o.session.state.out = s.state.out ++ us.toArray) : op.appended s o = us := by
  have hdrop : o.session.state.out.toList.drop s.state.out.size = us := by
    rw [h, Array.toList_append, List.drop_append_of_le_length (by simp)]
    simp
  cases op with
  | exec => exact hdrop
  | run => exact hdrop
  | reset => exact absurd rfl hop

lemma echoing_perform (hm : s.config.muted = false) (hop : op ≠ reset)
    (hp : op.perform s c = some o) : Echoing s c o := by
  cases op with
  | exec =>
    cases hp
    exact echoing_exec hm c
  | run =>
    obtain ⟨n, hr⟩ := exists_ran_of_run hp
    exact hr.echoing hm
  | reset => exact absurd rfl hop

end Operation

/-! ### What an operation writes -/

namespace Echoing

/-- A write error means that a write was refused, and the other way round. -/
lemma failed_iff (h : Echoing s c o) :
    (∃ pc cause, o.result = .error (.write pc cause)) ↔
      ∃ k, c.writes ≤ k ∧ k < o.console.writes ∧ c.refusal k ≠ .none := by
  cases h with
  | written h hresult =>
    constructor
    · rintro ⟨pc, cause, he⟩
      exact absurd he (hresult pc cause)
    · rintro ⟨k, hk, hlt, hrefused⟩
      exact absurd (h.accepted k hk hlt) hrefused
  | refused h _ _ hcause ho =>
    subst ho
    refine ⟨fun _ => ⟨_, ?_, Nat.lt_succ_self _, ?_⟩, fun _ => ⟨_, _, rfl⟩⟩
    · rw [h.writes]
      exact Nat.le_add_right _ _
    · rw [← h.refusal, hcause]
      simp

lemma echoes (h : Echoing s c o) (hresult : ∀ pc cause, o.result ≠ .error (.write pc cause)) :
    ∃ us, Echoes us s c o.session o.console := by
  cases h with
  | written h _ => exact ⟨_, h⟩
  | refused _ _ _ _ ho => exact absurd (congrArg Outcome.result ho) (hresult _ _)

end Echoing

/-! ### Sequences of operations -/

/-- `Course s₀ c₀ s c vs`: completed operations lead from `s₀` to `s` and write to one console all
the way, and `vs` are the values they have put into the log. -/
inductive Course (s₀ : Session) (c₀ : Console) : Session → Console → List Int64 → Prop
  | beginning : Course s₀ c₀ s₀ c₀ []
  | operation {s : Session} {c : Console} {vs : List Int64} {op : Operation} {o : Outcome}
      (h : Course s₀ c₀ s c vs) (hp : op.perform s c = some o) :
      Course s₀ c₀ o.session o.console (vs ++ op.appended s o)

/-- The values that pass if they are offered as the writes with numbers from `n` on. -/
def passed (refusal : Nat → Option SystemError) (n : Nat) (vs : List Int64) : List Int64 :=
  ((vs.zipIdx n).filter fun (_, k) => (refusal k).isNone).map Prod.fst

variable {refusal : Nat → Option SystemError} {n : Nat}

lemma passed_append (us vs : List Int64) :
    passed refusal n (us ++ vs) = passed refusal n us ++ passed refusal (n + us.length) vs := by
  simp [passed, List.zipIdx_append]

lemma passed_eq_self (h : ∀ k, n ≤ k → k < n + vs.length → refusal k = none) :
    passed refusal n vs = vs := by
  have hall : ((vs.zipIdx n).filter fun (_, k) => (refusal k).isNone) = vs.zipIdx n := by
    refine List.filter_eq_self.2 fun ⟨v, k⟩ hk => ?_
    obtain ⟨h₁, h₂, -⟩ := List.mem_zipIdx hk
    simp [h k h₁ (by omega)]
  rw [passed, hall, List.zipIdx_map_fst]

/-- `Offers us c d`: from `c` to `d` each of the values `us` has been offered once. -/
structure Offers (us : List Int64) (c d : Console) : Prop where
  refusal : d.refusal = c.refusal
  writes : d.writes = c.writes + us.length
  out : d.out = c.out ++ echoText (passed c.refusal c.writes us)

lemma Offers.trans {us : List Int64} {e : Console} (h₁ : Offers us c d) (h₂ : Offers vs d e) :
    Offers (us ++ vs) c e where
  refusal := h₂.refusal.trans h₁.refusal
  writes := by rw [h₂.writes, h₁.writes, List.length_append, Nat.add_assoc]
  out := by
    rw [h₂.out, h₁.out, h₁.refusal, h₁.writes, passed_append, echoText_append, String.append_assoc]

lemma Offers.refused {cause : SystemError} (hcause : d.refusal d.writes = some cause) (t : Session)
    (v : Int64) : Offers [v] d { t.traced d with writes := d.writes + 1 } where
  refusal := traced_refusal t d
  writes := rfl
  out := by simp [passed, hcause, echoText]

lemma Echoes.offers (h : Echoes vs s c t d) : Offers vs c d where
  refusal := h.refusal
  writes := h.writes
  out := by
    rw [passed_eq_self, h.out]
    exact fun k hk hlt => h.accepted k hk (h.writes ▸ hlt)

lemma Echoing.offers (h : Echoing s c o) :
    ∃ us : List Int64, o.session.state.out = s.state.out ++ us.toArray ∧ Offers us c o.console := by
  cases h with
  | written h _ => exact ⟨_, h.log, h.offers⟩
  | @refused us n t d source cause h _ _ hcause ho =>
    subst ho
    refine ⟨us ++ [source.value t.state.registers], ?_, h.offers.trans (.refused hcause t _)⟩
    rw [after_state, State.apply, h.log]
    simp

namespace Operation

variable {op : Operation}

lemma exists_advances (hop : op ≠ reset) (hp : op.perform s c = some o) :
    ∃ n, Advances n s o.session := by
  cases op with
  | exec =>
    cases hp
    by_cases hnext : s.next? = none
    · rw [exec_of_halted (next?_eq_none_iff.1 hnext)]
      exact ⟨0, .refl s⟩
    · exact ⟨1, advances_exec hnext c⟩
  | run =>
    obtain ⟨n, hr⟩ := exists_ran_of_run hp
    exact ⟨n, hr.advances⟩
  | reset => exact absurd rfl hop

lemma config_perform (hp : op.perform s c = some o) : o.session.config = s.config := by
  by_cases hop : op = reset
  · subst hop
    cases hp
    rfl
  · obtain ⟨n, hadv⟩ := exists_advances hop hp
    exact hadv.config

lemma offers_perform (hm : s.config.muted = false) (hp : op.perform s c = some o) :
    Offers (op.appended s o) c o.console := by
  by_cases hop : op = reset
  · subst hop
    cases hp
    exact (Echoes.refl s c).offers
  · obtain ⟨us, hlog, h⟩ := (echoing_perform hm hop hp).offers
    rwa [appended_eq hop hlog]

end Operation

/-- **Each value is offered once**, in the order of the log. -/
lemma Course.offers {s₀ : Session} {c₀ : Console} (hm : s₀.config.muted = false)
    (h : Course s₀ c₀ s c vs) : s.config = s₀.config ∧ Offers vs c₀ c := by
  induction h with
  | beginning => exact ⟨rfl, (Echoes.refl s₀ c₀).offers⟩
  | operation _ hp ih =>
    obtain ⟨hconfig, h⟩ := ih
    refine ⟨(Operation.config_perform hp).trans hconfig, h.trans ?_⟩
    exact Operation.offers_perform (hconfig ▸ hm) hp

end FourReg.Session
