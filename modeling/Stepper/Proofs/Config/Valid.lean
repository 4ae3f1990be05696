import Mathlib.Tactic.Basic
import Stepper.Config.Basic
import Stepper.Proofs.Text.Layout

/-! What is true of every configuration that is decoded: no address is negative, every count has its minimum, and
the name for exports is trimmed and not empty. The standard configuration is one of them. -/

namespace Stepper

/-- No address of a load is negative. -/
structure LoadRequest.Nonneg (r : LoadRequest) : Prop where
  pcStart : 0 ≤ r.pcStart
  pcEnd : 0 ≤ r.pcEnd
  spStart : 0 ≤ r.spStart

namespace Config

open Text

structure Valid (c : Config) : Prop where
  pcStart : 0 ≤ c.pcStart
  pcEnd : 0 ≤ c.pcEnd
  spStart : 0 ≤ c.spStart
  codeLines : 1 ≤ c.codeLines
  lookBehind : 0 ≤ c.lookBehind
  stackLines : 1 ≤ c.stackLines
  inputCapacity : 1 ≤ c.inputCapacity
  exportName : Trimmed c.exportName ∧ c.exportName ≠ []

theorem valid_standard : Valid standard where
  pcStart := by decide
  pcEnd := by decide
  spStart := by decide
  codeLines := by decide
  lookBehind := by decide
  stackLines := by decide
  inputCapacity := by decide
  exportName := by
    refine ⟨⟨fun c hc => ?_, fun c hc => ?_⟩, by decide⟩
    · obtain rfl : 'w' = c := Option.some.inj hc
      decide
    · obtain rfl : 'l' = c := Option.some.inj hc
      decide

/-- A configuration after loads one after the other. -/
def withLoads (c : Config) (rs : List LoadRequest) : Config :=
  rs.foldl withLoad c

/-- A load leaves nothing of the one before it. -/
theorem withLoads_eq (c : Config) (rs : List LoadRequest) : c.withLoads rs = (rs.getLast?.map c.withLoad).getD c := by
  induction rs generalizing c with
  | nil => rfl
  | cons r rs ih =>
    rw [withLoads, List.foldl_cons]
    refine (ih (c.withLoad r)).trans ?_
    cases rs with
    | nil => rfl
    | cons r' rs =>
      rw [List.getLast?_cons_cons, List.getLast?_eq_some_getLast (by simp)]
      rfl

theorem Valid.withLoad {c : Config} (hc : c.Valid) {r : LoadRequest} (hr : r.Nonneg) : (c.withLoad r).Valid where
  pcStart := hr.pcStart
  pcEnd := hr.pcEnd
  spStart := hr.spStart
  codeLines := hc.codeLines
  lookBehind := hc.lookBehind
  stackLines := hc.stackLines
  inputCapacity := hc.inputCapacity
  exportName := hc.exportName

theorem Valid.withLoads {c : Config} (hc : c.Valid) {rs : List LoadRequest} (hrs : ∀ r ∈ rs, r.Nonneg) :
    (c.withLoads rs).Valid := by
  induction rs generalizing c with
  | nil => exact hc
  | cons r rs ih => exact ih (hc.withLoad (hrs r List.mem_cons_self)) fun r hr => hrs r (List.mem_cons_of_mem _ hr)

/-! ### Members -/

theorem nonneg_of_addressOf {key : Text} {j : JsonValue} {n : Int} (h : addressOf key j = .ok n) : 0 ≤ n := by
  unfold addressOf at h
  split at h
  · split at h
    · simp at h
    · obtain rfl := Except.ok.inj h
      omega
  · split at h
    · simp at h
    · split at h
      · simp at h
      · obtain rfl := Except.ok.inj h
        omega
  · simp at h

theorem le_of_countOf {minimum : Int} {key : Text} {j : JsonValue} {n : Int} (h : countOf minimum key j = .ok n) :
    minimum ≤ n := by
  unfold countOf at h
  split at h
  · split at h
    · simp at h
    · obtain rfl := Except.ok.inj h
      omega
  · simp at h

theorem trimmed_of_exportNameOf {key : Text} {j : JsonValue} {t : Text} (h : exportNameOf key j = .ok t) :
    Trimmed t ∧ t ≠ [] := by
  unfold exportNameOf at h
  split at h
  · split at h
    · simp at h
    · next hne =>
      obtain rfl := Except.ok.inj h
      exact ⟨trimmed_trim _, by simpa using hne⟩
  · simp at h

/-- What holds of every decoded value and of the standard one holds of a member. -/
theorem of_memberOr {α : Type} {P : α → Prop} {members : Members} {key : Text}
    {decode : Text → JsonValue → Except ConfigError α} {other a : α}
    (hdecode : ∀ j a, (key, j) ∈ members → decode key j = .ok a → P a) (hother : P other)
    (h : memberOr members key decode other = .ok a) : P a := by
  unfold memberOr at h
  split at h
  · next j hj =>
    obtain ⟨before, after, rfl, -⟩ := List.lookup_eq_some_iff.1 hj
    exact hdecode j a (by simp) h
  · obtain rfl := Except.ok.inj h
    exact hother

theorem exists_of_bind {ε α β : Type} {x : Except ε α} {f : α → Except ε β} {b : β} (h : (x >>= f) = .ok b) :
    ∃ a, x = .ok a ∧ f a = .ok b := by
  cases x with
  | error cause => simp [bind, Except.bind] at h
  | ok a => exact ⟨a, rfl, h⟩

/-- A configuration whose parts are each decoded from their member, or standard. -/
structure Gathered (members : Members) (c : Config) : Prop where
  pcStart : memberOr members "pc_start" addressOf standard.pcStart = .ok c.pcStart
  pcEnd : memberOr members "pc_end" addressOf standard.pcEnd = .ok c.pcEnd
  spStart : memberOr members "sp_start" addressOf standard.spStart = .ok c.spStart
  codeLines : memberOr members "code_lines" (countOf 1) standard.codeLines = .ok c.codeLines
  lookBehind : memberOr members "code_look_behind" (countOf 0) standard.lookBehind = .ok c.lookBehind
  stackLines : memberOr members "stack_lines" (countOf 1) standard.stackLines = .ok c.stackLines
  inputCapacity : memberOr members "input_capacity" (countOf 1) standard.inputCapacity = .ok c.inputCapacity
  exportName : memberOr members "export_name" exportNameOf standard.exportName = .ok c.exportName
  lastFile : memberOr members "last_file" lastFileOf standard.lastFile = .ok c.lastFile

theorem gathered_of_ofMembers {members : Members} {c : Config} (h : ofMembers members = .ok c) : Gathered members c := by
  unfold ofMembers at h
  dsimp only at h
  split at h
  · simp [bind, Except.bind, throw, throwThe, MonadExceptOf.throw] at h
  · obtain ⟨pcStart, hpc, h⟩ := exists_of_bind h
    obtain ⟨pcEnd, hend, h⟩ := exists_of_bind h
    obtain ⟨spStart, hsp, h⟩ := exists_of_bind h
    obtain ⟨codeLines, hcode, h⟩ := exists_of_bind h
    obtain ⟨lookBehind, hbehind, h⟩ := exists_of_bind h
    obtain ⟨stackLines, hstack, h⟩ := exists_of_bind h
    obtain ⟨inputCapacity, hinput, h⟩ := exists_of_bind h
    obtain ⟨exportName, hname, h⟩ := exists_of_bind h
    obtain ⟨lastFile, hfile, h⟩ := exists_of_bind h
    obtain rfl := Except.ok.inj h
    exact ⟨hpc, hend, hsp, hcode, hbehind, hstack, hinput, hname, hfile⟩

theorem valid_of_ofMembers {members : Members} {c : Config} (h : ofMembers members = .ok c) : Valid c := by
  have hc := gathered_of_ofMembers h
  exact {
    pcStart := of_memberOr (fun _ _ _ => nonneg_of_addressOf) valid_standard.pcStart hc.pcStart
    pcEnd := of_memberOr (fun _ _ _ => nonneg_of_addressOf) valid_standard.pcEnd hc.pcEnd
    spStart := of_memberOr (fun _ _ _ => nonneg_of_addressOf) valid_standard.spStart hc.spStart
    codeLines := of_memberOr (fun _ _ _ => le_of_countOf) valid_standard.codeLines hc.codeLines
    lookBehind := of_memberOr (fun _ _ _ => le_of_countOf) valid_standard.lookBehind hc.lookBehind
    stackLines := of_memberOr (fun _ _ _ => le_of_countOf) valid_standard.stackLines hc.stackLines
    inputCapacity := of_memberOr (fun _ _ _ => le_of_countOf) valid_standard.inputCapacity hc.inputCapacity
    exportName := of_memberOr (P := fun t => Trimmed t ∧ t ≠ []) (fun _ _ _ => trimmed_of_exportNameOf)
      valid_standard.exportName hc.exportName }

theorem valid_of_decode {j : JsonValue} {c : Config} (h : decode j = .ok c) : Valid c := by
  unfold decode at h
  split at h
  · exact valid_of_ofMembers h
  · simp at h

end Config

end Stepper
