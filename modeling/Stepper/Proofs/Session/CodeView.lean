import Stepper.Proofs.Config.Valid
import Stepper.Proofs.Session.Program
import Stepper.Proofs.View.Window
import Stepper.Session.Views

/-! The current line in the view of the code. The view has it, once and alone marked as current, where the window
around it holds it; a window that looks back as far as it is long can lose it. -/

namespace Stepper

open Asm Text

namespace Session

/-- No command changes the layout. -/
theorem after_layout (s : Session) (c : Command) : (s.after c).layout = s.layout := by
  cases c with
  | load d r =>
    rw [after]
    unfold load start
    cases h : (s.machine.load d r.path r.pcStart r.spStart).result with
    | error cause => simp [h, Outcome.error]
    | ok _ => simp [h, Outcome.ok, clearFields]
  | reset d =>
    rw [after]
    unfold reset start
    cases hr : s.request with
    | none => rfl
    | some r =>
      cases h : (s.machine.load d r.path r.pcStart r.spStart).result with
      | error cause => simp [h, Outcome.error]
      | ok _ => simp [h, Outcome.ok]
  | step =>
    obtain ⟨e, he⟩ := s.step_state
    rw [after, he]
    rfl
  | activate target => rfl
  | releaseFocus => rfl
  | typeText t => rfl
  | press key =>
    rcases s.press_state key with hs | hs | ⟨fields, hs⟩
    · rw [after, hs]
    · obtain ⟨e, fields, hcommit⟩ := s.commit_state
      rw [after, hs, hcommit]
    · rw [after, hs]
  | commit =>
    obtain ⟨e, fields, hcommit⟩ := s.commit_state
    rw [after, hcommit]

theorem runs_layout (s : Session) (commands : List Command) : (s.runs commands).layout = s.layout := by
  induction commands using List.reverseRecOn with
  | nil => rfl
  | append_singleton commands c ih => rw [runs_append, ← ih]; exact after_layout _ c

variable {s : Session} {i : Nat} {line : Text}

theorem codeLine?_eq (hi : s.currentIndex = some (i : Int)) (hline : s.machine.code[i]? = some line) :
    s.codeLine? i = some ⟨i, s.machine.codeStart + i * instructionSize, line, true⟩ := by
  simp [codeLine?, hi, hline]

theorem not_current_of_ne (hi : s.currentIndex = some (i : Int)) {k : Nat} (hk : k ≠ i) :
    (s.codeLine? k).filter (·.current) = none := by
  unfold codeLine?
  cases s.machine.code[k]? with
  | none => rfl
  | some other =>
    have hne : ¬ s.currentIndex = some (k : Int) := by
      rw [hi]
      simpa using hk.symm
    simp [hne, Option.filter]

/-- Of the rows of some lines only the one of the current line is marked. -/
theorem filter_current (hi : s.currentIndex = some (i : Int)) (hline : s.machine.code[i]? = some line) {is : List Nat}
    (his : is.Nodup) :
    (is.filterMap s.codeLine?).filter (·.current) =
      if i ∈ is then [⟨i, s.machine.codeStart + i * instructionSize, line, true⟩] else [] := by
  have hother : ∀ k, (s.codeLine? k).filter (·.current) = if k = i then s.codeLine? i else none := by
    intro k
    by_cases hk : k = i
    · rw [if_pos hk, hk, codeLine?_eq hi hline]
      rfl
    · rw [if_neg hk, not_current_of_ne hi hk]
  have hrows : (is.filterMap s.codeLine?).filter (·.current) = (is.filter (· = i)).filterMap s.codeLine? := by
    rw [List.filter_filterMap, List.filterMap_filter]
    refine List.filterMap_congr fun k _ => ?_
    rw [hother k]
    by_cases hk : k = i
    · simp [hk]
    · simp [hk]
  rw [hrows, List.filter_eq, his.count]
  split
  · simp [codeLine?_eq hi hline]
  · simp

theorem filter_current_codeInView (hi : s.currentIndex = some (i : Int)) (hline : s.machine.code[i]? = some line) :
    s.codeInView.filter (·.current) =
      if i ∈ s.codeWindow.indices then [⟨i, s.machine.codeStart + i * instructionSize, line, true⟩] else [] :=
  filter_current hi hline s.codeWindow.nodup_indices

/-- No more than one row is marked, wherever the program counter is. -/
theorem length_filter_current_le_one (s : Session) {is : List Nat} (his : is.Nodup) :
    ((is.filterMap s.codeLine?).filter (·.current)).length ≤ 1 := by
  by_cases h : ∃ i : Nat, s.currentIndex = some (i : Int) ∧ ∃ line, s.machine.code[i]? = some line
  · obtain ⟨i, hi, line, hline⟩ := h
    rw [filter_current hi hline his]
    split <;> simp
  · have hnone : (is.filterMap s.codeLine?).filter (·.current) = [] := by
      rw [List.filter_eq_nil_iff]
      intro l hl hcurrent
      obtain ⟨k, -, hk⟩ := List.mem_filterMap.1 hl
      obtain ⟨line, hline, rfl⟩ := Option.map_eq_some_iff.1 hk
      exact h ⟨k, of_decide_eq_true hcurrent, line, hline⟩
    rw [hnone]
    exact Nat.zero_le 1

end Session

/-- In a session with the layout of a decoded configuration, whose program counter is at a line of the code, that line
is the only row in view that is marked, if the code fits into the view, if the line is one of the first that fit, or
if it is not the last one and the view looks back over fewer lines than it shows. Otherwise no row is marked. -/
theorem current_line_is_in_view {j : JsonValue} {c : Config} (hc : Config.decode j = .ok c) {s : Session}
    (hs : s.layout = c.layout) {i : Nat} {line : Text} (hi : s.currentIndex = some (i : Int))
    (hline : s.machine.code[i]? = some line) :
    s.codeInView.filter (·.current) =
      if (s.machine.code.length : Int) ≤ c.codeLines ∨ (i : Int) < c.codeLines ∨
          c.lookBehind < c.codeLines ∧ i + 1 < s.machine.code.length
      then [⟨i, s.machine.codeStart + i * instructionSize, line, true⟩] else [] := by
  have hvalid := Config.valid_of_decode hc
  have hlen : (i : Int) < s.machine.code.length := by
    exact_mod_cast (List.getElem?_eq_some_iff.1 hline).1
  have hwindow : s.codeWindow = .around i s.machine.code.length c.codeLines c.lookBehind := by
    simp [Session.codeWindow, hi, hs, Config.layout]
  rw [Session.filter_current_codeInView hi hline, hwindow]
  refine if_congr ?_ rfl rfl
  rw [Window.focus_mem_around_iff hvalid.codeLines hvalid.lookBehind hlen]
  norm_cast

/-- A configuration for a view of one line, which still looks back over five. -/
def narrowConfig : JsonValue := .obj [("code_lines", .int 1)]

theorem decode_narrowConfig : Config.decode narrowConfig = .ok { Config.standard with codeLines := 1 } := by
  have hknown : Config.unknownKeys [("code_lines", .int 1)] = [] := by
    have hnone : ([("code_lines".toList, JsonValue.int 1)].map (·.1)).filter (!Config.keys.contains ·) = [] := by decide
    rw [Config.unknownKeys, hnone, List.mergeSort_nil]
  simp only [narrowConfig, Config.decode, Config.ofMembers, hknown]
  rfl

def threeLinesText : Text := "1000: 00000000   nop\n1004: 00000000   nop\n1008: 00000000   nop\n"

def threeLinesDevice : Device where
  working := "/"
  scratch := []
  room := 0x10000
  depth := 100
  nodes := [(["three.lst".toList], .file (Utf8.encode threeLinesText))]

/-- The program is entered at its second line. -/
def threeLinesRequest : LoadRequest := ⟨"three.lst", 0x1004, 0x100C, 0x8000⟩

theorem program?_threeLines :
    Emulator.program? threeLinesDevice "three.lst" 0x1004 = some ⟨some 0x1000, ["nop", "nop", "nop"], []⟩ := by
  have hread : Emulator.readText threeLinesDevice "three.lst" = .ok threeLinesText :=
    Emulator.readText_of_encoded (by decide) (by decide) (by decide)
  have hlines : lines threeLinesText =
      ["1000: 00000000   nop".toList, "1004: 00000000   nop".toList, "1008: 00000000   nop".toList] := by decide
  have hstrip : ∀ line ∈ lines threeLinesText, stripComment line = line := by
    rw [hlines]
    intro line hline
    refine stripComment_of_commentFree ?_
    revert line
    unfold CommentFree
    decide
  have hlist : (Emulator.listingOf "three.lst" threeLinesText 0x1004).2 = .ok ⟨some 0x1000, ["nop", "nop", "nop"], []⟩ := by
    rw [hlines] at hstrip
    have hfirst := hstrip "1000: 00000000   nop" (by decide)
    have hsecond := hstrip "1004: 00000000   nop" (by decide)
    have hthird := hstrip "1008: 00000000   nop" (by decide)
    have haddressed : isAddressListing threeLinesText = true := by
      rw [isAddressListing, hlines, List.any_cons, Line.read, hfirst]
      rfl
    rw [Emulator.listingOf, if_pos haddressed]
    simp only [Listing.read, hlines, Listing.placeAll, Listing.place, Line.read, hfirst, hsecond, hthird]
    rfl
  rw [Emulator.program?_of_listing hread hlist]
  rfl

/-- The second of three lines is out of view. -/
theorem narrow_view_loses_line :
    let c : Config := { Config.standard with codeLines := 1 }
    let s := Session.reached 0x100 c.layout [.load threeLinesDevice threeLinesRequest]
    Config.decode narrowConfig = .ok c ∧ s.layout = c.layout ∧ s.currentIndex = some 1 ∧
      s.machine.code[1]? = some ("nop" : Text) ∧ s.codeInView.filter (·.current) = [] := by
  intro c s
  obtain ⟨-, hready, -, hmachine⟩ : _ ∧ s.initialized = true ∧ _ ∧ s.machine = _ :=
    (Session.create (Emulator.create 0x100) c.layout).load_of_program? (r := threeLinesRequest) program?_threeLines
      (by decide) (by decide) (by decide)
  have hs : s.layout = c.layout := Session.runs_layout _ _
  have hindex : s.currentIndex = some 1 := by
    rw [Session.currentIndex, if_pos hready, Session.pc, hmachine]
    decide
  have hline : s.machine.code[1]? = some ("nop" : Text) := by
    rw [hmachine]
    rfl
  refine ⟨decode_narrowConfig, hs, hindex, hline, ?_⟩
  rw [current_line_is_in_view decode_narrowConfig hs hindex hline, hmachine]
  decide

end Stepper
