import Stepper.Proofs.Session.Fields
import Stepper.Proofs.Session.Reset
import Stepper.Session.Views

/-! Loads and resets that fail. Where memory has room for the stack a failed load changes nothing but that the session
is not ready any more, and until something starts it again no command changes more than its fields. A load that
fails because memory has no room has already put its program in the place of the one before. -/

namespace Stepper

open Asm Text

/-- A command on a device that has less than `room` bytes for a stack. A load puts the stack pointer at no negative
address. -/
def Command.Over (room : Nat) : Command → Prop
  | .load d r => d.room = room ∧ 0 ≤ r.spStart
  | .reset d => d.room = room
  | _ => True

namespace Session

/-- A load or a reset fails, and this is what it was to load. -/
inductive Fails (s : Session) : Command → Device → LoadRequest → Prop
  | load {d : Device} {r : LoadRequest} {cause : LoadError} (failed : (s.load d r).result = .error cause) :
    Fails s (.load d r) d r
  | reset {d : Device} {r : LoadRequest} {cause : LoadError} (request : s.request = some r)
    (failed : (s.reset d).result = .error cause) : Fails s (.reset d) d r

/-- No command of the list starts the session. -/
def Unstarted (s : Session) (commands : List Command) : Prop :=
  ∀ before c, before ++ [c] <+: commands → ∀ d r, ¬ (s.runs before).Starts c d r

/-- The stack pointer of the load that is remembered, if any, starts at no negative address. -/
def Placed (s : Session) : Prop :=
  ∀ r ∈ s.request, 0 ≤ r.spStart

variable {s : Session} {c : Command} {d : Device} {r : LoadRequest}

theorem fails_iff :
    s.Fails c d r ↔ s.loading? c = some (d, r) ∧
      ∃ cause, (s.machine.load d r.path r.pcStart r.spStart).result = .error cause := by
  constructor
  · rintro (⟨failed⟩ | ⟨request, failed⟩)
    · exact ⟨rfl, _, (s.result_load d r).symm.trans failed⟩
    · exact ⟨by simp [loading?, request], _, (reset_error_iff request _).1 failed⟩
  · rintro ⟨hload, cause, hresult⟩
    cases c with
    | load d' r' =>
      obtain ⟨rfl, rfl⟩ := Prod.mk.inj (Option.some.inj hload)
      exact .load ((s.result_load d' r').trans hresult)
    | reset d' =>
      obtain ⟨r', request, heq⟩ := Option.map_eq_some_iff.1 hload
      obtain ⟨rfl, rfl⟩ := Prod.mk.inj heq
      exact .reset request ((reset_error_iff request cause).2 hresult)
    | step => simp [loading?] at hload
    | activate target => simp [loading?] at hload
    | releaseFocus => simp [loading?] at hload
    | typeText t => simp [loading?] at hload
    | press key => simp [loading?] at hload
    | commit => simp [loading?] at hload

/-- What asks for a load either starts the session or fails. -/
theorem starts_or_fails (h : s.loading? c = some (d, r)) : s.Starts c d r ∨ s.Fails c d r := by
  cases hresult : (s.machine.load d r.path r.pcStart r.spStart).result with
  | error cause => exact .inr (fails_iff.2 ⟨h, cause, hresult⟩)
  | ok _ => exact .inl (starts_iff.2 ⟨h, hresult⟩)

/-- A failed load touches only the machine and whether the session is ready. -/
theorem after_of_fails (h : s.Fails c d r) :
    s.after c = { s with
      machine := (s.machine.load d r.path r.pcStart r.spStart).state, initialized := false } := by
  obtain ⟨-, cause, hresult⟩ := fails_iff.1 h
  cases h with
  | load failed =>
    rw [after]
    unfold load start
    simp [hresult, Outcome.error, Except.toOption]
  | reset request failed =>
    rw [after]
    unfold reset start
    simp [request, hresult, Outcome.error, Except.toOption]

/-- Where memory has room for the stack, a load fails only if there is no program, and the machine is what it was. -/
theorem after_of_fails_of_room (h : s.Fails c d r) (hsp : 0 ≤ r.spStart) (hsize : 0 ≤ s.machine.stackSize)
    (hroom : Cpu.Fits d.room s.machine.stackSize) : s.after c = { s with initialized := false } := by
  rw [after_of_fails h]
  cases hprogram : Emulator.program? d r.path r.pcStart with
  | none => rw [(s.machine.load_of_none r.spStart hprogram).1]
  | some l =>
    obtain ⟨-, cause, hresult⟩ := fails_iff.1 h
    rw [(s.machine.load_of_program? r.spStart hprogram).2, Emulator.reset_ok hsp hsize hroom] at hresult
    simp [Except.mapError] at hresult

/-- Where memory has no room for the stack that is asked for, a load fails although there is a program. -/
theorem fails_of_full {l : Listing} (h : Emulator.program? d r.path r.pcStart = some l)
    (hfull : ¬ Cpu.Fits d.room (r.spStart - max 0 (r.spStart - s.machine.stackSize))) : s.Fails (.load d r) d r := by
  refine fails_iff.2 ⟨rfl, ?_⟩
  rw [(s.machine.load_of_program? r.spStart h).2]
  cases hreset : (s.machine.cpu.reset r.spStart r.pcStart s.machine.stackSize d.room).2 with
  | error cause => exact ⟨_, rfl⟩
  | ok _ =>
    obtain ⟨n, hbytes⟩ := Cpu.exists_stackBytes hreset
    exact absurd (Cpu.stackBytes_eq_ok hbytes).2 hfull

/-- Then the listing is already the one of that program. -/
theorem listing_of_fails {l : Listing} (h : s.Fails c d r) (hprogram : Emulator.program? d r.path r.pcStart = some l) :
    (s.after c).machine.listing = l := by
  rw [after_of_fails h, (s.machine.load_of_program? r.spStart hprogram).1]

/-! ### What is remembered -/

theorem Placed.after {stackSize : Int} (h : s.Placed) (hs : s.Sound stackSize) (hsize : 0 ≤ stackSize) (c : Command) :
    (s.after c).Placed := by
  by_cases hload : ∃ d r, c = .load d r ∧ (s.load d r).result = .ok ()
  · obtain ⟨d, r, rfl, ok⟩ := hload
    obtain ⟨hload, hresult⟩ := starts_iff.1 (.load ok)
    -- a stack of that size below the stack pointer would not do for a negative one
    obtain ⟨r', hr', hsince⟩ := (hs.after _).since ((after_of_loading hload).2.1 hresult).1
    intro r'' hr''
    obtain rfl := Option.some.inj (hr'.symm.trans hr'')
    have hfilled := hsince.filled
    rw [Cpu.Filled, hsince.top, hsince.bottom] at hfilled
    omega
  · rw [Placed, request_of_other hs fun d r hc ok => hload ⟨d, r, hc, ok⟩]
    exact h

theorem placed_reached {stackSize : Int} (hsize : 0 ≤ stackSize) (layout : Layout) (commands : List Command) :
    (reached stackSize layout commands).Placed := by
  induction commands using List.reverseRecOn with
  | nil => simp [Placed, reached, runs, create]
  | append_singleton commands c ih =>
    rw [reached_snoc]
    exact ih.after (sound_reached stackSize layout commands) hsize c

/-! ### Sessions that are not ready -/

/-- What a session without a program answers: a step and a commit do nothing to the machine, though a commit empties
the fields and releases the focus, and nothing is in view. -/
structure Idle (s : Session) : Prop where
  step : s.step = .ok s [] ⟨false, false, none, none⟩
  commit : s.commit = .ok { s with fields := s.commit.state.fields } [] ⟨none, none⟩
  emptied : ∀ id, (s.commit.state.fields.get id).editor.text = [] ∧ (s.commit.state.fields.get id).editor.cursor = 0
  released : s.commit.state.fields.active = none
  halted : s.isHalted = false
  index : s.currentIndex = none
  window : s.codeWindow = ⟨0, 0⟩ ∧ s.stackWindow = ⟨0, 0⟩
  rows : s.codeInView = [] ∧ s.allCode = [] ∧ s.registerTable = [] ∧ s.stackRows = []

theorem emptied_clearFields (s : Session) (id : FieldId) :
    (s.clearFields.fields.get id).editor.text = [] ∧ (s.clearFields.fields.get id).editor.cursor = 0 := by
  have heditor : (s.clearFields.fields.get id).editor = (s.fields.get id).editor.clear := by
    rw [clearFields, Fields.release, Fields.editor_activate, Fields.clearAll, Fields.get_updateAll]
  rw [heditor]
  exact ⟨rfl, rfl⟩

theorem idle_of_unready (h : s.initialized = false) : s.Idle := by
  have hindex : s.currentIndex = none := by simp [currentIndex, h]
  have hcode : s.codeWindow = ⟨0, 0⟩ := by
    rw [codeWindow, hindex]
    rfl
  have hstack : s.stackWindow = ⟨0, 0⟩ := by
    rw [stackWindow, h]
    rfl
  have hcommit : s.commit = .ok s.clearFields [] ⟨none, none⟩ := by simp [Session.commit, h]
  have hnone : Window.indices ⟨0, 0⟩ = [] := rfl
  refine ⟨step_idle h, by rw [hcommit]; rfl, ?_, ?_, ?_, hindex, ⟨hcode, hstack⟩, ?_⟩
  · rw [hcommit]
    exact s.emptied_clearFields
  · rw [hcommit]
    exact Fields.active_activate _ none
  · unfold isHalted
    cases s.request <;> simp [h]
  · exact ⟨by rw [codeInView, hcode, hnone]; rfl, by simp [allCode, h], by simp [registerTable, h],
      by rw [stackRows, hstack, hnone]; rfl⟩

/-- In a session that is not ready only the fields change, unless a load is asked for. -/
theorem after_of_unready (h : s.initialized = false) (hload : s.loading? c = none) :
    ∃ fields, s.after c = { s with fields := fields } := by
  have hcommit : s.commit.state = { s with fields := s.commit.state.fields } := by
    rw [(idle_of_unready h).commit]
    rfl
  cases c with
  | load d r => simp [loading?] at hload
  | reset d =>
    have hr : s.request = none := by simpa [loading?] using hload
    have hsame : s.after (.reset d) = s := by simp [after, reset, hr, Outcome.ok]
    exact ⟨s.fields, hsame⟩
  | step => exact ⟨s.fields, by rw [after, step_idle h]; rfl⟩
  | activate target => exact ⟨_, rfl⟩
  | releaseFocus => exact ⟨_, rfl⟩
  | typeText t => exact ⟨_, rfl⟩
  | press key =>
    rcases s.press_state key with hs | hs | ⟨fields, hs⟩
    · exact ⟨s.fields, by rw [after, hs]⟩
    · exact ⟨_, by rw [after, hs]; exact hcommit⟩
    · exact ⟨fields, by rw [after, hs]⟩
  | commit => exact ⟨_, hcommit⟩

/-- What fails over some room, from a session whose request is placed, is on a device with that room. -/
theorem Fails.of_over {room : Nat} (h : s.Fails c d r) (hplaced : s.Placed) (hover : c.Over room) :
    d.room = room ∧ 0 ≤ r.spStart := by
  cases h with
  | load _ => exact hover
  | reset request _ => exact ⟨hover, hplaced r request⟩

/-- Where memory has room for the stack, a session that is not ready stays so, and the machine with it, until something
starts it. -/
theorem runs_of_unstarted {room : Nat} (h : s.initialized = false) (hsize : 0 ≤ s.machine.stackSize)
    (hroom : Cpu.Fits room s.machine.stackSize) (hplaced : s.Placed) {commands : List Command}
    (hover : ∀ c ∈ commands, c.Over room) (hun : s.Unstarted commands) :
    ∃ fields, s.runs commands = { s with fields := fields } := by
  induction commands using List.reverseRecOn with
  | nil => exact ⟨s.fields, rfl⟩
  | append_singleton commands c ih =>
    obtain ⟨fields, hruns⟩ := ih (fun c' hmem => hover c' (List.mem_append_left _ hmem))
      fun before c' hfront => hun before c' (hfront.trans (List.prefix_append _ _))
    have hlast := hun commands c (List.prefix_refl _)
    rw [runs_snoc, hruns]
    rw [hruns] at hlast
    cases hload : Session.loading? { s with fields := fields } c with
    | none => exact after_of_unready h hload
    | some p =>
      obtain ⟨d, r⟩ := p
      have hfails := (starts_or_fails hload).resolve_left (hlast d r)
      obtain ⟨hd, hr⟩ := hfails.of_over hplaced (hover c (List.mem_append_right _ (List.mem_singleton_self _)))
      refine ⟨fields, ?_⟩
      rw [after_of_fails_of_room hfails hr hsize (hd ▸ hroom)]
      simp [h]

end Session

open Session

theorem program?_lastSlot : Emulator.program? lastSlotDevice "last.lst" 0xfffffffffffffffc = some lastSlotListing := by
  rw [Emulator.program?_of_listing readText_lastSlot listingOf_lastSlot]
  rfl

/-- Over a machine with a stack of no negative size, and a memory that has less than `room` bytes for it, every load and
every reset that fails is contained if and only if the stack fits: the session is as before but not ready, and commands
of which none starts it leave all of it but its fields alone and are answered as in a session without a program. -/
theorem failed_loads_are_contained_iff {stackSize : Int} (hsize : 0 ≤ stackSize) (room : Nat) :
    (∀ layout before c d r, (reached stackSize layout before).Fails c d r → c.Over room →
      let s := reached stackSize layout before
      s.after c = { s with initialized := false } ∧
      ∀ commands, (∀ c ∈ commands, c.Over room) → (s.after c).Unstarted commands →
        (∃ fields, (s.after c).runs commands = { s with initialized := false, fields := fields }) ∧
        ((s.after c).runs commands).Idle) ↔
      Cpu.Fits room stackSize := by
  constructor
  · intro hcontained
    by_contra hfull
    -- a program that can be read, for a stack that does not fit
    let d : Device := { lastSlotDevice with room := room }
    let r : LoadRequest := { lastSlotRequest with spStart := stackSize }
    have hprogram : Emulator.program? d r.path r.pcStart = some lastSlotListing :=
      (Emulator.program?_congr (d := lastSlotDevice) rfl).trans program?_lastSlot
    have hstack : stackSize - max 0 (stackSize - stackSize) = stackSize := by omega
    have hfails : (reached stackSize Layout.standard []).Fails (.load d r) d r := by
      refine fails_of_full hprogram ?_
      change ¬ Cpu.Fits room (stackSize - max 0 (stackSize - stackSize))
      rwa [hstack]
    have hafter := (hcontained _ _ _ _ _ hfails ⟨rfl, hsize⟩).1
    have hlisting := listing_of_fails hfails hprogram
    rw [hafter] at hlisting
    exact absurd (congrArg Listing.lines hlisting)
      (by simp [reached, runs, create, Emulator.create, Listing.empty, lastSlotListing])
  · intro hroom layout before c d r hfails hover s
    have hmachine : s.machine.stackSize = stackSize := (sound_reached stackSize layout before).size
    rw [← hmachine] at hsize hroom
    have hplaced : s.Placed := placed_reached (hmachine ▸ hsize) layout before
    obtain ⟨hd, hsp⟩ := hfails.of_over hplaced hover
    have hafter : s.after c = { s with initialized := false } := after_of_fails_of_room hfails hsp hsize (hd ▸ hroom)
    refine ⟨hafter, fun commands hcommands hun => ?_⟩
    rw [hafter] at hun ⊢
    obtain ⟨fields, hruns⟩ :=
      runs_of_unstarted (s := { s with initialized := false }) rfl hsize hroom hplaced hcommands hun
    exact ⟨⟨fields, hruns⟩, idle_of_unready (by rw [hruns])⟩

/-- A load of a file that is not there. -/
def missingRequest : LoadRequest := ⟨"none.lst", 0x1000, 0x2000, 0x8000⟩

theorem missing_file_is_contained :
    (0 : Int) ≤ 0x100 ∧
    let s := reached 0x100 Layout.standard [.load lastSlotDevice lastSlotRequest]
    let s' := s.after (.load lastSlotDevice missingRequest)
    s.initialized = true ∧ s' = { s with initialized := false } ∧
      (s'.runs [.step, .commit]).machine = s.machine ∧ (s'.runs [.step, .commit]).Idle := by
  have hsize : (0 : Int) ≤ 0x100 := by decide
  refine ⟨hsize, ?_⟩
  intro s s'
  have hat := atLine_lastSlot.1
  have hfails : s.Fails (.load lastSlotDevice missingRequest) lastSlotDevice missingRequest :=
    fails_iff.2 ⟨rfl, (s.machine.load_of_none _ (by decide)).2⟩
  obtain ⟨hafter, hruns⟩ := (failed_loads_are_contained_iff hsize lastSlotDevice.room).2 (by decide) _ _ _ _ _ hfails
    ⟨rfl, by decide⟩
  have hun : s'.Unstarted [.step, .commit] := by
    intro before c hprefix d r hstart
    have hmem : c ∈ [Command.step, .commit] := hprefix.subset (by simp)
    rcases List.mem_pair.1 hmem with rfl | rfl
    · simpa [loading?] using (starts_iff.1 hstart).1
    · simpa [loading?] using (starts_iff.1 hstart).1
  obtain ⟨⟨fields, hsame⟩, hidle⟩ := hruns [.step, .commit] (by simp [Command.Over]) hun
  exact ⟨hat.ready, hafter, by rw [hsame], hidle⟩

end Stepper
