import Stepper.Proofs.Session.Program

/-! The machine of a session between two loads. The last load or reset that went well decides its program, its
stack and the first values of its registers; until the next one a register that was written stays marked. -/

namespace Stepper

open Asm Text

namespace Session

/-- A load or a reset goes well, and this is what it loads. -/
inductive Starts (s : Session) : Command → Device → LoadRequest → Prop
  | load {d : Device} {r : LoadRequest} (ok : (s.load d r).result = .ok ()) : Starts s (.load d r) d r
  | reset {d : Device} {r : LoadRequest} (request : s.request = some r) (ok : (s.reset d).result = .ok true) :
    Starts s (.reset d) d r

/-- The machine is set up anew, as the program of the load can be read. The load may still fail for its stack. -/
def SetsUp (s : Session) (c : Command) : Prop :=
  ∃ d r, s.loading? c = some (d, r) ∧ (Emulator.program? d r.path r.pcStart).isSome = true

variable {s : Session} {c : Command} {d : Device} {r : LoadRequest}

theorem starts_iff :
    s.Starts c d r ↔
      s.loading? c = some (d, r) ∧ (s.machine.load d r.path r.pcStart r.spStart).result = .ok () := by
  constructor
  · rintro (⟨ok⟩ | ⟨request, ok⟩)
    · refine ⟨rfl, ?_⟩
      unfold load start at ok
      cases hload : (s.machine.load d r.path r.pcStart r.spStart).result with
      | error cause => simp [hload, Outcome.error] at ok
      | ok _ => rfl
    · refine ⟨by simp [loading?, request], ?_⟩
      unfold reset start at ok
      cases hload : (s.machine.load d r.path r.pcStart r.spStart).result with
      | error cause => simp [request, hload, Outcome.error] at ok
      | ok _ => rfl
  · rintro ⟨hload, ok⟩
    cases c with
    | load d' r' =>
      obtain ⟨rfl, rfl⟩ := Prod.mk.inj (Option.some.inj hload)
      refine .load ?_
      simp [Session.load, start, ok, Outcome.ok]
    | reset d' =>
      obtain ⟨r', request, heq⟩ := Option.map_eq_some_iff.1 hload
      obtain ⟨rfl, rfl⟩ := Prod.mk.inj heq
      refine .reset request ?_
      simp [Session.reset, start, request, ok, Outcome.ok]
    | step => simp [loading?] at hload
    | activate target => simp [loading?] at hload
    | releaseFocus => simp [loading?] at hload
    | typeText t => simp [loading?] at hload
    | press key => simp [loading?] at hload
    | commit => simp [loading?] at hload

theorem load_ok_of_ready (h : (s.load d r).state.initialized = true) : (s.load d r).result = .ok () := by
  have hload : s.loading? (.load d r) = some (d, r) := rfl
  cases hresult : (s.machine.load d r.path r.pcStart r.spStart).result with
  | error cause =>
    have hready := ((after_of_loading hload).2.2 cause hresult).1
    rw [after, h] at hready
    simp at hready
  | ok _ =>
    cases starts_iff.2 ⟨hload, hresult⟩ with
    | load ok => exact ok

/-- What starts a session has a program to set it up with. -/
theorem Starts.program (h : s.Starts c d r) :
    ∃ l, Emulator.program? d r.path r.pcStart = some l ∧ (s.after c).machine.listing = l := by
  obtain ⟨hload, hresult⟩ := starts_iff.1 h
  cases hprogram : Emulator.program? d r.path r.pcStart with
  | none =>
    obtain ⟨-, cause, hcause⟩ := s.machine.load_of_none r.spStart hprogram
    simp [hcause] at hresult
  | some l =>
    obtain ⟨hstate, -⟩ := s.machine.load_of_program? r.spStart hprogram
    exact ⟨l, rfl, by rw [(after_of_loading hload).1, hstate]⟩

theorem Starts.setsUp (h : s.Starts c d r) : s.SetsUp c := by
  obtain ⟨l, hprogram, -⟩ := h.program
  exact ⟨d, r, (starts_iff.1 h).1, by rw [hprogram]; rfl⟩

/-- A command that sets nothing up continues with the machine, and a session is not ready through it. -/
theorem after_of_not_setsUp (hs : s.initialized = true → s.machine.cpu.Filled) (h : ¬ s.SetsUp c) :
    s.machine.Continues (s.after c).machine ∧
      ((s.after c).initialized = true → s.initialized = true ∧ (s.after c).request = s.request) := by
  cases hload : s.loading? c with
  | none =>
    have hc := continues_of_not_loading hs hload
    exact ⟨hc.machine, fun hready => ⟨hc.initialized ▸ hready, hc.request⟩⟩
  | some p =>
    obtain ⟨d, r⟩ := p
    have hprogram : Emulator.program? d r.path r.pcStart = none := by
      by_contra hne
      exact h ⟨d, r, hload, Option.isSome_iff_ne_none.2 hne⟩
    obtain ⟨hmachine, -, herror⟩ := after_of_loading hload
    obtain ⟨hstate, cause, hresult⟩ := s.machine.load_of_none r.spStart hprogram
    refine ⟨by rw [hmachine, hstate]; exact .refl _, fun hready => ?_⟩
    simp [(herror cause hresult).1] at hready

/-! ### Runs -/

variable {stackSize : Int} {layout : Layout}

/-- Nothing is set up by the commands that follow. -/
def Settled (s : Session) (commands : List Command) : Prop :=
  ∀ before c, before ++ [c] <+: commands → ¬ (s.runs before).SetsUp c

theorem settled_snoc {commands : List Command} :
    s.Settled (commands ++ [c]) ↔ s.Settled commands ∧ ¬ (s.runs commands).SetsUp c := by
  constructor
  · exact fun h => ⟨fun before c' hc => h before c' (hc.trans (List.prefix_append _ _)), h commands c (List.prefix_refl _)⟩
  · rintro ⟨h, hlast⟩ before c' hc
    rcases List.prefix_concat_iff.1 hc with heq | hc
    · obtain ⟨rfl, hsame⟩ := List.append_inj' heq rfl
      obtain rfl := List.singleton_inj.1 hsame
      exact hlast
    · exact h before c' hc

theorem Settled.behind {a b : List Command} (h : s.Settled (a ++ b)) : (s.runs a).Settled b := by
  intro before c hc
  rw [← runs_append]
  exact h (a ++ before) c (by rwa [List.append_assoc, List.prefix_append_right_inj])

theorem runs_snoc (s : Session) (commands : List Command) (c : Command) :
    s.runs (commands ++ [c]) = (s.runs commands).after c :=
  runs_append _ _ _

theorem reached_append (stackSize : Int) (layout : Layout) (a b : List Command) :
    reached stackSize layout (a ++ b) = (reached stackSize layout a).runs b :=
  runs_append _ _ _

theorem Sound.runs (h : s.Sound stackSize) (commands : List Command) : (s.runs commands).Sound stackSize := by
  induction commands using List.reverseRecOn with
  | nil => exact h
  | append_singleton commands c ih =>
    rw [runs_snoc]
    exact ih.after c

theorem continues_of_settled (h : s.Sound stackSize) {commands : List Command} (hsettled : s.Settled commands) :
    s.machine.Continues (s.runs commands).machine := by
  induction commands using List.reverseRecOn with
  | nil => exact .refl _
  | append_singleton commands c ih =>
    obtain ⟨hbefore, hlast⟩ := settled_snoc.1 hsettled
    rw [runs_snoc]
    exact (ih hbefore).trans (after_of_not_setsUp (h.runs commands).filled hlast).1

/-- A ready session was started, and nothing was set up since. -/
theorem exists_start (commands : List Command) (h : (reached stackSize layout commands).initialized = true) :
    ∃ before c after d r, commands = before ++ c :: after ∧ (reached stackSize layout before).Starts c d r ∧
      ((reached stackSize layout before).after c).Settled after ∧
      (reached stackSize layout commands).request = some r := by
  induction commands using List.reverseRecOn with
  | nil => simp [reached, runs, create] at h
  | append_singleton commands c ih =>
    rw [reached_snoc] at h ⊢
    by_cases hset : (reached stackSize layout commands).SetsUp c
    · obtain ⟨d, r, hload, -⟩ := hset
      obtain ⟨-, hok, herror⟩ := after_of_loading hload
      have hresult : ((reached stackSize layout commands).machine.load d r.path r.pcStart r.spStart).result = .ok () := by
        cases hresult : ((reached stackSize layout commands).machine.load d r.path r.pcStart r.spStart).result with
        | error cause => simp [(herror cause hresult).1] at h
        | ok _ => rfl
      refine ⟨commands, c, [], d, r, rfl, starts_iff.2 ⟨hload, hresult⟩, ?_, (hok hresult).2⟩
      intro before c' hc
      simp at hc
    · have hfilled := (sound_reached stackSize layout commands).filled
      obtain ⟨hready, hrequest⟩ := (after_of_not_setsUp hfilled hset).2 h
      obtain ⟨before, c₀, after, d, r, rfl, hstart, hsettled, hr⟩ := ih hready
      refine ⟨before, c₀, after ++ [c], d, r, by simp, hstart, settled_snoc.2 ⟨hsettled, ?_⟩, hrequest.trans hr⟩
      rwa [reached_append] at hset

end Session

open Session

/-- In a ready session the machine has the program of the last load or reset that went well, at most 500 lines of it,
and a stack below the start of the stack pointer; a register that is not marked has its first value, and one that was
marked since then still is. Between any two set-ups, ready or not, no mark is taken back. -/
theorem machine_is_that_of_last_start (stackSize : Int) (layout : Layout) (commands : List Command) :
    let s := reached stackSize layout commands
    (s.initialized = true →
      ∃ before c after d r, commands = before ++ c :: after ∧ (reached stackSize layout before).Starts c d r ∧
        (∀ mid c', mid ++ [c'] <+: after → ∀ d' r',
          ¬ (reached stackSize layout (before ++ c :: mid)).Starts c' d' r') ∧
        s.request = some r ∧ Emulator.program? d r.path r.pcStart = some s.machine.listing ∧
        s.machine.code.length ≤ Emulator.maxLines ∧ s.machine.cpu.Since r.spStart stackSize ∧
        s.machine.cpu.registers.toList.length = 33 ∧ s.machine.cpu.used.toList.length = 33 ∧
        ∀ mid, mid <+: after → ∀ x,
          (reached stackSize layout (before ++ c :: mid)).machine.cpu.isUsed x = true → s.machine.cpu.isUsed x = true) ∧
    ∀ before after, commands = before ++ after → (reached stackSize layout before).Settled after →
      ∀ x, (reached stackSize layout before).machine.cpu.isUsed x = true → s.machine.cpu.isUsed x = true := by
  intro s
  have marks : ∀ before after, commands = before ++ after → (reached stackSize layout before).Settled after →
      ∀ x, (reached stackSize layout before).machine.cpu.isUsed x = true → s.machine.cpu.isUsed x = true := by
    intro before after heq hsettled x hused
    have hc := continues_of_settled (sound_reached stackSize layout before) hsettled
    rw [← reached_append, ← heq] at hc
    exact hc.cpu.used x hused
  refine ⟨fun hready => ?_, marks⟩
  obtain ⟨before, c, after, d, r, heq, hstart, hsettled, hr⟩ := exists_start commands hready
  obtain ⟨l, hprogram, hlisting⟩ := hstart.program
  have hbehind : ∀ mid, reached stackSize layout (before ++ c :: mid) =
      ((reached stackSize layout before).after c).runs mid := by
    intro mid
    rw [show before ++ c :: mid = (before ++ [c]) ++ mid by simp, reached_append, reached_snoc]
  have hlast := continues_of_settled ((sound_reached stackSize layout before).after c) hsettled
  rw [← hbehind, ← heq] at hlast
  have hcode : s.machine.listing = l := hlast.listing.trans hlisting
  obtain ⟨r', hr', hsince⟩ := (sound_reached stackSize layout commands).since hready
  obtain rfl : r' = r := Option.some.inj (hr'.symm.trans hr)
  refine ⟨before, c, after, d, r', heq, hstart, ?_, hr, by rw [hprogram, hcode], ?_, hsince, by simp, by simp, ?_⟩
  · intro mid c' hmid d' r'' hstart'
    have hset := hstart'.setsUp
    rw [hbehind] at hset
    exact hsettled mid c' hmid hset
  · rw [Emulator.code, hcode]
    exact Emulator.length_of_program? hprogram
  · rintro mid ⟨rest, rfl⟩
    refine marks (before ++ c :: mid) rest (by simp [heq]) ?_
    rw [hbehind]
    exact hsettled.behind

/-- A step out of the listing in the last slot, and a commit of empty fields behind it. -/
def lastSlotCommands : List Command := [.load lastSlotDevice lastSlotRequest, .step, .commit]

theorem lastSlot_ready : (reached 0x100 Layout.standard lastSlotCommands).initialized = true := by
  have hload := atLine_lastSlot.1.ready
  obtain ⟨e, hstep⟩ := (reached 0x100 Layout.standard [.load lastSlotDevice lastSlotRequest]).step_state
  change ((reached 0x100 Layout.standard [.load lastSlotDevice lastSlotRequest]).step.state).commit.1.initialized = true
  rw [(commit_request _).2, hstep]
  exact hload

theorem last_slot_machine :
    (reached 0x100 Layout.standard lastSlotCommands).initialized = true ∧
      (reached 0x100 Layout.standard [.load lastSlotDevice lastSlotRequest]).Settled [.step, .commit] ∧
      (∃ r, (reached 0x100 Layout.standard lastSlotCommands).request = some r ∧
        (reached 0x100 Layout.standard lastSlotCommands).machine.cpu.Since r.spStart 0x100) ∧
      ∀ x, (reached 0x100 Layout.standard [.load lastSlotDevice lastSlotRequest]).machine.cpu.isUsed x = true →
        (reached 0x100 Layout.standard lastSlotCommands).machine.cpu.isUsed x = true := by
  obtain ⟨hmachine, hmarks⟩ := machine_is_that_of_last_start 0x100 Layout.standard lastSlotCommands
  obtain ⟨-, -, -, -, r, -, -, -, hr, -, -, hsince, -⟩ := hmachine lastSlot_ready
  have hsettled : (reached 0x100 Layout.standard [.load lastSlotDevice lastSlotRequest]).Settled [.step, .commit] := by
    rintro before c hc ⟨d, r, hload, -⟩
    have hmem : c ∈ [Command.step, .commit] := hc.subset (by simp)
    rcases List.mem_pair.1 hmem with rfl | rfl
    · simp [loading?] at hload
    · simp [loading?] at hload
  exact ⟨lastSlot_ready, hsettled, ⟨r, hr, hsince⟩, hmarks [.load lastSlotDevice lastSlotRequest] _ rfl hsettled⟩

end Stepper
