import Stepper.Proofs.Session.Lifetime

/-! Going back to the start. Whatever happened since the load that is remembered, a reset leaves the machine that the
load left, if the file is still what it was. -/

namespace Stepper

open Asm Text

namespace Session

variable {s : Session} {c : Command} {d : Device} {r : LoadRequest} {stackSize : Int} {layout : Layout}
  {commands : List Command}

/-- A load that goes well is remembered. -/
theorem request_of_load (h : (s.load d r).result = .ok ()) : (s.after (.load d r)).request = some r := by
  obtain ⟨hload, hresult⟩ := starts_iff.1 (.load h)
  exact ((after_of_loading hload).2.1 hresult).2

/-- No other command changes what is remembered. -/
theorem request_of_other (hs : s.Sound stackSize) (h : ∀ d r, c = .load d r → (s.load d r).result ≠ .ok ()) :
    (s.after c).request = s.request := by
  cases hload : s.loading? c with
  | none => exact (continues_of_not_loading hs.filled hload).request
  | some p =>
    obtain ⟨d, r⟩ := p
    obtain ⟨-, hok, herror⟩ := after_of_loading hload
    cases hresult : (s.machine.load d r.path r.pcStart r.spStart).result with
    | error cause => exact (herror cause hresult).2
    | ok _ =>
      cases starts_iff.2 ⟨hload, hresult⟩ with
      | load ok => exact absurd ok (h d r rfl)
      | reset request ok => exact (hok hresult).2.trans request.symm

/-- The last load that went well among some commands: what it follows, and what it loads. -/
structure LastLoad (stackSize : Int) (layout : Layout) (commands before : List Command) (d : Device) (r : LoadRequest) :
    Prop where
  among : before ++ [.load d r] <+: commands
  ok : ((reached stackSize layout before).load d r).result = .ok ()
  last : ∀ mid d' r', before ++ .load d r :: mid ++ [.load d' r'] <+: commands →
    ((reached stackSize layout (before ++ .load d r :: mid)).load d' r').result ≠ .ok ()

/-- Once a load has gone well, the last one that did is remembered. -/
theorem exists_lastLoad
    (h : ∃ before d r, before ++ [.load d r] <+: commands ∧ ((reached stackSize layout before).load d r).result = .ok ()) :
    ∃ before d r, LastLoad stackSize layout commands before d r ∧
      (reached stackSize layout commands).request = some r := by
  induction commands using List.reverseRecOn with
  | nil =>
    obtain ⟨before, d, r, hprefix, -⟩ := h
    simp at hprefix
  | append_singleton commands c ih =>
    rw [reached_snoc]
    by_cases hload : ∃ d r, c = .load d r ∧ ((reached stackSize layout commands).load d r).result = .ok ()
    · obtain ⟨d, r, rfl, ok⟩ := hload
      refine ⟨commands, d, r, ⟨List.prefix_refl _, ok, fun mid d' r' hprefix => ?_⟩, request_of_load ok⟩
      have hlength := hprefix.length_le
      simp at hlength
    · have hother : ∀ d r, c = .load d r → ((reached stackSize layout commands).load d r).result ≠ .ok () :=
        fun d r hc ok => hload ⟨d, r, hc, ok⟩
      have hbefore : ∃ before d r, before ++ [.load d r] <+: commands ∧
          ((reached stackSize layout before).load d r).result = .ok () := by
        obtain ⟨before, d, r, hprefix, ok⟩ := h
        rcases List.prefix_concat_iff.1 hprefix with heq | hprefix
        · obtain ⟨rfl, hsame⟩ := List.append_inj' heq rfl
          exact absurd ok (hother d r (List.singleton_inj.1 hsame).symm)
        · exact ⟨before, d, r, hprefix, ok⟩
      obtain ⟨before, d, r, hlast, hrequest⟩ := ih hbefore
      refine ⟨before, d, r, ⟨hlast.among.trans (List.prefix_append _ _), hlast.ok, fun mid d' r' hprefix => ?_⟩, ?_⟩
      · rcases List.prefix_concat_iff.1 hprefix with heq | hprefix
        · obtain ⟨rfl, hsame⟩ := List.append_inj' heq rfl
          exact hother d' r' (List.singleton_inj.1 hsame).symm
        · exact hlast.last mid d' r' hprefix
      · rw [request_of_other (sound_reached stackSize layout commands) hother, hrequest]

/-- A reset of a session that remembers a load. -/
theorem reset_of_load_ok {d' : Device} (hr : s.request = some r)
    (h : (s.machine.load d' r.path r.pcStart r.spStart).result = .ok ()) :
    (s.reset d').result = .ok true ∧
      (s.reset d').state =
        { s with machine := (s.machine.load d' r.path r.pcStart r.spStart).state, initialized := true } := by
  unfold reset start
  simp [hr, h, Outcome.ok, Except.toOption]

end Session

open Session

/-- Once a load has gone well, a reset takes the session back to the last one that did, as long as the file is what it
was then and there is no less memory: the machine is the one that the load left, the session is ready, and nothing else
of it changes. -/
theorem reset_erases_history {stackSize : Int} {layout : Layout} {commands : List Command}
    (h : ∃ before d r, before ++ [.load d r] <+: commands ∧
      ((reached stackSize layout before).load d r).result = .ok ()) :
    ∃ before d r, LastLoad stackSize layout commands before d r ∧
      (reached stackSize layout commands).request = some r ∧
      ∀ d' : Device, d'.read (Path.ofText r.path) = d.read (Path.ofText r.path) → d.room ≤ d'.room →
        ((reached stackSize layout commands).reset d').result = .ok true ∧
          ((reached stackSize layout commands).reset d').state =
            { reached stackSize layout commands with
              machine := ((reached stackSize layout before).load d r).state.machine, initialized := true } := by
  obtain ⟨before, d, r, hlast, hr⟩ := exists_lastLoad h
  refine ⟨before, d, r, hlast, hr, fun d' hfile hroom => ?_⟩
  obtain ⟨hload, hresult⟩ := starts_iff.1 (.load hlast.ok)
  have hmachine := (after_of_loading hload).1
  have hsize := (sound_reached stackSize layout commands).size.trans (sound_reached stackSize layout before).size.symm
  obtain ⟨hok, hsame⟩ := Emulator.load_congr hsize hroom hfile hresult
  obtain ⟨hanswer, hstate⟩ := reset_of_load_ok hr hok
  exact ⟨hanswer, by rw [hstate, hsame, ← hmachine]; rfl⟩

theorem last_slot_comes_back :
    (∃ before d r, before ++ [.load d r] <+: lastSlotCommands ∧
      ((reached 0x100 Layout.standard before).load d r).result = .ok ()) ∧
    ((reached 0x100 Layout.standard lastSlotCommands).reset lastSlotDevice).result = .ok true ∧
    ((reached 0x100 Layout.standard lastSlotCommands).reset lastSlotDevice).state.machine =
      (reached 0x100 Layout.standard [.load lastSlotDevice lastSlotRequest]).machine := by
  have hloaded : ∃ before d r, before ++ [.load d r] <+: lastSlotCommands ∧
      ((reached 0x100 Layout.standard before).load d r).result = .ok () :=
    ⟨[], lastSlotDevice, lastSlotRequest, List.prefix_append _ _, load_ok_of_ready atLine_lastSlot.1.ready⟩
  obtain ⟨before, d, r, hlast, -, hreset⟩ := reset_erases_history hloaded
  -- the first command is the only load
  obtain ⟨rfl, rfl, rfl⟩ : before = [] ∧ d = lastSlotDevice ∧ r = lastSlotRequest := by
    obtain ⟨rest, heq⟩ := hlast.among
    rcases before with _ | ⟨_, _ | ⟨_, _ | ⟨_, before⟩⟩⟩ <;> simp [lastSlotCommands] at heq
    exact ⟨rfl, heq.1.1, heq.1.2⟩
  obtain ⟨hanswer, hstate⟩ := hreset lastSlotDevice rfl (Nat.le_refl _)
  exact ⟨hloaded, hanswer, by rw [hstate]; rfl⟩

end Stepper
