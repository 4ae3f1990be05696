import Stepper.Proofs.CommandLine.Run
import Stepper.Proofs.Config.File
import Stepper.Proofs.Desktop.Turn

/-! What gets out of the whole program. A command line without a window ends with a code, and the window reports what it
cannot load, unless the input is one of a few that no command foresees: bytes that are no text, a configuration that
goes beyond what can be read or whose path leads to no home or cannot be looked for, and a setting that was left blank. -/

namespace Stepper

namespace CommandLine

variable {s : Settings} {d : Device} {c : Config} {r : LoadRequest} {m : Device.Mishaps}

/-- An address is set to nothing. -/
def Settings.hasBlank (s : Settings) : Bool :=
  s.pcStart.isBlank || s.spStart.isBlank || s.pcEnd.isBlank

/-- What a command line does not foresee: settings that were left blank, a configuration that is out of the ordinary, and
a program for a page in a file that is no text. -/
inductive Unforeseen (s : Settings) (d : Device) : Prop where
  | blankConfig (blank : s.config.isBlank = true)
  | config (strange : ¬ Config.Manageable d s.config.value?)
  | blankAddress {c : Config} {r : LoadRequest} (config : Config.load d s.config.value? = .ok c)
      (request : s.requested c = some r) (blank : s.hasBlank = true)
      (program : (Emulator.program? d r.path r.pcStart).isSome)
  | program {c : Config} {r : LoadRequest} (config : Config.load d s.config.value? = .ok c)
      (request : s.requested c = some r) (page : s.snapshot.isSome) (illegible : ¬ d.Legible (Path.ofText r.path))

/-! ### Blank addresses -/

theorem requested_of_valid (hvalid : c.Valid) (h : s.requested c = some r) :
    (∃ base : Nat, r.pcStart = base) ∧ 0 ≤ r.spStart ∧ s.file = some r.path := by
  have hr := Settings.nonneg_of_requested hvalid h
  obtain ⟨file, hfile, rfl⟩ := Option.map_eq_some_iff.1 h
  exact ⟨Int.eq_ofNat_of_zero_le hr.pcStart, hr.spStart, (Option.filter_eq_some_iff.1 hfile).1⟩

theorem size_freshSession (c : Config) :
    (freshSession c).machine.stackSize = Cpu.defaultStackSize ∧ 0 ≤ (freshSession c).machine.stackSize :=
  ⟨rfl, show (0 : Int) ≤ Cpu.defaultStackSize by decide⟩

/-- The machine that a command line starts with loads every program that is there. -/
theorem start_of_program? (hroom : Cpu.Fits d.room Cpu.defaultStackSize) (hsp : 0 ≤ r.spStart)
    (h : (Emulator.program? d r.path r.pcStart).isSome) : ((freshSession c).start d r).result = .ok () := by
  obtain ⟨l, hl⟩ := Option.isSome_iff_exists.1 h
  have hresult := ((freshSession c).machine.load_of_program? r.spStart hl).2
  rwa [Emulator.reset_ok hsp (size_freshSession c).2 hroom] at hresult

/-- A blank address is used where there is a program to load. -/
theorem blankUse?_isSome_iff (hroom : Cpu.Fits d.room Cpu.defaultStackSize) (hbase : ∃ base : Nat, r.pcStart = base) (hsp : 0 ≤ r.spStart) :
    (s.blankUse? (freshSession c) d r).isSome ↔ s.hasBlank = true ∧ (Emulator.program? d r.path r.pcStart).isSome := by
  have hstart := start_of_program? (c := c) hroom hsp
  unfold Emulator.program? at hstart ⊢
  unfold Settings.blankUse? Settings.hasBlank
  cases hread : (Emulator.readText d r.path).toOption with
  | none => simp
  | some text =>
    rw [hread] at hstart
    -- only a plain source takes an address as its base, and that is never refused
    have hplain : Asm.takesBase text = true → (Emulator.listingOf r.path text r.pcStart).2.toOption.isSome := by
      intro h
      obtain ⟨base, hbase⟩ := hbase
      have hsource : Asm.isAddressListing text = false := by
        unfold Asm.takesBase at h
        simpa using (Bool.and_eq_true_iff.1 h).1
      rw [hbase, Emulator.listingOf_plain hsource]
      rfl
    rcases hlisting : Emulator.listingOf r.path text r.pcStart with ⟨notes, listing⟩
    rw [hlisting] at hplain
    simp only [Option.bind_some, Option.isSome_map, hlisting] at hstart
    simp only [Option.bind_eq_bind, Option.bind_some, hlisting, Option.isSome_map]
    cases hlist : listing.toOption with
    | none =>
      have htakes : Asm.takesBase text = false := by simpa [hlist] using hplain
      simp [htakes]
    | some l =>
      rw [hlist] at hstart
      cases s.pcStart.isBlank <;> cases s.spStart.isBlank <;> cases s.pcEnd.isBlank <;> cases Asm.takesBase text <;>
        simp [hstart, Except.toOption]

/-! ### Pages -/

theorem write_ne_fault {session : Session} {path : Option Text} (hm : m.removing = none)
    (hnull : (Snapshot.exportTarget session path).hasNull = false) (f : Fault) :
    (Snapshot.write session d path m).result ≠ .error (.fault f) := by
  have hleftover := Device.replace_ne_leftover (d := d) hm (Snapshot.exportTarget session path)
    (Utf8.encode (Snapshot.render session))
  unfold Snapshot.write
  rw [if_neg (by simp [hnull])]
  revert hleftover
  generalize d.replace (Snapshot.exportTarget session path) (Utf8.encode (Snapshot.render session)) m = replaced
  rintro hleftover
  obtain ⟨d', (cause | cause) | _⟩ := replaced
  · simp [Outcome.error]
  · exact absurd rfl (hleftover cause)
  · simp [Outcome.ok]

/-- Whether a page is written or not, the run has a code, unless the program is a fault to load. -/
theorem ending_writePage (hm : m.removing = none) {session : Session} {target : Text}
    (hnull : (snapshotPath (session.load d r).state target).hasNull = false) :
    let ending := (writePage session d r target m).ending
    (∃ f, (session.load d r).result = .error (.fault f) ∧ ending = .fault f) ∨
    (∀ f, (session.load d r).result ≠ .error (.fault f)) ∧ (ending = .exit 0 ∨ ending = .exit 1) := by
  have hpaging := paging_writePage session d r target m
  revert hpaging
  generalize writePage session d r target m = report
  rintro (⟨hload⟩ | ⟨hload, hforeseen⟩ | ⟨hload, hwrite⟩ | ⟨hload, hwrite, -⟩ | ⟨hload, hwrite⟩)
  · exact .inl ⟨_, hload, rfl⟩
  · refine .inr ⟨fun f hf => ?_, .inr rfl⟩
    exact hforeseen f (Except.error.inj (hload.symm.trans hf))
  · exact absurd hwrite (write_ne_fault hm hnull _)
  · exact .inr ⟨by simp [hload], .inr rfl⟩
  · exact .inr ⟨by simp [hload], .inl rfl⟩

/-! ### Runs -/

/-- No path that the settings reach has a null character in it. -/
structure NullFree (s : Settings) (d : Device) : Prop where
  config : ∀ file, Config.source d s.config.value? = .ok file → file.hasNull = false
  file : ∀ file, s.file = some file → (Path.ofText file).hasNull = false
  page : ∀ c target, Config.load d s.config.value? = .ok c → s.snapshot = some target →
    (Path.ofText target).hasNull = false ∧ (Path.inWorking c.exportName).hasNull = false

theorem source_eq (s : Settings) (d : Device) : Config.source d s.config.value? = Config.fileAt d s.configPath := by
  unfold Settings.configPath
  cases s.config.value? <;> rfl

theorem nullFree_of_reach {arguments : List Text} (hread : Settings.read arguments = .ok s)
    (h : ∀ p ∈ reach arguments d, p.hasNull = false) : NullFree s d := by
  simp only [reach, hread] at h
  refine ⟨fun file hfile => ?_, fun file hfile => ?_, fun c target hload htarget => ?_⟩
  · rw [source_eq] at hfile
    exact h _ (List.mem_append_left _ (List.mem_append_left _ (by simp [hfile, Except.toOption])))
  · exact h _ (List.mem_append_left _ (List.mem_append_right _ (by simp [hfile])))
  · simp only [hload, htarget, Option.getD_some] at h
    exact ⟨h _ (by simp), h _ (by simp)⟩

theorem NullFree.target {target : Text} (h : NullFree s d) (hload : Config.load d s.config.value? = .ok c)
    (htarget : s.snapshot = some target) :
    (snapshotPath ((freshSession c).load d r).state target).hasNull = false := by
  obtain ⟨hgiven, husual⟩ := h.page c target hload htarget
  have hlayout : ((freshSession c).load d r).state.layout = c.layout := Session.after_layout (freshSession c) (.load d r)
  unfold snapshotPath
  split
  · rw [Snapshot.exportTarget, hlayout]
    exact husual
  · exact hgiven

/-- With a configuration at hand, what is not foreseen is a blank address or a program that is no text. -/
theorem unforeseen_iff (hnull : NullFree s d) (hpath : s.config.isBlank = false)
    (hload : Config.load d s.config.value? = .ok c) : Unforeseen s d ↔ ∃ r, s.requested c = some r ∧
      ((s.hasBlank = true ∧ (Emulator.program? d r.path r.pcStart).isSome) ∨
        (s.snapshot.isSome ∧ ¬ d.Legible (Path.ofText r.path))) := by
  constructor
  · rintro (blank | strange | ⟨config, request, blank, program⟩ | ⟨config, request, page, illegible⟩)
    · simp [hpath] at blank
    · obtain ⟨f, hf⟩ := (Config.load_fault_iff hnull.config).2 strange
      simp [hload] at hf
    · obtain rfl := Except.ok.inj (hload.symm.trans config)
      exact ⟨_, request, .inl ⟨blank, program⟩⟩
    · obtain rfl := Except.ok.inj (hload.symm.trans config)
      exact ⟨_, request, .inr ⟨page, illegible⟩⟩
  · rintro ⟨r, request, ⟨blank, program⟩ | ⟨page, illegible⟩⟩
    · exact .blankAddress hload request blank program
    · exact .program hload request page illegible

/-- The codes that a run may end with. -/
def Ending.HasCode (e : Ending) : Prop :=
  e.code? ∈ [some 0, some 1, some 2]

/-- A run ends by a fault where something is not foreseen, and else with a code or in a window. -/
def Ends (s : Settings) (d : Device) (ending : Ending) : Prop :=
  (Unforeseen s d ∧ ∃ f, ending = .fault f) ∨
  ¬ Unforeseen s d ∧ (ending.HasCode ∨ s.snapshot = none ∧ ∃ l, ending = .window l)

/-- What the device grants: memory for a small stack, and that a scratch file may be removed. -/
structure Grants (d : Device) (m : Device.Mishaps) : Prop where
  room : Cpu.Fits d.room Cpu.defaultStackSize
  removing : m.removing = none

/-- A run that goes on to its page, because no blank address is in the way. -/
theorem ends_writePage {target : Text} (hgrants : Grants d m) (hnull : NullFree s d) (hpath : s.config.isBlank = false)
    (hload : Config.load d s.config.value? = .ok c) (hrequest : s.requested c = some r)
    (hnone : s.blankUse? (freshSession c) d r = none) (htarget : s.snapshot = some target) :
    Ends s d (writePage (freshSession c) d r target m).ending := by
  obtain ⟨hbase, hsp, hfile⟩ := requested_of_valid (Config.valid_of_load hload) hrequest
  have hused : ¬ (s.hasBlank = true ∧ (Emulator.program? d r.path r.pcStart).isSome) := by
    rw [← blankUse?_isSome_iff (c := c) hgrants.room hbase hsp, hnone]
    simp
  have hunforeseen : Unforeseen s d ↔ ¬ d.Legible (Path.ofText r.path) := by
    rw [unforeseen_iff hnull hpath hload]
    constructor
    · rintro ⟨r', hrequest', hblank | ⟨-, hillegible⟩⟩
      · obtain rfl := Option.some.inj (hrequest.symm.trans hrequest')
        exact absurd hblank hused
      · obtain rfl := Option.some.inj (hrequest.symm.trans hrequest')
        exact hillegible
    · exact fun hillegible => ⟨r, hrequest, .inr ⟨Option.isSome_of_eq_some htarget, hillegible⟩⟩
  have hfault := (freshSession c).machine.load_fault_iff d r.pcStart (hnull.file _ hfile) hsp
    (size_freshSession c).2 hgrants.room
  rw [← Session.result_load, ← hunforeseen] at hfault
  rcases ending_writePage hgrants.removing (hnull.target (r := r) hload htarget) with ⟨f, hf, hending⟩ | ⟨hf, hcode⟩
  · exact .inl ⟨hfault.1 ⟨f, hf⟩, f, hending⟩
  · refine .inr ⟨fun h => ?_, .inl ?_⟩
    · obtain ⟨f, hloaded⟩ := hfault.2 h
      exact hf f hloaded
    · rcases hcode with hcode | hcode <;> simp [Ending.HasCode, hcode, Ending.code?]

theorem ends_onward {report : Report} (hgrants : Grants d m) (hnull : NullFree s d) (hpath : s.config.isBlank = false)
    (hload : Config.load d s.config.value? = .ok c) (h : s.Onward d c m report) : Ends s d report.ending := by
  have hvalid := Config.valid_of_load hload
  have hunforeseen := unforeseen_iff hnull hpath hload
  cases h with
  | blank hrequest hblank =>
    obtain ⟨hbase, hsp, -⟩ := requested_of_valid hvalid hrequest
    have hused := (blankUse?_isSome_iff hgrants.room hbase hsp).1 (Option.isSome_of_eq_some hblank)
    exact .inl ⟨hunforeseen.2 ⟨_, hrequest, .inl hused⟩, _, rfl⟩
  | idle hrequest htarget =>
    have hforeseen : ¬ Unforeseen s d := by simp [hunforeseen, hrequest]
    exact .inr ⟨hforeseen, .inl (by simp [Ending.HasCode, Report.complaint, Ending.code?])⟩
  | page hrequest hnone htarget => exact ends_writePage hgrants hnull hpath hload hrequest hnone htarget
  | window hnone hwindow =>
    refine .inr ⟨?_, .inr ⟨hwindow, _, rfl⟩⟩
    rw [hunforeseen]
    rintro ⟨r, hrequest, hblank | ⟨hpage, -⟩⟩
    · obtain ⟨hbase, hsp, -⟩ := requested_of_valid hvalid hrequest
      have := (blankUse?_isSome_iff (s := s) (c := c) hgrants.room hbase hsp).2 hblank
      simp [hnone r hrequest] at this
    · simp [hwindow] at hpage

theorem ends_course {report : Report} (hgrants : Grants d m) (hnull : NullFree s d) (hlist : s.listInstructions = false)
    (h : s.Course d m report) : Ends s d report.ending ∧
      ((∃ l, report.ending = .window l) → ∃ c, Config.load d s.config.value? = .ok c) := by
  have hfault := Config.load_fault_iff hnull.config
  cases h with
  | lists htrue => simp [hlist] at htrue
  | blank _ hblank => exact ⟨.inl ⟨.blankConfig hblank, _, rfl⟩, by simp [Report.failed]⟩
  | @refused cause _ hpath hload =>
    refine ⟨.inr ⟨?_, .inl (by simp [Ending.HasCode, Report.complaint, Ending.code?])⟩, by simp [Report.complaint]⟩
    rintro (blank | strange | ⟨config, -⟩ | ⟨config, -⟩)
    · simp [hpath] at blank
    · obtain ⟨f, hf⟩ := hfault.2 strange
      simp [hload] at hf
    · simp [hload] at config
    · simp [hload] at config
  | fault _ hpath hload => exact ⟨.inl ⟨.config (hfault.1 ⟨_, hload⟩), _, rfl⟩, by simp [Report.failed]⟩
  | onward _ hpath hload honward =>
    -- what is shown of the log has no part in it
    have hends := ends_onward hgrants hnull hpath hload honward
    exact ⟨hends, fun _ => ⟨_, hload⟩⟩

/-- A command line that is read, asks for more than the list and comes upon something that is not foreseen. -/
def Escapes (arguments : List Text) (d : Device) : Prop :=
  ∃ s, Settings.read arguments = .ok s ∧ s.listInstructions = false ∧ Unforeseen s d

/-- A command line for a page or for the list, or one whose configuration is not accepted. -/
def Windowless (arguments : List Text) (d : Device) : Prop :=
  ∀ s, Settings.read arguments = .ok s →
    s.snapshot.isSome ∨ s.listInstructions = true ∨ ∀ c, Config.load d s.config.value? ≠ .ok c

/-- The configuration is not refused for half of a pair of escapes. There a text has to hold what no text of characters
can, and nothing is said of that. -/
def Paired (arguments : List Text) (d : Device) : Prop :=
  ∀ s shown cause, Settings.read arguments = .ok s →
    Config.load d s.config.value? = .error (.refused (.invalidJson shown cause)) → cause.fault ≠ .loneSurrogate

theorem run_ending (hgrants : Grants d m) {arguments : List Text} (hpaths : ∀ p ∈ reach arguments d, p.hasNull = false) :
    let ending := (run arguments d m).ending
    (Escapes arguments d ∧ ∃ f, ending = .fault f) ∨
    ¬ Escapes arguments d ∧ (ending.HasCode ∨ ¬ Windowless arguments d ∧ ∃ l, ending = .window l) := by
  unfold run
  cases hread : Settings.read arguments with
  | error stop =>
    refine .inr ⟨by simp [Escapes, hread], .inl ?_⟩
    cases stop <;> simp [Ending.HasCode, Report.silent, Ending.code?]
  | ok s =>
    dsimp only
    cases hlist : s.listInstructions with
    | true =>
      refine .inr ⟨by simp [Escapes, hread, hlist], .inl ?_⟩
      simp [Settings.run, hlist, Ending.HasCode, Ending.code?]
    | false =>
      have hcourse : s.Course d m (s.run d m) := Settings.course_run
      obtain ⟨hends, hwindow⟩ := ends_course hgrants (nullFree_of_reach hread hpaths) hlist hcourse
      have hescapes : Escapes arguments d ↔ Unforeseen s d := by simp [Escapes, hread, hlist]
      rw [hescapes]
      rcases hends with hfault | ⟨hforeseen, hcode | ⟨hsnapshot, hending⟩⟩
      · exact .inl hfault
      · exact .inr ⟨hforeseen, .inl hcode⟩
      · refine .inr ⟨hforeseen, .inr ⟨fun hwindowless => ?_, hending⟩⟩
        obtain ⟨c, hload⟩ := hwindow hending
        rcases hwindowless s hread with hpage | hlists | hnot
        · simp [hsnapshot] at hpage
        · simp [hlist] at hlists
        · exact hnot c hload

end CommandLine

open CommandLine Desktop

/-- A device with a file that is no text. -/
def strayDevice : Device where
  working := "/"
  scratch := []
  room := 0x10000
  depth := 100
  nodes := [(["f".toList], .file [0xFF])]

theorem not_legible_strayDevice : ¬ strayDevice.Legible (Path.ofText "f") := by
  intro h
  obtain ⟨t, ht⟩ := h [0xFF] (by decide)
  have hdecode := Utf8.decode_encode t
  rw [← ht] at hdecode
  simp [Utf8.decode, Utf8.decodeFrom, Utf8.lead?] at hdecode

/-- The settings of a command line for a page of that file. -/
def straySettings : Settings := ⟨some "f", .unset, .unset, .unset, .unset, some "p", false, false⟩

def strayArguments : List Text := ["--export", "p", "f"]

theorem read_strayArguments : Settings.read strayArguments = .ok straySettings := by
  have harguments : readArguments strayArguments = .ok [.option .snapshot false none, .word "p", .word "f"] := by rfl
  rw [Settings.read, harguments]
  simp [Except.mapError, bind, Except.bind, Progress.readAll, Progress.apply, Progress.initial, Flag.arity,
    Progress.takeFile, straySettings, pure, Except.pure]

/-- The window of a new session. -/
def newWindow : Workbench .plain :=
  Workbench.create .plain (freshSession Config.standard) Config.standard Config.defaultPath false

end Stepper
