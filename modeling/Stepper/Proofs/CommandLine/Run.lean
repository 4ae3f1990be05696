import Stepper.CommandLine.Run
import Stepper.Proofs.Config.Valid

/-! The ways that a command line can go: every run takes one of them. -/

namespace Stepper.CommandLine

/-- The session that a command line starts with. -/
def freshSession (c : Config) : Session :=
  Session.create (Emulator.create Cpu.defaultStackSize) c.layout

/-- The path under which an export goes; an empty one stands for the usual one. -/
def snapshotPath (s : Session) (target : Text) : Path :=
  Snapshot.exportTarget s (if target.isEmpty then none else some target)

/-! ### Pages -/

section

variable (session : Session) (d : Device) (r : LoadRequest) (target : Text) (m : Device.Mishaps)

/-- The export of the program that was loaded. -/
def exported : Outcome Device ExportError Path :=
  Snapshot.write (session.load d r).state d (if target.isEmpty then none else some target) m

/-- What a run that loads a program and writes its page comes to. -/
inductive Paging : Report → Prop where
  | loadFault {f : Fault} {log : List LogEntry} (hload : (session.load d r).result = .error (.fault f)) :
      Paging (.failed d log f)
  | loadRefused {e : LoadError} {log : List LogEntry} (hload : (session.load d r).result = .error e)
      (hforeseen : ∀ f, e ≠ .fault f) : Paging ⟨[], log, d, .exit 1⟩
  | writeFault {f : Fault} {log : List LogEntry} (hload : (session.load d r).result = .ok ())
      (hwrite : (exported session d r target m).result = .error (.fault f)) :
      Paging (.failed (exported session d r target m).state log f)
  | writeRefused {e : ExportError} {log : List LogEntry} (hload : (session.load d r).result = .ok ())
      (hwrite : (exported session d r target m).result = .error e) (hforeseen : ∀ f, e ≠ .fault f) :
      Paging ⟨[], log, (exported session d r target m).state, .exit 1⟩
  | written {path : Path} {log : List LogEntry} (hload : (session.load d r).result = .ok ())
      (hwrite : (exported session d r target m).result = .ok path) :
      Paging ⟨[], log, (exported session d r target m).state, .exit 0⟩

theorem paging_writePage : Paging session d r target m (writePage session d r target m) := by
  have hexported : Snapshot.write (session.load d r).state d (if target.isEmpty then none else some target) m =
      exported session d r target m := rfl
  unfold writePage
  dsimp only
  rw [hexported]
  cases hload : (session.load d r).result with
  | error e =>
    cases e with
    | fault f => exact .loadFault hload
    | unreadable path cause => exact .loadRefused hload (by simp)
    | refused cause => exact .loadRefused hload (by simp)
  | ok _ =>
    dsimp only
    cases hwrite : (exported session d r target m).result with
    | error e =>
      cases e with
      | fault f => exact .writeFault hload hwrite
      | unwritable target cause => exact .writeRefused hload hwrite (by simp)
    | ok path => exact .written hload hwrite

end

/-! ### Settings -/

namespace Settings

variable {s : Settings} {d : Device} {c : Config} {m : Device.Mishaps}

/-- The load that a command line asks for, if it names a file. -/
def requested (s : Settings) (c : Config) : Option LoadRequest :=
  (s.file.filter (!·.isEmpty)).map (s.request c)

/-- The addresses are those of the configuration, or else natural numbers. -/
theorem nonneg_of_requested {r : LoadRequest} (hvalid : c.Valid) (h : s.requested c = some r) : r.Nonneg := by
  obtain ⟨file, -, rfl⟩ := Option.map_eq_some_iff.1 h
  unfold Settings.request
  refine ⟨?_, ?_, ?_⟩
  · cases s.pcStart.value? with
    | none => exact hvalid.pcStart
    | some n => exact Int.natCast_nonneg n
  · cases s.pcEnd.value? with
    | none => exact hvalid.pcEnd
    | some n => exact Int.natCast_nonneg n
  · cases s.spStart.value? with
    | none => exact hvalid.spStart
    | some n => exact Int.natCast_nonneg n

/-- What comes after a configuration. -/
inductive Onward (s : Settings) (d : Device) (c : Config) (m : Device.Mishaps) : Report → Prop where
  | blank {r : LoadRequest} {log : List LogEntry} {use : BlankUse} (hrequest : s.requested c = some r)
      (hblank : s.blankUse? (freshSession c) d r = some (log, use)) : Onward s d c m (.failed d log (.blank use))
  | idle {target : Text} (hrequest : s.requested c = none) (htarget : s.snapshot = some target) :
      Onward s d c m (.complaint d "--export needs a listing to load" 2)
  | page {r : LoadRequest} {target : Text} (hrequest : s.requested c = some r)
      (hnone : s.blankUse? (freshSession c) d r = none) (htarget : s.snapshot = some target) :
      Onward s d c m (writePage (freshSession c) d r target m)
  | window (hnone : ∀ r, s.requested c = some r → s.blankUse? (freshSession c) d r = none) (hwindow : s.snapshot = none) :
      Onward s d c m (.silent d (.window ⟨freshSession c, c, s.configPath, s.requested c, s.verbose⟩))

theorem onward_proceed : s.Onward d c m (s.proceed d c m) := by
  have hsession : Session.create (Emulator.create Cpu.defaultStackSize) c.layout = freshSession c := rfl
  have hrequested : (s.file.filter (!·.isEmpty)).map (s.request c) = s.requested c := rfl
  unfold proceed
  dsimp only
  rw [hsession, hrequested]
  cases hrequest : s.requested c with
  | none =>
    cases htarget : s.snapshot with
    | none =>
      have hnone : ∀ r, s.requested c = some r → s.blankUse? (freshSession c) d r = none := by simp [hrequest]
      have hwindow : s.Onward d c m _ := .window hnone htarget
      rwa [hrequest] at hwindow
    | some target => exact .idle hrequest htarget
  | some r =>
    rw [Option.bind_some]
    cases hblank : s.blankUse? (freshSession c) d r with
    | some found => exact .blank hrequest hblank
    | none =>
      cases htarget : s.snapshot with
      | none =>
        have hnone : ∀ r, s.requested c = some r → s.blankUse? (freshSession c) d r = none := by simp [hrequest, hblank]
        have hwindow : s.Onward d c m _ := .window hnone htarget
        rwa [hrequest] at hwindow
      | some target => exact .page hrequest hblank htarget

/-- What a command line without a complaint comes to. -/
inductive Course (s : Settings) (d : Device) (m : Device.Mishaps) : Report → Prop where
  | lists (hlist : s.listInstructions = true) : Course s d m ⟨instructionList, [], d, .exit 0⟩
  | blank (hlist : s.listInstructions = false) (hblank : s.config.isBlank = true) :
      Course s d m (.failed d [] (.blank .path))
  | refused {cause : ConfigError} (hlist : s.listInstructions = false) (hpath : s.config.isBlank = false)
      (hload : Config.load d s.config.value? = .error (.refused cause)) :
      Course s d m (.complaint d cause.message 2)
  | fault {f : Fault} (hlist : s.listInstructions = false) (hpath : s.config.isBlank = false)
      (hload : Config.load d s.config.value? = .error (.fault f)) : Course s d m (.failed d [] f)
  | onward {c : Config} {report : Report} (hlist : s.listInstructions = false) (hpath : s.config.isBlank = false)
      (hload : Config.load d s.config.value? = .ok c) (honward : s.Onward d c m report) :
      Course s d m { report with log := report.log.filter (·.isShown s.verbose) }

theorem course_run : s.Course d m (s.run d m) := by
  unfold Settings.run
  cases hlist : s.listInstructions with
  | true => exact .lists hlist
  | false =>
    cases hpath : s.config.isBlank with
    | true => exact .blank hlist hpath
    | false =>
      cases hload : Config.load d s.config.value? with
      | error e =>
        cases e with
        | refused cause => exact .refused hlist hpath hload
        | fault f => exact .fault hlist hpath hload
      | ok c => exact .onward hlist hpath hload onward_proceed

/-- A window is opened with the configuration that was read and with a fresh session. -/
theorem launch_of_run {l : Launch} (h : (s.run d m).ending = .window l) :
    ∃ c, Config.load d s.config.value? = .ok c ∧
      l = ⟨freshSession c, c, s.configPath, s.requested c, s.verbose⟩ := by
  generalize hreport : s.run d m = report at h
  have hcourse : s.Course d m report := hreport ▸ course_run
  cases hcourse with
  | lists => simp at h
  | blank => simp [Report.failed] at h
  | refused => simp [Report.complaint] at h
  | fault => simp [Report.failed] at h
  | @onward c report _ _ hload honward =>
    refine ⟨c, hload, ?_⟩
    cases honward with
    | blank => simp [Report.failed] at h
    | idle => simp [Report.complaint] at h
    | @page r target =>
      have hpaging := paging_writePage (freshSession c) d r target m
      generalize writePage (freshSession c) d r target m = report at h hpaging
      cases hpaging <;> simp [Report.failed] at h
    | window => exact (Ending.window.inj h).symm

end Settings

theorem launch_of_run {arguments : List Text} {d : Device} {m : Device.Mishaps} {l : Launch}
    (h : (run arguments d m).ending = .window l) :
    ∃ s, Settings.read arguments = .ok s ∧ ∃ c, Config.load d s.config.value? = .ok c ∧
      l = ⟨freshSession c, c, s.configPath, s.requested c, s.verbose⟩ := by
  unfold run at h
  cases hread : Settings.read arguments with
  | error stop => cases stop <;> simp [hread, Report.silent] at h
  | ok s =>
    rw [hread] at h
    exact ⟨s, rfl, Settings.launch_of_run h⟩

end Stepper.CommandLine
