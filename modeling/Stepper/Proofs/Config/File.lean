import Stepper.Config.File
import Stepper.Proofs.Config.Valid
import Stepper.Proofs.Files.Device
import Stepper.Proofs.Json.Limit

/-! Reading the configuration file. Every file is read or refused, but for the few that the reading does not foresee: a
path that starts at the home of nobody, a path that cannot be looked for, bytes that are no text, and a text that goes
beyond what can be read. -/

namespace Stepper.Config

variable {d : Device} {p : Path} {path : Option Path}

/-- The file that is read for a path, and without one. -/
def source (d : Device) : Option Path → Except AccessError Path
  | none => .ok defaultPath
  | some p => fileAt d p

/-- Nothing about a configuration file is out of the ordinary. -/
structure Ordinary (d : Device) (file : Path) : Prop where
  located : ∀ kind, d.lookup file = .error kind → kind.isAbsence = true
  legible : d.Legible file
  bearable : ∀ t, d.read file = .ok (Utf8.encode t) → ¬ Json.Unbearable d.depth (Text.withLineFeeds t)

/-- There is a file to read, and it is an ordinary one. -/
def Manageable (d : Device) (path : Option Path) : Prop :=
  ∃ file, source d path = .ok file ∧ Ordinary d file

theorem ordinary_of_unread (hlocated : ∀ kind, d.lookup p = .error kind → kind.isAbsence = true)
    (hread : ∀ bytes, d.read p ≠ .ok bytes) : Ordinary d p where
  located := hlocated
  legible := Device.legible_of_unread hread
  bearable _ h := absurd h (hread _)

/-- A file is there, it is not, or it cannot be looked for. -/
theorem isPresent_cases (hnull : p.hasNull = false) :
    ((∃ f, isPresent d p = .error (.fault f)) ∧ ∃ kind, d.lookup p = .error kind ∧ kind.isAbsence = false) ∨
    (∀ kind, d.lookup p = .error kind → kind.isAbsence = true) ∧
      (isPresent d p = .ok true ∨ isPresent d p = .ok false ∧ ∀ bytes, d.read p ≠ .ok bytes) := by
  unfold isPresent Device.exists? Device.read
  rw [hnull]
  rcases hlookup : d.lookup p with kind | ⟨place, node⟩
  · cases habsent : kind.isAbsence with
    | false => exact .inl ⟨⟨.unlocatable (d.fail p kind), by simp [habsent, Except.mapError]⟩, kind, rfl, habsent⟩
    | true =>
      refine .inr ⟨fun kind' h => Except.error.inj h ▸ habsent, .inr ⟨by simp [habsent, Except.mapError], by simp⟩⟩
  · refine .inr ⟨by simp, ?_⟩
    cases node with
    | none => exact .inr ⟨rfl, by simp⟩
    | some node => exact .inl rfl

theorem readFile_fault_iff (hlocated : ∀ kind, d.lookup p = .error kind → kind.isAbsence = true) :
    (∃ f, readFile d p = .error (.fault f)) ↔ ¬ Ordinary d p := by
  unfold readFile
  cases hread : d.read p with
  | error cause =>
    have hm := ordinary_of_unread hlocated (by simp [hread])
    exact iff_of_false (by simp) (not_not_intro hm)
  | ok bytes =>
    dsimp only
    cases htext : Utf8.readText bytes with
    | error cause =>
      refine iff_of_true ⟨_, rfl⟩ fun hm => ?_
      obtain ⟨text, ht⟩ := (Device.legible_iff hread).1 hm.legible
      simp [htext] at ht
    | ok text =>
      have hlegible := (Device.legible_iff hread).2 ⟨text, htext⟩
      obtain ⟨t, rfl, rfl⟩ := Utf8.readText_eq_ok_iff.1 htext
      have hm : Ordinary d p ↔ ¬ Json.Unbearable d.depth (Text.withLineFeeds t) := by
        refine ⟨fun hm => hm.bearable t hread, fun hbearable => ⟨hlocated, hlegible, fun t' ht' => ?_⟩⟩
        rwa [Utf8.encode_inj (Except.ok.inj (ht'.symm.trans hread))]
      rw [hm, not_not, ← Json.read_isLimit_iff]
      dsimp only
      cases hjson : Json.read d.depth (Text.withLineFeeds t) with
      | error e =>
        cases hlimit : e.fault.isLimit with
        | true => exact iff_of_true ⟨_, if_pos hlimit⟩ ⟨e, rfl, hlimit⟩
        | false => simp [hlimit]
      | ok j => cases hdecode : decode j <;> simp [hdecode, Except.mapError]

/-- A file that is not there stands for the standard configuration, or is refused. -/
theorem load_eq (d : Device) (path : Option Path) {file : Path} (hfile : source d path = .ok file) :
    ∃ absent, (absent = .ok standard ∨ ∃ cause, absent = .error (.refused cause)) ∧
      load d path = isPresent d file >>= fun present => if present then readFile d file else absent := by
  cases path with
  | none =>
    obtain rfl := Except.ok.inj hfile
    exact ⟨.ok standard, .inl rfl, rfl⟩
  | some p =>
    refine ⟨.error (.refused (.notFound (file.render d.working))), .inr ⟨_, rfl⟩, ?_⟩
    rw [load, show fileAt d p = .ok file from hfile]
    rfl

/-- Only a home that there is not keeps a path from standing for a file, and that is not foreseen. -/
theorem load_of_source_error {cause : AccessError} (h : source d path = .error cause) :
    ∃ f, load d path = .error (.fault f) := by
  cases path with
  | none => simp [source] at h
  | some p =>
    have hfault : ∃ f, cause = .fault f := by
      rw [source, fileAt] at h
      split at h
      · simp at h
      · split at h
        · exact ⟨_, (Except.error.inj h).symm⟩
        · split at h
          · exact ⟨_, (Except.error.inj h).symm⟩
          · simp at h
    obtain ⟨f, rfl⟩ := hfault
    refine ⟨f, ?_⟩
    rw [load, show fileAt d p = .error (.fault f) from h]
    rfl

/-- What a configuration file is read as, or why it is refused, is foreseen unless it is out of the ordinary. -/
theorem load_fault_iff (hnull : ∀ file, source d path = .ok file → file.hasNull = false) :
    (∃ f, load d path = .error (.fault f)) ↔ ¬ Manageable d path := by
  cases hfile : source d path with
  | error cause => exact iff_of_true (load_of_source_error hfile) fun ⟨file, h, _⟩ => by simp [hfile] at h
  | ok file =>
    have hm : Manageable d path ↔ Ordinary d file := by
      unfold Manageable
      rw [hfile]
      exact ⟨fun ⟨_, h, ho⟩ => Except.ok.inj h ▸ ho, fun ho => ⟨file, rfl, ho⟩⟩
    obtain ⟨absent, habsent, hload⟩ := load_eq d path hfile
    rw [hload, hm]
    rcases isPresent_cases (hnull file hfile) with ⟨⟨f, hfault⟩, kind, hkind, hstrange⟩ | ⟨hlocated, hpresent | ⟨hmissing, hread⟩⟩
    · rw [hfault]
      refine iff_of_true ⟨f, rfl⟩ fun ho => ?_
      simp [ho.located kind hkind] at hstrange
    · rw [hpresent]
      exact readFile_fault_iff hlocated
    · rw [hmissing]
      refine iff_of_false ?_ (not_not_intro (ordinary_of_unread hlocated hread))
      rintro ⟨f, hf⟩
      change absent = .error (.fault f) at hf
      rcases habsent with rfl | ⟨cause, rfl⟩ <;> simp at hf

theorem readFile_of_read {bytes : List UInt8} {text : Text} {j : JsonValue} (hread : d.read p = .ok bytes)
    (htext : Utf8.readText bytes = .ok text) (hjson : Json.read d.depth text = .ok j) :
    readFile d p = (decode j).mapError .refused := by
  unfold readFile
  rw [hread]
  dsimp only
  rw [htext]
  dsimp only
  rw [hjson]

theorem decoded_of_readFile {c : Config} (h : readFile d p = .ok c) :
    ∃ t j, Json.read d.depth t = .ok j ∧ decode j = .ok c := by
  unfold readFile at h
  split at h
  · simp at h
  split at h
  · simp at h
  split at h
  · split at h <;> simp at h
  next j hread =>
    cases hdecode : decode j with
    | error cause => simp [hdecode, Except.mapError] at h
    | ok c' =>
      rw [hdecode] at h
      obtain rfl := Except.ok.inj h
      exact ⟨_, j, hread, hdecode⟩

/-- A configuration is the standard one, or it is decoded from what was read. -/
theorem decoded_of_load {c : Config} (h : load d path = .ok c) :
    c = standard ∨ ∃ t j, Json.read d.depth t = .ok j ∧ decode j = .ok c := by
  obtain ⟨file, hfile⟩ : ∃ file, source d path = .ok file := by
    cases hsource : source d path with
    | ok file => exact ⟨file, rfl⟩
    | error cause =>
      obtain ⟨f, hf⟩ := load_of_source_error hsource
      simp [h] at hf
  obtain ⟨absent, habsent, hload⟩ := load_eq d path hfile
  obtain ⟨present, -, h⟩ := exists_of_bind (hload.symm.trans h)
  split at h
  · exact .inr (decoded_of_readFile h)
  · rcases habsent with rfl | ⟨cause, rfl⟩
    · exact .inl (Except.ok.inj h).symm
    · simp at h

theorem valid_of_load {c : Config} (h : load d path = .ok c) : Valid c := by
  rcases decoded_of_load h with rfl | ⟨-, j, -, hdecode⟩
  · exact valid_standard
  · exact valid_of_decode hdecode

end Stepper.Config
