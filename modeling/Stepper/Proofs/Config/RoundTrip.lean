import Stepper.Input.Fields
import Stepper.Proofs.Config.File
import Stepper.Proofs.Json.Written
import Stepper.Proofs.Numeral.Strict
import Stepper.Session.Basic

/-! Decoding undoes encoding. Whatever spelling a configuration was decoded from, and whatever was loaded since, it is
encoded as an object that decodes to it, and the file it is saved to is read as it, if its counts are short enough to be
written at all. -/

namespace Stepper

namespace Config

open Text

variable {c : Config} {d : Device} {p : Path}

/-! ### Decoding what was encoded -/

theorem addressOf_writtenAddress (key : Text) {v : Int} (hv : 0 ≤ v) : addressOf key (writtenAddress v) = .ok v := by
  obtain ⟨n, rfl⟩ := Int.eq_ofNat_of_zero_le hv
  rw [writtenAddress, Numeral.written_eq, addressOf, Numeral.readStrict_written]
  exact if_neg (by omega)

theorem countOf_int {minimum n : Int} (key : Text) (h : minimum ≤ n) : countOf minimum key (.int n) = .ok n :=
  if_neg (by omega)

theorem exportNameOf_str (key : Text) {t : Text} (ht : Trimmed t) (ne : t ≠ []) : exportNameOf key (.str t) = .ok t := by
  rw [exportNameOf, trim_of_trimmed ht, if_neg (by simpa using ne)]

theorem lastFileOf_encoded (key : Text) (path : Option Text) :
    lastFileOf key ((path.map JsonValue.str).getD .null) = .ok path := by
  cases path <;> rfl

theorem unknownKeys_members (c : Config) : unknownKeys c.members = [] := by
  have hnone : (c.members.map (·.1)).filter (!keys.contains ·) = [] := by
    change keys.filter (!keys.contains ·) = []
    decide
  rw [unknownKeys, hnone, List.mergeSort_nil]

theorem decode_encode (hc : c.Valid) : decode c.encode = .ok c := by
  have hstart : memberOr c.members "pc_start" addressOf standard.pcStart = .ok c.pcStart :=
    addressOf_writtenAddress _ hc.pcStart
  have hend : memberOr c.members "pc_end" addressOf standard.pcEnd = .ok c.pcEnd :=
    addressOf_writtenAddress _ hc.pcEnd
  have hsp : memberOr c.members "sp_start" addressOf standard.spStart = .ok c.spStart :=
    addressOf_writtenAddress _ hc.spStart
  have hcode : memberOr c.members "code_lines" (countOf 1) standard.codeLines = .ok c.codeLines :=
    countOf_int _ hc.codeLines
  have hbehind : memberOr c.members "code_look_behind" (countOf 0) standard.lookBehind = .ok c.lookBehind :=
    countOf_int _ hc.lookBehind
  have hstack : memberOr c.members "stack_lines" (countOf 1) standard.stackLines = .ok c.stackLines :=
    countOf_int _ hc.stackLines
  have hinput : memberOr c.members "input_capacity" (countOf 1) standard.inputCapacity = .ok c.inputCapacity :=
    countOf_int _ hc.inputCapacity
  have hname : memberOr c.members "export_name" exportNameOf standard.exportName = .ok c.exportName :=
    exportNameOf_str "export_name" hc.exportName.1 hc.exportName.2
  have hfile : memberOr c.members "last_file" lastFileOf standard.lastFile = .ok c.lastFile :=
    lastFileOf_encoded "last_file" c.lastFile
  rw [encode, decode, ofMembers, unknownKeys_members, hstart, hend, hsp, hcode, hbehind, hstack, hinput, hname, hfile]
  rfl

/-! ### Reading what was saved -/

/-- No count has too many digits. -/
structure Countable (c : Config) : Prop where
  codeLines : Numeral.Writable c.codeLines
  lookBehind : Numeral.Writable c.lookBehind
  stackLines : Numeral.Writable c.stackLines
  inputCapacity : Numeral.Writable c.inputCapacity

theorem countable_standard : standard.Countable := by
  constructor <;> exact Numeral.writable_of_lt (by decide)

theorem Countable.withLoads (hc : c.Countable) (rs : List LoadRequest) : (c.withLoads rs).Countable := by
  induction rs generalizing c with
  | nil => exact hc
  | cons r rs ih => exact ih ⟨hc.codeLines, hc.lookBehind, hc.stackLines, hc.inputCapacity⟩

theorem int_of_countOf {minimum n : Int} {key : Text} {j : JsonValue} (h : countOf minimum key j = .ok n) :
    j = .int n := by
  unfold countOf at h
  split at h
  · split at h
    · simp at h
    · rw [Except.ok.inj h]
  · simp at h

/-- What is decoded from a value that was read can be written again. -/
theorem countable_of_decode {j : JsonValue} (hj : Json.Brief j) (h : decode j = .ok c) : c.Countable := by
  unfold decode at h
  split at h
  · next members =>
    have hc := gathered_of_ofMembers h
    have hcount : ∀ {minimum : Int} {key : Text} (j : JsonValue) (n : Int), (key, j) ∈ members →
        countOf minimum key j = .ok n → Numeral.Writable n := fun j n hmem hn => hj _ hmem n (int_of_countOf hn)
    exact ⟨of_memberOr hcount countable_standard.codeLines hc.codeLines,
      of_memberOr hcount countable_standard.lookBehind hc.lookBehind,
      of_memberOr hcount countable_standard.stackLines hc.stackLines,
      of_memberOr hcount countable_standard.inputCapacity hc.inputCapacity⟩
  · simp at h

theorem countable_of_load {path : Option Path} (h : load d path = .ok c) : c.Countable := by
  rcases decoded_of_load h with rfl | ⟨t, j, hread, hdecode⟩
  · exact countable_standard
  · exact countable_of_decode (Json.brief_of_read hread) hdecode

theorem plain_members (hc : c.Countable) : ∀ m ∈ c.members, Json.Plain m.2 := by
  have htext : ∀ t, Json.Plain (.str t) := fun t => ⟨rfl, by simp⟩
  have hcount : ∀ n, Numeral.Writable n → Json.Plain (.int n) := fun n hn => ⟨rfl, by simpa using hn⟩
  have hfile : Json.Plain ((c.lastFile.map JsonValue.str).getD .null) := by
    cases c.lastFile with
    | none => exact ⟨rfl, by simp⟩
    | some t => exact htext t
  intro m hm
  simp only [members, List.mem_cons, List.not_mem_nil, or_false] at hm
  rcases hm with rfl | rfl | rfl | rfl | rfl | rfl | rfl | rfl | rfl
  · exact htext _
  · exact htext _
  · exact htext _
  · exact hcount _ hc.codeLines
  · exact hcount _ hc.lookBehind
  · exact hcount _ hc.stackLines
  · exact hcount _ hc.inputCapacity
  · exact htext _
  · exact hfile

theorem nodup_members (c : Config) : (c.members.map (·.1)).Nodup := by
  change keys.Nodup
  decide

theorem write_of_countable (hc : c.Countable) : c.write = (Json.flatText c.members, .ok ()) :=
  Json.writeFlat_of_plain (plain_members hc)

/-- A count that is too long ends the text in front of it. -/
theorem write_of_not_countable (hc : ¬ c.Countable) : c.write.2 = .error .writing := by
  obtain ⟨m, n, hmem, hn⟩ : ∃ m n, (m, JsonValue.int n) ∈ c.members ∧ ¬ Numeral.Writable n := by
    by_contra hall
    have hshort : ∀ m n, (m, JsonValue.int n) ∈ c.members → Numeral.Writable n := fun m n hmem =>
      not_not.1 fun hn => hall ⟨m, n, hmem, hn⟩
    refine hc ⟨hshort "code_lines" _ ?_, hshort "code_look_behind" _ ?_, hshort "stack_lines" _ ?_,
      hshort "input_capacity" _ ?_⟩ <;> simp [members]
  exact Json.writeFlat_of_not_writable hmem hn

theorem fileAt_defaultPath (d : Device) : fileAt d defaultPath = .ok defaultPath := rfl

/-- What is left of a save to a path that can be written. -/
theorem save_of_writable {file : Path} (hfile : fileAt d p = .ok file) (h : d.Writable file) :
    c.save d p = (d.put file.place (.file (Utf8.encode c.write.1)),
      c.write.2.mapError fun cause => .fault (.digits cause)) := by
  rw [save, hfile]
  simp only [h.noNull, h.write_eq, Bool.false_eq_true, if_false]

/-- The file of a configuration is read as it, however it is looked for. -/
theorem load_of_written (hc : c.Valid) (hcount : c.Countable) (hdepth : 0 < d.depth) {file : Path} (h : d.Writable file)
    {path : Option Path} (hfile : source (d.put file.place (.file (Utf8.encode c.write.1))) path = .ok file) :
    load (d.put file.place (.file (Utf8.encode c.write.1))) path = .ok c := by
  have hwrite : d.write file (Utf8.encode c.write.1) = .ok (d.put file.place (.file (Utf8.encode c.write.1))) := h.write_eq
  obtain ⟨hlookup, hread⟩ := Device.read_of_write hwrite
  have hpresent : isPresent (d.put file.place (.file (Utf8.encode c.write.1))) file = .ok true := by
    rw [isPresent, Device.exists?, h.noNull, hlookup]
    rfl
  have htext : Utf8.readText (Utf8.encode (Json.flatText c.members)) = .ok (Json.flatText c.members) :=
    Utf8.readText_encode (Json.return_notMem_flatText (plain_members hcount))
  have hjson : Json.read d.depth (Json.flatText c.members) = .ok c.encode :=
    Json.read_flatText hdepth (plain_members hcount) c.nodup_members
  obtain ⟨absent, -, hload⟩ := load_eq _ path hfile
  rw [hload, hpresent]
  change readFile _ file = _
  have hbytes := hread h.read
  rw [write_of_countable hcount] at hbytes ⊢
  rw [readFile_of_read hbytes htext hjson, decode_encode hc]
  rfl

/-- The input fields of a session have room. -/
theorem Valid.fields (hc : c.Valid) (machine : Emulator) :
    Fields.create c.inputCapacity = .ok (Session.create machine c.layout).fields := by
  have hroom : ¬ c.inputCapacity < 1 := by
    have := hc.inputCapacity
    omega
  rw [Fields.create, Editor.create, if_neg hroom]
  rfl

end Config

/-- A configuration that was decoded, with any loads since, decodes from its encoding. It can be saved to a file that can
be written if and only if none of its counts has too many digits, and then it is read from that file. It is valid, and
a session is created for it. -/
theorem config_survives_encoding {j : JsonValue} {c : Config} (hc : Config.decode j = .ok c) (rs : List LoadRequest)
    (hrs : ∀ r ∈ rs, r.Nonneg) :
    Config.decode (c.withLoads rs).encode = .ok (c.withLoads rs) ∧
    (∀ d p file, Config.fileAt d p = .ok file → d.Writable file →
      let saved := (c.withLoads rs).save d p
      ((c.withLoads rs).Countable → saved.2 = .ok () ∧ (0 < d.depth →
        Config.load saved.1 (some p) = .ok (c.withLoads rs) ∧
        (p = Config.defaultPath → Config.load saved.1 none = .ok (c.withLoads rs)))) ∧
      (¬ (c.withLoads rs).Countable → saved.2 = .error (.fault (.digits .writing)))) ∧
    (c.withLoads rs).Valid ∧
    ∀ machine, Fields.create (c.withLoads rs).inputCapacity =
      .ok (Session.create machine (c.withLoads rs).layout).fields := by
  have hvalid : (c.withLoads rs).Valid := (Config.valid_of_decode hc).withLoads hrs
  refine ⟨Config.decode_encode hvalid, fun d p file hfile hwritable => ?_, hvalid, hvalid.fields⟩
  have hsave := Config.save_of_writable (c := c.withLoads rs) hfile hwritable
  dsimp only
  rw [hsave]
  refine ⟨fun hcount => ⟨?_, fun hdepth => ⟨?_, ?_⟩⟩, fun hcount => ?_⟩
  · rw [Config.write_of_countable hcount]
    rfl
  · exact Config.load_of_written hvalid hcount hdepth hwritable hfile
  · rintro rfl
    obtain rfl := Except.ok.inj ((Config.fileAt_defaultPath d).symm.trans hfile)
    exact Config.load_of_written hvalid hcount hdepth hwritable rfl
  · rw [Config.write_of_not_countable hcount]
    rfl

/-- A configuration with an underscore in an address and blanks around it and around the name. -/
def spacedConfig : JsonValue :=
  .obj [("pc_start", .str " 0x1_0 "), ("export_name", .str " page.html ")]

theorem decode_spacedConfig :
    Config.decode spacedConfig = .ok { Config.standard with pcStart := 0x10, exportName := "page.html" } := by
  have hknown : Config.unknownKeys [("pc_start", .str " 0x1_0 "), ("export_name", .str " page.html ")] = [] := by
    rw [Config.unknownKeys, show (List.filter _ _ : List Text) = [] by decide, List.mergeSort_nil]
  simp only [spacedConfig, Config.decode, Config.ofMembers, hknown]
  rfl

def emptyDevice : Device where
  working := "/"
  scratch := []
  room := 0x10000
  depth := 100
  nodes := []

theorem spaced_config_survives_encoding :
    let c : Config := { Config.standard with pcStart := 0x10, exportName := "page.html" }
    let r : LoadRequest := ⟨"\r\"", 2 ^ 70, 0, 7⟩
    let saved := (c.withLoad r).save emptyDevice Config.defaultPath
    Config.decode spacedConfig = .ok c ∧ Config.decode (c.withLoad r).encode = .ok (c.withLoad r) ∧
      saved.2 = .ok () ∧ Config.load saved.1 none = .ok (c.withLoad r) := by
  intro c r saved
  obtain ⟨hdecode, hsaved, -, -⟩ := config_survives_encoding decode_spacedConfig [r]
    (by simpa using ⟨by decide, by decide, by decide⟩)
  have hwritable : emptyDevice.Writable Config.defaultPath := by
    refine ⟨by decide, ?_, ?_, ?_, ?_⟩ <;> decide
  have hcount : (c.withLoad r).Countable := by
    constructor <;> exact Numeral.writable_of_lt (by decide)
  obtain ⟨hok, hread⟩ := (hsaved _ _ _ (Config.fileAt_defaultPath emptyDevice) hwritable).1 hcount
  exact ⟨decode_spacedConfig, hdecode, hok, (hread (by decide)).2 rfl⟩

end Stepper
