import Stepper.Files.Device
import Stepper.Proofs.Files.Utf8

/-! What the operations on files leave of a tree. A place that is not written keeps its node, and a path leads to the same
place as long as the folders on its way stay. So a file is replaced as a whole, or the tree is as it was: the scratch
file is at a place where nothing else is. Only if the system refuses to remove it does the scratch file stay. -/

namespace Stepper.Device

/-- Whatever is read from a path is the encoding of a text. -/
def Legible (d : Device) (p : Path) : Prop :=
  ∀ bytes, d.read p = .ok bytes → ∃ t, bytes = Utf8.encode t

variable {d d' : Device} {p target : Path} {place q : Place} {node : Node} {bytes : List UInt8} {m : Mishaps}

theorem legible_iff (h : d.read p = .ok bytes) : d.Legible p ↔ ∃ text, Utf8.readText bytes = .ok text := by
  constructor
  · intro hlegible
    obtain ⟨t, rfl⟩ := hlegible bytes h
    exact ⟨_, Utf8.readText_eq_ok_iff.2 ⟨t, rfl, rfl⟩⟩
  · rintro ⟨text, htext⟩ bytes' h'
    obtain ⟨t, ht, -⟩ := Utf8.readText_eq_ok_iff.1 htext
    exact ⟨t, (Except.ok.inj (h'.symm.trans h)).trans ht⟩

theorem legible_of_unread (h : ∀ bytes, d.read p ≠ .ok bytes) : d.Legible p :=
  fun bytes hread => absurd hread (h bytes)

/-! ### Nodes -/

/-- The folders that are there on every device. -/
def Standing (place : Place) : Prop :=
  place.all (· == Place.outward) = true ∨ place = Place.root

theorem node?_of_not_standing (h : ¬ Standing place) : d.node? place = d.nodes.lookup place :=
  if_neg h

theorem node?_of_standing (h : Standing place) : d.node? place = some .folder :=
  if_pos h

theorem not_standing_of_node? (h : d.node? place ≠ some .folder) : ¬ Standing place :=
  fun hstanding => h (node?_of_standing hstanding)

/-- A choice by places leaves what is at a place, or nothing. -/
theorem lookup_filter (f : Place → Bool) (nodes : List (Place × Node)) (q : Place) :
    (nodes.filter fun n => f n.1).lookup q = if f q then nodes.lookup q else none := by
  induction nodes with
  | nil => simp
  | cons n nodes ih =>
    obtain ⟨place, node⟩ := n
    by_cases hq : q = place
    · subst hq
      cases hf : f q <;> simp [hf, ih]
    · have hb : (q == place) = false := beq_eq_false_iff_ne.2 hq
      cases hf : f place <;> simp [hf, List.lookup_cons, hb, ih]

/-- A device whose other nodes are the same has the same at every other place. -/
theorem node?_congr (h : d'.nodes.lookup q = d.nodes.lookup q) : d'.node? q = d.node? q := by
  unfold node?
  rw [h]

theorem node?_put_of_ne (h : q ≠ place) : (d.put place node).node? q = d.node? q := by
  refine node?_congr ?_
  rw [put, List.lookup_cons, beq_eq_false_iff_ne.2 h]
  exact (lookup_filter (· != place) d.nodes q).trans (if_pos (bne_iff_ne.2 h))

theorem node?_put_self (h : ¬ Standing place) : (d.put place node).node? place = some node := by
  rw [node?_of_not_standing h, put, List.lookup_cons, beq_self_eq_true]

theorem node?_erase_of_ne (h : q ≠ place) : (d.erase place).node? q = d.node? q :=
  node?_congr ((lookup_filter (· != place) d.nodes q).trans (if_pos (bne_iff_ne.2 h)))

/-- What was put where nothing was can be taken away again. -/
theorem erase_put (h : d.node? place = none) : (d.put place node).erase place = d := by
  have hstanding : ¬ Standing place := not_standing_of_node? (d := d) (by simp [h])
  have hfresh : ∀ n ∈ d.nodes, (n.1 != place) = true := by
    rw [node?_of_not_standing hstanding, List.lookup_eq_none_iff] at h
    intro n hn
    have hne : place ≠ n.1 := by simpa using h n hn
    exact bne_iff_ne.2 hne.symm
  have hnodes : d.nodes.filter (·.1 != place) = d.nodes := List.filter_eq_self.2 hfresh
  simp [put, erase, hnodes]

/-! ### Paths -/

/-- The folders of one tree are there in another one, and no other ones are closed. -/
structure KeepsFolders (d d' : Device) : Prop where
  working : d'.working = d.working
  refusals : d'.refusals = d.refusals
  folders : ∀ place, d.node? place = some .folder → d'.node? place = some .folder

theorem keepsFolders_put (h : d.node? place ≠ some .folder) (node : Node) : KeepsFolders d (d.put place node) := by
  refine ⟨rfl, rfl, fun q hq => ?_⟩
  have hne : q ≠ place := by
    rintro rfl
    exact h hq
  rw [node?_put_of_ne hne, hq]

theorem keepsFolders_erase (h : d.node? place ≠ some .folder) : KeepsFolders d (d.erase place) := by
  refine ⟨rfl, rfl, fun q hq => ?_⟩
  have hne : q ≠ place := by
    rintro rfl
    exact h hq
  rw [node?_erase_of_ne hne, hq]

theorem follow_eq_ok {names : List Text} (h : d.follow place names = .ok q) : q = names.foldl Place.step place := by
  induction names generalizing place with
  | nil => exact (Except.ok.inj h).symm
  | cons name names ih =>
    rw [follow] at h
    split at h
    · simp at h
    · simp at h
    · split at h
      · simp at h
      · split at h
        · simp at h
        · exact ih h

theorem KeepsFolders.follow (hkeep : KeepsFolders d d') {names : List Text} (h : d.follow place names = .ok q) :
    d'.follow place names = .ok q := by
  induction names generalizing place with
  | nil => exact h
  | cons name names ih =>
    rw [Device.follow] at h ⊢
    split at h
    · simp at h
    · simp at h
    · next hfolder =>
      have hsame : d'.refusal? place .search = d.refusal? place .search := by rw [refusal?, refusal?, hkeep.refusals]
      rw [hkeep.folders place hfolder]
      dsimp only
      rw [hsame]
      split at h
      · simp at h
      · split at h
        · simp at h
        · next hsize =>
          rw [if_neg hsize]
          exact ih h

theorem locate_eq_ok (h : d.locate p = .ok q) : q = p.place := by
  unfold locate at h
  split at h
  · simp at h
  · exact follow_eq_ok h

theorem KeepsFolders.locate (hkeep : KeepsFolders d d') (h : d.locate p = .ok q) : d'.locate p = .ok q := by
  unfold Device.locate at h ⊢
  rw [hkeep.working]
  split at h
  · simp at h
  · next hsize =>
    rw [if_neg hsize]
    exact hkeep.follow h

theorem lookup_of_locate (h : d.locate p = .ok q) : d.lookup p = .ok (q, d.node? q) := by
  simp [lookup, h, bind, Except.bind, pure, Except.pure]

theorem lookup_eq_ok {found : Option Node} (h : d.lookup p = .ok (q, found)) :
    d.locate p = .ok p.place ∧ q = p.place ∧ found = d.node? p.place := by
  cases hlocate : d.locate p with
  | error kind => simp [lookup, hlocate, bind, Except.bind] at h
  | ok place =>
    obtain rfl := locate_eq_ok hlocate
    rw [lookup_of_locate hlocate] at h
    obtain ⟨rfl, rfl⟩ := Prod.mk.inj (Except.ok.inj h)
    exact ⟨rfl, rfl, rfl⟩

theorem read_of_file (hlocate : d.locate p = .ok p.place) (h : d.node? p.place = some (.file bytes))
    (hread : d.refusal? p.place .read = none) : d.read p = .ok bytes := by
  simp [read, lookup_of_locate hlocate, h, hread]

/-! ### Writing and moving -/

theorem write_eq_ok (h : d.write p bytes = .ok d') :
    d.locate p = .ok p.place ∧ d.node? p.place ≠ some .folder ∧ d' = d.put p.place (.file bytes) := by
  unfold write at h
  split at h
  · simp at h
  · next place found hfound hlookup =>
    obtain ⟨hlocate, rfl, rfl⟩ := lookup_eq_ok hlookup
    split at h
    · simp at h
    · exact ⟨hlocate, hfound, (Except.ok.inj h).symm⟩
  · simp at h

/-- A file may be written to a path and read from it: the folders on the way are there, and it leads to no folder. -/
structure Writable (d : Device) (p : Path) : Prop where
  noNull : p.hasNull = false
  located : d.locate p = .ok p.place
  noFolder : d.node? p.place ≠ some .folder
  write : d.refusal? p.place .write = none
  read : d.refusal? p.place .read = none

theorem Writable.write_eq (h : d.Writable p) : d.write p bytes = .ok (d.put p.place (.file bytes)) := by
  rw [Device.write, lookup_of_locate h.located]
  cases hnode : d.node? p.place with
  | none => simp [h.write]
  | some node =>
    cases node with
    | file old => simp [h.write]
    | folder => exact absurd hnode h.noFolder

/-- What is written to a path is there, and is read from it if that is not refused. -/
theorem read_of_write (h : d.write p bytes = .ok d') : d'.lookup p = .ok (p.place, some (.file bytes)) ∧
    (d.refusal? p.place .read = none → d'.read p = .ok bytes) := by
  obtain ⟨hlocate, hfolder, rfl⟩ := write_eq_ok h
  have hnew := (keepsFolders_put hfolder (.file bytes)).locate hlocate
  have hnode : (d.put p.place (.file bytes)).node? p.place = some (.file bytes) :=
    node?_put_self (not_standing_of_node? hfolder)
  exact ⟨by rw [lookup_of_locate hnew, hnode], read_of_file hnew hnode⟩

/-- A file that was written where nothing was can be removed without a trace. -/
theorem remove_of_write (hnone : d.node? p.place = none) (h : d.write p bytes = .ok d') : d'.remove p = d := by
  obtain ⟨hlocate, hfolder, rfl⟩ := write_eq_ok h
  simp [remove, (keepsFolders_put hfolder _).locate hlocate, erase_put hnone]

theorem move_eq_ok (h : d.move p target = .ok d') : ∃ n, d.node? p.place = some n ∧ d.locate target = .ok target.place ∧
    d.node? target.place ≠ some .folder ∧ d' = (d.erase p.place).put target.place n := by
  unfold move at h
  cases hfrom : d.lookup p with
  | error kind => simp [hfrom, bind, Except.bind] at h
  | ok source =>
    cases hto : d.lookup target with
    | error kind => simp [hfrom, hto, bind, Except.bind] at h
    | ok goal =>
      obtain ⟨-, hsource, hnode⟩ := lookup_eq_ok hfrom
      obtain ⟨hlocate, hgoal, hold⟩ := lookup_eq_ok hto
      simp only [hfrom, hto, bind, Except.bind, pure, Except.pure, throw, throwThe, MonadExceptOf.throw] at h
      rw [hsource, hgoal, hnode, hold] at h
      split at h
      · simp at h
      · split at h
        · simp at h
        · simp at h
        · next n hn hfolder => exact ⟨n, hn, hlocate, hfolder, (Except.ok.inj h).symm⟩

/-! ### Replacing -/

/-- Nothing is where the scratch file for a target goes. -/
def Fresh (d : Device) (target : Path) : Prop :=
  d.node? (scratchPath target scratchMark).place = none

def scratchName (target : Path) : Text :=
  "." ++ target.name ++ "." ++ scratchMark ++ ".tmp"

theorem length_scratchName (target : Path) : (scratchName target).length = target.name.length + 14 := by
  simp [scratchName, scratchMark]

theorem exists_scratch_place (target : Path) :
    ∃ folder : Place, (scratchPath target scratchMark).place = folder ++ [scratchName target] := by
  have hmark : scratchName target ≠ Place.outward := by
    intro h
    have hlength := length_scratchName target
    rw [h] at hlength
    simp [Place.outward] at hlength
  refine ⟨target.parent.inFull.names.foldl Place.step target.parent.inFull.start, ?_⟩
  rw [scratchPath, Path.place, List.foldl_append, List.foldl_cons, List.foldl_nil]
  exact if_pos (bne_iff_ne.2 hmark)

/-- Where no name has a slash in it, nothing is where a scratch file goes. -/
theorem fresh_of_slashless (h : ∀ n ∈ d.nodes, ∀ name ∈ n.1, name = ['/'] ∨ '/' ∉ name) (target : Path) :
    d.Fresh target := by
  obtain ⟨folder, hplace⟩ := exists_scratch_place target
  have hlength := length_scratchName target
  have hmem : scratchName target ∈ (scratchPath target scratchMark).place := by simp [hplace]
  have hstanding : ¬ Standing (scratchPath target scratchMark).place := by
    rintro (hall | hroot)
    · rw [List.all_eq_true] at hall
      rw [beq_iff_eq.1 (hall _ hmem)] at hlength
      simp [Place.outward] at hlength
    · rw [hroot, Place.root, List.mem_singleton] at hmem
      simp [hmem] at hlength
  rw [Fresh, node?_of_not_standing hstanding, List.lookup_eq_none_iff]
  intro n hn
  rw [bne_iff_ne]
  intro heq
  rcases h n hn (scratchName target) (heq ▸ hmem) with hname | hslash
  · rw [hname] at hlength
    simp at hlength
  · exact hslash (by simp [scratchName, scratchMark])

/-- A file has new content, which is read from it if that is not refused, and everything else is as it was. -/
structure Replaced (d d' : Device) (target : Path) (bytes : List UInt8) : Prop where
  content : d'.lookup target = .ok (target.place, some (.file bytes))
  read : d.refusal? target.place .read = none → d'.read target = .ok bytes
  others : ∀ place, place ≠ target.place → d'.node? place = d.node? place

/-- A scratch file stays where nothing was, and everything else is as it was. -/
structure LeftOver (d d' : Device) (target : Path) : Prop where
  fresh : d.node? (scratchPath target scratchMark).place = none
  scratch : ∃ arrived, d'.node? (scratchPath target scratchMark).place = some (.file arrived)
  others : ∀ place, place ≠ (scratchPath target scratchMark).place → d'.node? place = d.node? place

/-- A file is moved away from where nothing was before it. -/
theorem replaced_of_move {scratch : Path} {written : Device} (hfresh : d.node? scratch.place = none)
    (hwrite : d.write scratch bytes = .ok written) (hmove : written.move scratch target = .ok d') :
    Replaced d d' target bytes := by
  obtain ⟨-, hfolder, rfl⟩ := write_eq_ok hwrite
  have hscratch : ¬ Standing scratch.place := not_standing_of_node? hfolder
  obtain ⟨n, hn, hlocate, hgoal, rfl⟩ := move_eq_ok hmove
  obtain rfl := Option.some.inj (hn.symm.trans (node?_put_self hscratch))
  have hnode : (d.put scratch.place (.file bytes)).node? scratch.place ≠ some .folder := by simp [hn]
  have hkeep := keepsFolders_erase hnode
  have hold : ((d.put scratch.place (.file bytes)).erase scratch.place).node? target.place ≠ some .folder := by
    rw [erase_put hfresh]
    by_cases hsame : target.place = scratch.place
    · rw [hsame, hfresh]
      simp
    · rwa [node?_put_of_ne hsame] at hgoal
  rw [erase_put hfresh] at hkeep hold ⊢
  have hthere := (keepsFolders_put hold (.file bytes)).locate (hkeep.locate hlocate)
  have hfile : (d.put target.place (.file bytes)).node? target.place = some (.file bytes) :=
    node?_put_self (not_standing_of_node? hold)
  exact ⟨by rw [lookup_of_locate hthere, hfile], read_of_file hthere hfile, fun place hplace => node?_put_of_ne hplace⟩

theorem leftOver_of_write {written : Device} {arrived : List UInt8} (hfresh : d.Fresh target)
    (hwrite : d.write (scratchPath target scratchMark) arrived = .ok written) : LeftOver d written target := by
  obtain ⟨-, hfolder, rfl⟩ := write_eq_ok hwrite
  exact ⟨hfresh, ⟨arrived, node?_put_self (not_standing_of_node? hfolder)⟩, fun place hplace => node?_put_of_ne hplace⟩

theorem fill_eq_ok {scratch : Path} {written : Device} {result : Except Text Unit}
    (h : d.fill scratch bytes m = .ok (written, result)) : ∃ arrived, d.write scratch arrived = .ok written ∧
      (result = .ok () → arrived = bytes) := by
  unfold fill at h
  split at h
  · simp at h
  · next taken reason _ _ =>
    cases hwrite : d.write scratch (bytes.take taken) with
    | error cause => simp [hwrite, Except.mapError, bind, Except.bind] at h
    | ok partly =>
      simp only [hwrite, Except.mapError, bind, Except.bind, pure, Except.pure, Except.ok.injEq, Prod.mk.injEq] at h
      obtain ⟨rfl, rfl⟩ := h
      exact ⟨_, hwrite, by simp⟩
  · cases hwrite : d.write scratch bytes with
    | error cause => simp [hwrite, Except.mapError, bind, Except.bind] at h
    | ok whole =>
      simp only [hwrite, Except.mapError, bind, Except.bind, pure, Except.pure, Except.ok.injEq, Prod.mk.injEq] at h
      obtain ⟨rfl, -⟩ := h
      exact ⟨_, hwrite, fun _ => rfl⟩

theorem settle_eq_ok {scratch : Path} (h : d.settle scratch target m = .ok d') : d.move scratch target = .ok d' := by
  unfold settle at h
  split at h
  · simp at h
  · exact h

/-- The ways in which the replacement of a file ends: it is done, it has failed and the tree is as it was, or it has failed
and the system refuses to remove the scratch file, too. -/
inductive Ends (d : Device) (target : Path) (bytes : List UInt8) (m : Mishaps) :
    Device × Except ReplaceError Unit → Prop
  | done {d' : Device} (replaced : Replaced d d' target bytes) : Ends d target bytes m (d', .ok ())
  | failed (cause : FileError) : Ends d target bytes m (d, .error (.failed cause))
  | leftover {d' : Device} {reason : Text} (refused : m.removing = some reason) (stays : LeftOver d d' target) :
    Ends d target bytes m
      (d', .error (.leftover ⟨.refused reason, some ((scratchPath target d.scratch).render d.working), none⟩))

/-- Nothing is left over where the system lets a scratch file be removed. -/
theorem replace_ne_leftover (hm : m.removing = none) (target : Path) (bytes : List UInt8) (cause : FileError) :
    (d.replace target bytes m).2 ≠ .error (.leftover cause) := by
  have hgiveUp : ∀ (written : Device) scratch shown why,
      (written.giveUp scratch shown m why).2 ≠ .error (.leftover cause) := by
    intro written scratch shown why
    simp [giveUp, hm]
  unfold replace
  dsimp only
  split
  · simp
  · exact hgiveUp _ _ _ _
  · split
    · simp
    · exact hgiveUp _ _ _ _

theorem ends_giveUp {written : Device} {arrived : List UInt8} (hfresh : d.Fresh target)
    (hwrite : d.write (scratchPath target scratchMark) arrived = .ok written) (cause : FileError) :
    d.Ends target bytes m (written.giveUp (scratchPath target scratchMark)
      ((scratchPath target d.scratch).render d.working) m cause) := by
  unfold giveUp
  split
  · next reason hreason => exact .leftover hreason (leftOver_of_write hfresh hwrite)
  · rw [remove_of_write hfresh hwrite]
    exact .failed cause

/-- There are no other ways. -/
theorem ends_replace (hfresh : d.Fresh target) (bytes : List UInt8) (m : Mishaps) :
    d.Ends target bytes m (d.replace target bytes m) := by
  unfold replace
  dsimp only
  cases hfill : d.fill (scratchPath target scratchMark) bytes m with
  | error kind => exact .failed _
  | ok filled =>
    obtain ⟨written, result⟩ := filled
    obtain ⟨arrived, hwrite, hall⟩ := fill_eq_ok hfill
    cases result with
    | error reason => exact ends_giveUp hfresh hwrite _
    | ok _ =>
      obtain rfl := hall rfl
      dsimp only
      cases hsettle : written.settle (scratchPath target scratchMark) target m with
      | error kind => exact ends_giveUp hfresh hwrite _
      | ok moved => exact .done (replaced_of_move hfresh hwrite (settle_eq_ok hsettle))

end Stepper.Device
