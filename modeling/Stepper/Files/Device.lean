import Stepper.Files.Path
import Stepper.Files.Utf8
import Stepper.Text.Quoted

/-! The device that the program runs on: a tree of files and folders around the working directory, what the system
refuses there, and how much it grants. A failed operation leaves the tree as it was; the replacement of a file goes
through a scratch file beside it, which outlives the operation only if the system refuses to remove it. -/

namespace Stepper

inductive FileErrorKind where
  | notFound
  | notFolder
  | isFolder
  | busy
  | nameTooLong
  /-- The system has reasons of its own, such as a full disk or a missing permission. -/
  | refused (reason : Text)
  deriving DecidableEq, Repr

/-- The path leads nowhere; for any other reason it cannot even be looked for. -/
def FileErrorKind.isAbsence : FileErrorKind → Bool
  | notFound => true
  | notFolder => true
  | _ => false

def FileErrorKind.text : FileErrorKind → Text
  | notFound => "[Errno 2] No such file or directory"
  | notFolder => "[Errno 20] Not a directory"
  | isFolder => "[Errno 21] Is a directory"
  | busy => "[Errno 16] Device or resource busy"
  | nameTooLong => "[Errno 36] File name too long"
  | refused reason => reason

/-- What failed, on which path, and for a move also towards which path. A file that is already open has no path. -/
structure FileError where
  kind : FileErrorKind
  path : Option Text
  target : Option Text
  deriving DecidableEq, Repr

def FileError.message (e : FileError) : Text :=
  let shownAfter := fun (sign : Text) (path : Option Text) => (path.map fun p => sign ++ Text.quote p).getD []
  e.kind.text ++ shownAfter ": " e.path ++ shownAfter " -> " e.target

inductive Node where
  | file (bytes : List UInt8)
  | folder
  deriving DecidableEq, Repr

/-- What can be done at a place: to look into a folder, and to read or to write a file. -/
inductive Access where
  | search
  | read
  | write
  deriving DecidableEq, Repr

structure Device where
  /-- The text of the working directory. -/
  working : Text
  /-- The text that is shown for the mark of a scratch file. -/
  scratch : Text
  nodes : List (Place × Node)
  /-- What the system does not permit, and how it says so. -/
  refusals : List ((Place × Access) × Text) := []
  /-- The home folder of each user; the one who runs the program needs no name. -/
  homes : List (Text × Text) := []
  /-- For a stack of how many bytes there is too little memory. -/
  room : Nat
  /-- How many arrays and objects of a JSON text may be open at a time. -/
  depth : Nat
  deriving DecidableEq, Repr

namespace Device

/-- How many bytes a name may have, and how many a whole path. -/
def nameLimit : Nat := 255

def pathLimit : Nat := 4095

/-- The working directory, the folders around it and the root are always there. -/
def node? (d : Device) (place : Place) : Option Node :=
  if place.all (· == Place.outward) ∨ place = Place.root then some .folder else d.nodes.lookup place

def refusal? (d : Device) (place : Place) (access : Access) : Option Text :=
  d.refusals.lookup (place, access)

/-- The home folder of a user, unless it is counted from a home folder again. -/
def home? (d : Device) (user : Text) : Option Text :=
  (d.homes.lookup user).filter (·.head? != some '~')

def put (d : Device) (place : Place) (node : Node) : Device :=
  { d with nodes := (place, node) :: d.nodes.filter (·.1 != place) }

def erase (d : Device) (place : Place) : Device :=
  { d with nodes := d.nodes.filter (·.1 != place) }

/-- Follows names from a place on; everything on the way has to be a folder that one may look into. -/
def follow (d : Device) (place : Place) : List Text → Except FileErrorKind Place
  | [] => .ok place
  | name :: rest =>
    match d.node? place with
    | none => .error .notFound
    | some (.file _) => .error .notFolder
    | some .folder =>
      match d.refusal? place .search with
      | some reason => .error (.refused reason)
      | none => if Utf8.size name > nameLimit then .error .nameTooLong else d.follow (place.step name) rest

/-- The length of a path counts before anything on the way does. -/
def locate (d : Device) (p : Path) : Except FileErrorKind Place :=
  if Utf8.size (p.render d.working) > pathLimit then .error .nameTooLong else d.follow p.start p.names

def lookup (d : Device) (p : Path) : Except FileErrorKind (Place × Option Node) := do
  let place ← d.locate p
  pure (place, d.node? place)

def fail (d : Device) (p : Path) (kind : FileErrorKind) : FileError :=
  ⟨kind, some (p.render d.working), none⟩

def exists? (d : Device) (p : Path) : Except FileError Bool :=
  if p.hasNull then .ok false
  else match d.lookup p with
    | .ok (_, node) => .ok node.isSome
    | .error kind => if kind.isAbsence then .ok false else .error (d.fail p kind)

def read (d : Device) (p : Path) : Except FileError (List UInt8) :=
  match d.lookup p with
  | .ok (place, some (.file bytes)) =>
    match d.refusal? place .read with
    | some reason => .error (d.fail p (.refused reason))
    | none => .ok bytes
  | .ok (_, some .folder) => .error (d.fail p .isFolder)
  | .ok (_, none) => .error (d.fail p .notFound)
  | .error kind => .error (d.fail p kind)

/-- Writes a file in place, over an old one if there is one. -/
def write (d : Device) (p : Path) (bytes : List UInt8) : Except FileError Device :=
  match d.lookup p with
  | .ok (_, some .folder) => .error (d.fail p .isFolder)
  | .ok (place, _) =>
    match d.refusal? place .write with
    | some reason => .error (d.fail p (.refused reason))
    | none => .ok (d.put place (.file bytes))
  | .error kind => .error (d.fail p kind)

/-- The mark in the name of a scratch file has eight characters. A slash is in no other name. -/
def scratchMark : Text := List.replicate 8 '/'

/-- The scratch file for the replacement of a file, beside it. -/
def scratchPath (target : Path) (mark : Text) : Path :=
  let folder := target.parent.inFull
  { folder with names := folder.names ++ [("." ++ target.name ++ "." ++ mark ++ ".tmp" : Text)] }

/-- Moves a file over a target that is no folder. -/
def move (d : Device) (source target : Path) : Except FileErrorKind Device := do
  let (from', node) ← d.lookup source
  let (to', old) ← d.lookup target
  if !target.hasOwnName then throw .busy
  match node, old with
  | none, _ => throw .notFound
  | _, some .folder => throw .isFolder
  | some n, _ => pure ((d.erase from').put to' n)

def remove (d : Device) (p : Path) : Device :=
  match d.locate p with
  | .ok place => d.erase place
  | .error _ => d

/-- What the system may refuse while a file is replaced, whatever is on the device, and how it says so: to create the
scratch file, to take all of the content, to move the scratch file, and to remove it. -/
structure Mishaps where
  creating : Option Text := none
  filling : Option (Nat × Text) := none
  moving : Option Text := none
  removing : Option Text := none
  deriving DecidableEq, Repr

/-- Creates the scratch file with what the system takes of the content, and whether it is all. -/
def fill (d : Device) (scratch : Path) (bytes : List UInt8) (m : Mishaps) :
    Except FileErrorKind (Device × Except Text Unit) :=
  match m.creating, m.filling with
  | some reason, _ => .error (.refused reason)
  | none, some (taken, reason) => do
    let partly ← (d.write scratch (bytes.take taken)).mapError (·.kind)
    pure (partly, .error reason)
  | none, none => do
    let written ← (d.write scratch bytes).mapError (·.kind)
    pure (written, .ok ())

/-- Moves the scratch file over the target, if the system lets it. -/
def settle (d : Device) (scratch target : Path) (m : Mishaps) : Except FileErrorKind Device :=
  match m.moving with
  | some reason => .error (.refused reason)
  | none => d.move scratch target

/-- Why a file was not replaced. If the scratch file could not be removed, that is all that is told. -/
inductive ReplaceError where
  | failed (cause : FileError)
  | leftover (cause : FileError)
  deriving DecidableEq, Repr

/-- Gives up a replacement for a cause: the scratch file is removed, if the system lets it. -/
def giveUp (d : Device) (scratch : Path) (shown : Text) (m : Mishaps) (cause : FileError) :
    Device × Except ReplaceError Unit :=
  match m.removing with
  | some reason => (d, .error (.leftover ⟨.refused reason, some shown, none⟩))
  | none => (d.remove scratch, .error (.failed cause))

/-- Replaces a file as a whole or not at all: the content is written to the scratch file, which is then
moved over the target, or removed if that fails. -/
def replace (d : Device) (target : Path) (bytes : List UInt8) (m : Mishaps := {}) : Device × Except ReplaceError Unit :=
  let scratch := scratchPath target scratchMark
  let shown := (scratchPath target d.scratch).render d.working
  match d.fill scratch bytes m with
  | .error kind => (d, .error (.failed ⟨kind, some shown, none⟩))
  | .ok (partly, .error reason) => partly.giveUp scratch shown m ⟨.refused reason, none, none⟩
  | .ok (written, .ok ()) =>
    match written.settle scratch target m with
    | .ok moved => (moved, .ok ())
    | .error kind => written.giveUp scratch shown m ⟨kind, some shown, some (target.render d.working)⟩

/-- Puts a file and the folders on the way to it. -/
def install (d : Device) (p : Path) (node : Node) : Device :=
  let folders := (List.range p.names.length).tail.map fun n => { p with names := p.names.take n }.place
  (folders.foldl (fun d place => if (d.node? place).isSome then d else d.put place .folder) d).put
    p.place node

/-- Takes a node away with everything in it. -/
def discard (d : Device) (p : Path) : Device :=
  { d with nodes := d.nodes.filter fun n => !p.place.isPrefixOf n.1 }

end Device

end Stepper
