import Stepper.Text.Basic

/-! Paths: names parted by slashes, counted from the working directory or from the root. Empty names and
single dots are dropped when a path is read. A pair of dots leads to the folder around a place. -/

namespace Stepper

/-- Where a path starts. A path from the working directory may be written short or in full. -/
inductive PathBase where
  | relative
  | working
  | root
  deriving DecidableEq, Repr

structure Path where
  base : PathBase
  names : List Text
  deriving DecidableEq, Repr

/-- A place: the names on the way to it from the working directory, or behind a slash those from the root.
Only pairs of dots in front of all other names lead out of the working directory. -/
abbrev Place := List Text

namespace Place

def outward : Text := ['.', '.']

def root : Place := [['/']]

/-- The working directory is left for the folder around it; around the root there is none. -/
def step (place : Place) (name : Text) : Place :=
  if name != outward then place ++ [name]
  else if place.all (· == outward) then place ++ [outward]
  else if place = root then root
  else place.dropLast

end Place

namespace Path

def namesOf (t : Text) : List Text :=
  (Text.splitOn '/' t).filter fun name => !(name.isEmpty || name == ['.'])

def ofText (t : Text) : Path :=
  ⟨if t.head? = some '/' then .root else .relative, namesOf t⟩

def append (p : Path) (t : Text) : Path :=
  if t.head? = some '/' then ofText t else { p with names := p.names ++ namesOf t }

/-- The path of a name in the working directory, written in full. -/
def inWorking (t : Text) : Path :=
  append ⟨.working, []⟩ t

def name (p : Path) : Text :=
  p.names.getLast?.getD []

def parent (p : Path) : Path :=
  { p with names := p.names.dropLast }

/-- The last name is one that can be moved to. -/
def hasOwnName (p : Path) : Bool :=
  match p.names.getLast? with
  | some last => last != Place.outward
  | none => false

/-- A path from the working directory may begin with a tilde and the name of a user, whose home folder it means. The
one who runs the program needs no name. -/
def homeName? (p : Path) : Option Text :=
  match p.base, p.names with
  | .relative, ('~' :: user) :: _ => some user
  | _, _ => none

/-- The rest of a path, counted from a home folder. A home without a text is the root. -/
def fromHome (p : Path) (home : Text) : Path :=
  let start := ofText (if home.isEmpty then ['/'] else home)
  { start with names := start.names ++ p.names.tail }

/-- No file has a path with a null character in it. -/
def hasNull (p : Path) : Bool :=
  p.names.any (·.contains '\x00')

def render (working : Text) (p : Path) : Text :=
  match p.base, p.names with
  | .relative, [] => "."
  | .relative, names => Text.join "/" names
  | .working, [] => working
  | .working, names => working ++ "/" ++ Text.join "/" names
  | .root, names => "/" ++ Text.join "/" names

def start (p : Path) : Place :=
  match p.base with
  | .root => Place.root
  | _ => []

/-- Where a path leads if every name on the way is a folder. -/
def place (p : Path) : Place :=
  p.names.foldl Place.step p.start

def ofPlace : Place → Path
  | ['/'] :: names => ⟨.root, names⟩
  | names => ⟨.working, names⟩

/-- The same place written in full. -/
def inFull (p : Path) : Path :=
  ofPlace p.place

end Path

end Stepper
