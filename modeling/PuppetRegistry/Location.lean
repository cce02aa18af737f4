import PuppetRegistry.Path

/-!
# Locations

A location is where a path leads: the parts that name the directory above have been followed, so
different paths may lead to one location.
-/

namespace PuppetRegistry

/-- A place on the disk: so many directories above the working directory, or at the top of the disk,
and down from there. -/
structure Location where
  fromTop : Bool := false
  above : Nat := 0
  /-- The names on the way down, the last one first. -/
  names : List String := []
  deriving DecidableEq, Repr

namespace Location

def parent (l : Location) : Location :=
  { l with names := l.names.tail }

def step (l : Location) (part : String) : Location :=
  if part = ".." then
    if l.names.isEmpty then { l with above := if l.fromTop then 0 else l.above + 1 } else l.parent
  else { l with names := part :: l.names }

def start (root : Root) : Location :=
  { fromTop := root ≠ .here }

def ofPath (p : Path) : Location :=
  p.parts.foldl step (start p.root)

def beside (l : Location) (ending : String) : Location :=
  match l.names with
  | [] => l
  | last :: others => { l with names := (last ++ ending) :: others }

/-- Whether a location is the working directory, a directory above it, or the top of the disk. -/
def isBase (l : Location) : Bool :=
  l.names.isEmpty

def nameSize (l : Location) : Nat :=
  (l.names.head?.map String.utf8ByteSize).getD 0

/-- The size in bytes of the path to the working directory, or to a directory so far above it. The
working directory is taken to be two steps below the top, behind names of 3 and 11 bytes. -/
def workingSize (above : Nat) : Nat :=
  match above with
  | 0 => 16
  | 1 => 4
  | _ => 0

def pathSize (l : Location) : Nat :=
  l.names.foldl (fun size name => size + (name.utf8ByteSize + 1)) 0 +
    if l.fromTop then 0 else workingSize l.above

end Location

end PuppetRegistry
