import PuppetRegistry.Text.Cut

/-!
# Paths

A path is kept in normal form: its root and its parts, without empty parts and without parts that
name the directory they stand in. Parts that name the directory above stay. Two leading slashes are
a root of their own; one, or three and more, are the usual root.
-/

namespace PuppetRegistry

inductive Root
  | here
  | top
  | topmost
  deriving DecidableEq, Repr

structure Path where
  root : Root
  parts : List String
  deriving DecidableEq, Repr

/-- An account of the system. A home directory has no zero character. -/
structure Account where
  name : String
  home : String
  clear : '\x00' ∉ home.toList := by decide
  deriving DecidableEq, Repr

/-- The accounts that the system knows, and the one that the program runs under. -/
structure Accounts where
  own : Option Account := none
  known : List Account := []
  deriving DecidableEq, Repr

namespace Path

def rootText : Root → String
  | .here => ""
  | .top => "/"
  | .topmost => "//"

def splitAll (mark : Char) : List Char → List (List Char)
  | [] => [[]]
  | c :: cs =>
    if c = mark then [] :: splitAll mark cs
    else
      match splitAll mark cs with
      | [] => [[c]]
      | part :: rest => (c :: part) :: rest

/-- Whether a part says where to go. -/
def isPart (part : List Char) : Bool :=
  part != [] && part != ['.']

def rootOf (slashes : Nat) : Root :=
  if slashes = 0 then .here else if slashes = 2 then .topmost else .top

def ofText (text : String) : Path :=
  let cs := text.toList
  ⟨rootOf (cs.takeWhile (· == '/')).length,
    ((splitAll '/' cs).filter isPart).map String.ofList⟩

def text (p : Path) : String :=
  if p.root = .here ∧ p.parts = [] then "."
  else rootText p.root ++ "/".intercalate p.parts

def parent (p : Path) : Path :=
  { p with parts := p.parts.dropLast }

/-! ## The home directory -/

def tilde : Char := '~'

/-- The text of the home directory: without slashes at its end, and the root if nothing is left. -/
def homeText (home : String) : String :=
  let cs := (home.toList.reverse.dropWhile (· == '/')).reverse
  if cs.isEmpty then "/" else String.ofList cs

/-- The home directory that a tilde with this name behind it stands for. Without a name it is the
one that is set, or else the one of the account itself. -/
def homeOf (home : Option String) (accounts : Accounts) (name : List Char) : Option String :=
  if name.isEmpty then home <|> accounts.own.map Account.home
  else (accounts.known.find? fun a => a.name.toList == name).map Account.home

/-- The path with its first part replaced by a home directory, if that part is a tilde or starts
with one. There is no path if the directory is not known, or if it is given by a tilde itself. -/
def expandHome (home : Option String) (accounts : Accounts) (p : Path) : Option Path :=
  match p.root, p.parts with
  | .here, first :: rest =>
    match first.toList with
    | [] => some p
    | c :: name =>
      if c = tilde then
        match (homeOf home accounts name).map homeText with
        | none => none
        | some text =>
          if text.toList.head? = some tilde then none
          else
            let base := ofText text
            some { base with parts := base.parts ++ rest }
      else some p
  | _, _ => some p

end Path

end PuppetRegistry
