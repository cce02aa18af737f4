import PuppetRegistry.Fault
import PuppetRegistry.Path
import PuppetRegistry.Text.Cut
import PuppetRegistry.Text.Utf8

/-!
# SQLite addresses

A text names a file, or memory that lasts as long as one connection. Plain text is the path of the
file. A text that starts with `file:` has options after a question mark, ends at a number sign, and
may write any byte as a percent sign with two hexadecimal digits; the byte zero cuts off the rest of
the name or option that it is in. The options say whether the file may be created and written, and
what becomes of its locks.
-/

namespace PuppetRegistry.Sqlite

inductive Layer
  | locks
  | soleLocks
  | noLocks
  | marker
  | memory
  deriving DecidableEq, Repr

def Layer.ofName? : String → Option Layer
  | "unix" => some locks
  | "unix-excl" => some soleLocks
  | "unix-none" => some noLocks
  | "unix-dotfile" => some marker
  | "memdb" => some memory
  | _ => none

structure Opening where
  creates : Bool := true
  writes : Bool := true
  layer : Layer := .locks
  unlocked : Bool := false
  /-- Whether it is taken for granted that nobody writes it. -/
  frozen : Bool := false
  /-- Whether an index beside the file is neither created nor written. -/
  fixedIndex : Bool := false
  /-- The path of what a new file takes its permissions from. -/
  modelled : Option String := none
  deriving DecidableEq, Repr

def Opening.shares (o : Opening) : Bool :=
  !o.unlocked && !o.frozen && (o.layer == .locks || o.layer == .soleLocks)

inductive Address
  | memory (writes : Bool)
  | file (path : Path) (opening : Opening)
  | refused (error : SqliteError)
  deriving DecidableEq, Repr

namespace Address

/-! ## Reading the parts -/

def hexValue? (c : Char) : Option Nat :=
  let n := c.toNat
  if c.isDigit then some (n - 0x30)
  else if 'a' ≤ c ∧ c ≤ 'f' then some (n - 0x57)
  else if 'A' ≤ c ∧ c ≤ 'F' then some (n - 0x37)
  else none

def byte? (high low : Char) : Option Nat := do
  return 16 * (← hexValue? high) + (← hexValue? low)

def decodeBytes : List Char → List UInt8
  | '%' :: high :: low :: rest =>
    match byte? high low with
    | some 0 => []
    | some n => UInt8.ofNat n :: decodeBytes rest
    | none => String.utf8EncodeChar '%' ++ decodeBytes (high :: low :: rest)
  | c :: rest => String.utf8EncodeChar c ++ decodeBytes rest
  | [] => []

def decode (part : List Char) : String :=
  Text.Utf8.text (decodeBytes part)

/-- The options of an address, with the bytes of their values. One without a name does not count,
one without a value has an empty one. -/
def optionsOf (cs : List Char) : List (String × List UInt8) :=
  let pairs := (Path.splitAll '&' cs).map fun item =>
    match Text.cutAt? '=' item with
    | some (name, value) => (decode name, decodeBytes value)
    | none => (decode item, [])
  pairs.filter fun (name, _) => name != ""

/-! ## Understanding the options -/

inductive Mode
  | readOnly
  | readWrite
  | readWriteCreate
  | memory
  deriving DecidableEq, Repr

def Mode.ofName? : String → Option Mode
  | "ro" => some readOnly
  | "rw" => some readWrite
  | "rwc" => some readWriteCreate
  | "memory" => some memory
  | _ => none

/-- The rank of a mode. After one mode no mode of a higher rank may follow, except for memory. -/
def Mode.rank : Mode → Nat
  | readOnly => 0
  | readWrite => 1
  | readWriteCreate => 2
  | memory => 3

structure Options where
  mode : Mode := .readWriteCreate
  layer : Layer := .locks
  deriving Repr

def Options.add (o : Options) (name : String) (value : List UInt8) : Except SqliteError Options :=
  let text := Text.Utf8.text value
  match name with
  | "mode" =>
    match Mode.ofName? text with
    | none => .error (.unknownValue "access mode" value)
    | some mode =>
      if mode = .memory ∨ mode.rank ≤ o.mode.rank then .ok { o with mode := mode }
      else .error (.modeNotAllowed text)
  | "cache" =>
    if text = "shared" ∨ text = "private" then .ok o
    else .error (.unknownValue "cache mode" value)
  | _ => .ok o

/-- The layer that the last option of its name gives. -/
def layerOf (options : List (String × List UInt8)) : Except SqliteError Layer :=
  match (options.reverse.lookup "vfs") with
  | none => .ok .locks
  | some value =>
    match Layer.ofName? (Text.Utf8.text value) with
    | some layer => .ok layer
    | none => .error (.unknownValue "vfs" value)

def leadingDigits (base : Nat) (cs : List Char) : List Nat :=
  ((cs.map hexValue?).takeWhile fun value => value.any (· < base)).filterMap id

def digitsValue (base : Nat) (digits : List Nat) : Nat :=
  digits.foldl (fun n d => base * n + d) 0

/-- The number that a text starts with: hexadecimal after `0x` if a digit follows, else decimal. A
number that does not fit in 31 bits counts as zero. -/
def leadingNumber (cs : List Char) : Nat :=
  let hexadecimal :=
    match cs with
    | '0' :: x :: rest => if x = 'x' ∨ x = 'X' then leadingDigits 16 rest else []
    | _ => []
  let n :=
    if hexadecimal.isEmpty then digitsValue 10 (leadingDigits 10 cs) else digitsValue 16 hexadecimal
  if n < 0x80000000 then n else 0

/-- Whether a value says yes: a number whose last byte is not zero, or a word. -/
def isYes (value : String) : Bool :=
  let cs := value.toList
  if (cs.head?.map Char.isDigit).getD false then leadingNumber cs % 256 != 0
  else ["on", "yes", "true"].contains (String.ofList (cs.map Char.toLower))

def valueOf? (options : List (String × List UInt8)) (name : String) : Option String :=
  (options.lookup name).map Text.Utf8.text

def isOn (options : List (String × List UInt8)) (name : String) : Bool :=
  ((valueOf? options name).map isYes).getD false

def memoryName : String := ":memory:"

def Options.ofList (options : List (String × List UInt8)) : Except SqliteError Options := do
  let o ← options.foldlM (fun (o : Options) (name, value) => o.add name value) {}
  return { o with layer := ← layerOf options }

def withOptions (name : String) (options : List (String × List UInt8)) : Address :=
  match Options.ofList options with
  | .error error => .refused error
  | .ok o =>
    let frozen := isOn options "immutable"
    if name = "" ∨ name = memoryName ∨ o.mode = .memory then .memory (o.mode != .readOnly)
    else if o.layer = .memory then .memory (o.mode != .readOnly && !frozen)
    else
      .file (.ofText name) {
        creates := o.mode = .readWriteCreate
        writes := o.mode ≠ .readOnly
        layer := o.layer
        unlocked := isOn options "nolock"
        frozen := frozen
        fixedIndex := isOn options "readonly_shm"
        modelled := valueOf? options "modeof" }

def ofText (text : String) : Address :=
  match Text.dropStart? "file:".toList text.toList with
  | some rest =>
    let cs := Text.upTo '#' rest
    match Text.cutAt? '?' cs with
    | some (name, options) => withOptions (decode name) (optionsOf options)
    | none => withOptions (decode cs) []
  | none => if text = memoryName then .memory true else .file (.ofText text) {}

end Address

end PuppetRegistry.Sqlite
