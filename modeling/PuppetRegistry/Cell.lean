import PuppetRegistry.Binary64.Decimal
import PuppetRegistry.Conversion
import PuppetRegistry.Text.Quoted

/-!
# Cells

A cell is one value of a stored row or one argument of a statement. Its type is known only when it
is read, so a record is read through conversions: to text, to a whole number, to a flag. Null stands
for the empty text, zero and false.
-/

namespace PuppetRegistry

inductive Cell
  | null
  | bool (value : Bool)
  | int (value : Int)
  | real (value : Binary64)
  | text (value : String)
  | blob (bytes : List UInt8)
  deriving DecidableEq, Repr

namespace Cell

/-- The reading of a numeral, a refusal told with the value it was in. -/
def numeral (shown : String) (reading : Except Numeral.Refusal Int) : Except ConversionError Int :=
  match reading with
  | .ok i => .ok i
  | .error .malformed => .error (.notANumeral shown)
  | .error (.tooLong digits) => .error (.tooManyDigits digits)

/-- The whole number of a cell: a fraction is cut off, a text is read as a numeral. -/
def toInt : Cell → Except ConversionError Int
  | null => .error .nullNumber
  | bool b => .ok (if b then 1 else 0)
  | int i => .ok i
  | real .nan => .error .notANumber
  | real (.infinity _) => .error .infinite
  | real (.finite negative m e) =>
    .ok (if negative then -(Binary64.wholePart m e : Int) else Binary64.wholePart m e)
  | text s => numeral (Text.quote s) (Numeral.read s)
  | blob bytes =>
    numeral (Text.quoteBytes (bytes.take ConversionError.shownLength)) (Numeral.readBytes bytes)

def asInt : Cell → Except ConversionError Int
  | null => .ok 0
  | c => c.toInt

def asText : Cell → Except ConversionError String
  | null => .ok ""
  | bool b => .ok (if b then "True" else "False")
  | int i =>
    if i.natAbs < 10 ^ Numeral.maxDigits then .ok (Numeral.write i) else .error .tooLargeToWrite
  | real x => .ok x.text
  | text s => .ok s
  | blob bytes => .ok (Text.quoteBytes bytes)

/-- The flag of a cell: whether it is neither null, nor a zero, nor empty. -/
def asFlag : Cell → Bool
  | null => false
  | bool b => b
  | int i => i != 0
  | real x => !x.isZero
  | text s => !s.isEmpty
  | blob bytes => !bytes.isEmpty

def ofIntOrNull (i : Int) : Cell :=
  if i = 0 then null else int i

end Cell

end PuppetRegistry
