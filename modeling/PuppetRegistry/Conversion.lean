import PuppetRegistry.Numeral

/-!
# Conversions that fail

The reasons why a stored value does not become a field of a record, with their wording.
-/

namespace PuppetRegistry

inductive ConversionError
  /-- A text, or bytes, that write no whole number; `shown` is the value in quotes. -/
  | notANumeral (shown : String)
  | tooManyDigits (digits : Nat)
  | tooLargeToWrite
  | nullNumber
  | nullRows
  | notANumber
  | infinite
  /-- A second beyond the last year of the calendar. The year has 32 bits. -/
  | yearOutOfRange (year : Int)
  /-- A second whose year does not fit the clock's 32 bits. -/
  | yearTooLarge
  | secondTooLarge
  | userMissing
  | tooFewCells (count : Nat)
  | tooManyCells
  | emptyRow
  deriving DecidableEq, Repr

namespace ConversionError

/-- How many characters of a quoted value a message shows. Of bytes no more are quoted for it. -/
def shownLength : Nat := 200

def message : ConversionError → String
  | notANumeral shown =>
    "invalid literal for int() with base 10: " ++ String.ofList (shown.toList.take shownLength)
  | tooManyDigits digits =>
    "Exceeds the limit (" ++ Numeral.write Numeral.maxDigits ++
      " digits) for integer string conversion: value has " ++ Numeral.write digits ++
      " digits; use sys.set_int_max_str_digits() to increase the limit"
  | tooLargeToWrite =>
    "Exceeds the limit (" ++ Numeral.write Numeral.maxDigits ++
      " digits) for integer string conversion; use sys.set_int_max_str_digits() to increase the limit"
  | nullNumber =>
    "int() argument must be a string, a bytes-like object or a real number, not 'NoneType'"
  | nullRows => "\x27NoneType\x27 object is not iterable"
  | notANumber => "cannot convert float NaN to integer"
  | infinite => "cannot convert float infinity to integer"
  | yearOutOfRange year => "year " ++ Numeral.write year ++ " is out of range"
  | yearTooLarge => "[Errno 75] Value too large for defined data type"
  | secondTooLarge => "timestamp out of range for platform time_t"
  | userMissing => "username is NULL"
  | tooFewCells count =>
    "not enough values to unpack (expected 15, got " ++ Numeral.write count ++ ")"
  | tooManyCells => "too many values to unpack (expected 15)"
  | emptyRow => "tuple index out of range"

end ConversionError

end PuppetRegistry
