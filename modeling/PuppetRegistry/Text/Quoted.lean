import PuppetRegistry.Text.Printable

/-!
# Quoted text

A quoted text stands on one line between two equal marks and can be read back: the mark and the
backslash are escaped by a backslash, and every character that would not show as itself is written
by its code point. The mark is the apostrophe, unless the text holds an apostrophe and no double
quotation mark. Bytes are quoted in the same way after a leading `b`, as if they were ASCII.
-/

namespace PuppetRegistry.Text

def apostrophe : Char := '\x27'

def doubleMark : Char := '\x22'

def backslash : Char := '\x5c'

def hexDigit (n : Nat) : Char :=
  if n < 10 then Char.ofNat (0x30 + n) else Char.ofNat (0x57 + n)

/-- The last `width` hexadecimal digits of a number, the most significant first. -/
def hexDigits : (width : Nat) → Nat → List Char
  | 0, _ => []
  | width + 1, n => hexDigits width (n / 16) ++ [hexDigit (n % 16)]

def codeEscape (c : Char) : List Char :=
  let n := c.toNat
  if n < 0x100 then backslash :: 'x' :: hexDigits 2 n
  else if n < 0x10000 then backslash :: 'u' :: hexDigits 4 n
  else backslash :: 'U' :: hexDigits 8 n

def quoteChar (mark c : Char) : List Char :=
  if c == mark || c == backslash then [backslash, c]
  else if c == '\t' then [backslash, 't']
  else if c == '\n' then [backslash, 'n']
  else if c == '\r' then [backslash, 'r']
  else if isPrintable c then [c]
  else codeEscape c

/-- The mark chosen for a text. -/
def markFor (cs : List Char) : Char :=
  if cs.contains apostrophe && !cs.contains doubleMark then doubleMark else apostrophe

def quoteChars (cs : List Char) : List Char :=
  let mark := markFor cs
  mark :: cs.flatMap (quoteChar mark) ++ [mark]

def quote (s : String) : String :=
  String.ofList (quoteChars s.toList)

def byteChar (b : UInt8) : Char :=
  Char.ofNat b.toNat

/-- A byte as it is written between two marks: like a character, but nothing beyond ASCII shows as
itself. -/
def quoteByte (mark : Char) (b : UInt8) : List Char :=
  if b.toNat < 0x80 then quoteChar mark (byteChar b) else codeEscape (byteChar b)

def quoteBytes (bytes : List UInt8) : String :=
  let mark := markFor (bytes.map byteChar)
  String.ofList ('b' :: mark :: bytes.flatMap (quoteByte mark) ++ [mark])

end PuppetRegistry.Text
