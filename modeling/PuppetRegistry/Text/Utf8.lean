import PuppetRegistry.Numeral
import PuppetRegistry.Text.Quoted

/-!
# Bytes that should be a text

The first byte of a character says how many follow it and in which ranges they lie. Bytes are taken
apart into characters and stray stretches, which are as long as what could still have become a
character.
-/

namespace PuppetRegistry.Text.Utf8

abbrev ByteRange := UInt8 × UInt8

/-- The range of the bytes inside a character, for most characters. -/
def inner : ByteRange := (0x80, 0xbf)

/-- The ranges of the bytes that follow a first byte, if it is one. -/
def following? (first : UInt8) : Option (List ByteRange) :=
  if first < 0x80 then some []
  else if first < 0xc2 then none
  else if first < 0xe0 then some [inner]
  else if first = 0xe0 then some [(0xa0, 0xbf), inner]
  else if first = 0xed then some [(0x80, 0x9f), inner]
  else if first < 0xf0 then some [inner, inner]
  else if first = 0xf0 then some [(0x90, 0xbf), inner, inner]
  else if first < 0xf4 then some [inner, inner, inner]
  else if first = 0xf4 then some [(0x80, 0x8f), inner, inner]
  else none

/-- Why bytes are no character. -/
inductive Reason
  | start
  | continuation
  | cut
  deriving DecidableEq, Repr

def Reason.message : Reason → String
  | start => "invalid start byte"
  | continuation => "invalid continuation byte"
  | cut => "unexpected end of data"

/-- The bytes that lie in the ranges, and why there are not as many as ranges. -/
def follow : List ByteRange → List UInt8 → List UInt8 × Option Reason
  | [], _ => ([], none)
  | _ :: _, [] => ([], some .cut)
  | (low, high) :: ranges, b :: bytes =>
    if low ≤ b ∧ b ≤ high then
      let (found, reason) := follow ranges bytes
      (b :: found, reason)
    else ([], some .continuation)

structure Piece where
  first : UInt8
  others : List UInt8
  stray : Option Reason
  deriving DecidableEq, Repr

def Piece.bytes (p : Piece) : List UInt8 :=
  p.first :: p.others

def pieceOf (first : UInt8) (rest : List UInt8) : Piece :=
  match following? first with
  | none => ⟨first, [], some .start⟩
  | some ranges =>
    let (others, stray) := follow ranges rest
    ⟨first, others, stray⟩

def pieces : List UInt8 → List Piece
  | [] => []
  | first :: rest =>
    let p := pieceOf first rest
    p :: pieces (rest.drop p.others.length)
termination_by bytes => bytes.length
decreasing_by simp only [List.length_drop, List.length_cons]; omega

structure Defect where
  position : Nat
  piece : Piece
  reason : Reason
  deriving DecidableEq, Repr

def firstDefect? (position : Nat) : List Piece → Option Defect
  | [] => none
  | p :: ps =>
    match p.stray with
    | some reason => some ⟨position, p, reason⟩
    | none => firstDefect? (position + p.bytes.length) ps

/-- What makes bytes no text, if they are none. -/
def defect? (bytes : List UInt8) : Option Defect :=
  firstDefect? 0 (pieces bytes)

def Defect.message (d : Defect) : String :=
  let start := Numeral.write d.position
  let place :=
    if d.piece.others.isEmpty then
      "byte 0x" ++ String.ofList (hexDigits 2 d.piece.first.toNat) ++ " in position " ++ start
    else "bytes in position " ++ start ++ "-" ++ Numeral.write (d.position + d.piece.others.length)
  "\x27utf-8\x27 codec can\x27t decode " ++ place ++ ": " ++ d.reason.message

/-- The sign in front of a byte that stands for itself. -/
def strayMark : Char := '\x00'

/-- A piece as text. A stray byte is written as the character of its number behind a mark. -/
def Piece.chars (p : Piece) : List Char :=
  match p.stray, String.fromUTF8? p.bytes.toByteArray with
  | none, some text => text.toList
  | _, _ => p.bytes.flatMap fun b => [strayMark, Char.ofNat b.toNat]

/-- The text that bytes write. Different bytes without a zero write different texts. -/
def text (bytes : List UInt8) : String :=
  String.ofList ((pieces bytes).flatMap Piece.chars)

end PuppetRegistry.Text.Utf8
