import PuppetRegistry.Text.CaseTable

/-!
# Upper and lower case

The full case mappings: a character may turn into several, and the Greek capital sigma turns into
its final form at the end of a word. A sigma ends a word when, marks and apostrophes skipped, a
character with case stands before it and none after it.
-/

namespace PuppetRegistry.Text

def inStretches (stretches : List (Nat × Nat)) (n : Nat) : Bool :=
  stretches.any fun (first, last) => first ≤ n && n ≤ last

def CaseRun.covers (run : CaseRun) (n : Nat) : Bool :=
  let (first, last, step, _) := run
  first ≤ n && n ≤ last && (n - first) % step == 0

/-- The image of a code point under the first run that covers it, or the code point itself. -/
def shiftCase (runs : List CaseRun) (n : Nat) : Nat :=
  match runs.find? (CaseRun.covers · n) with
  | some (_, _, _, shift) => (n + shift).toNat
  | none => n

def mapCase (expansions : List (Nat × List Nat)) (runs : List CaseRun) (c : Char) : List Char :=
  match expansions.lookup c.toNat with
  | some image => image.map Char.ofNat
  | none => [Char.ofNat (shiftCase runs c.toNat)]

def upperChar (c : Char) : List Char :=
  if c.toNat < 0x80 then [c.toUpper] else mapCase upperExpansions upperRuns c

def lowerChar (c : Char) : List Char :=
  if c.toNat < 0x80 then [c.toLower] else mapCase lowerExpansions lowerRuns c

def meetsCased (cs : List Char) : Bool :=
  match cs.dropWhile fun c => inStretches caseIgnorableStretches c.toNat with
  | [] => false
  | c :: _ => inStretches casedStretches c.toNat

/-- Lower case of the characters that follow `before`, which is read backwards. -/
def lowerFrom : (before : List Char) → List Char → List Char
  | _, [] => []
  | before, c :: cs =>
    (if c == 'Σ' then if meetsCased before && !meetsCased cs then ['ς'] else ['σ']
      else lowerChar c) ++ lowerFrom (c :: before) cs

def lower (s : String) : String :=
  String.ofList (lowerFrom [] s.toList)

def upper (s : String) : String :=
  String.ofList (s.toList.flatMap upperChar)

end PuppetRegistry.Text
