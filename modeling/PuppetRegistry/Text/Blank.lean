/-!
# Blank characters

The characters that may surround a value without belonging to it: the ASCII controls tab to
carriage return and the four information separators, the space, and the space separators and line
ends beyond ASCII. Zero-width characters are not among them. Main statement: a text whose tail has
been cut ends in a character that the cut does not take.
-/

namespace PuppetRegistry.Text

def isBlank (c : Char) : Bool :=
  let n := c.toNat
  (0x09 ≤ n && n ≤ 0x0d) || (0x1c ≤ n && n ≤ 0x20) || n == 0x85 || n == 0xa0 || n == 0x1680 ||
    (0x2000 ≤ n && n ≤ 0x200a) || n == 0x2028 || n == 0x2029 || n == 0x202f || n == 0x205f ||
    n == 0x3000

/-- The characters up to the last one that `p` rejects. -/
def dropTail (p : Char → Bool) (cs : List Char) : List Char :=
  (cs.reverse.dropWhile p).reverse

def trimChars (cs : List Char) : List Char :=
  dropTail isBlank (cs.dropWhile isBlank)

def trim (s : String) : String :=
  String.ofList (trimChars s.toList)

/-- The blank-free stretches of a text, in order. `word` is the stretch being read, last character
first. -/
def wordsFrom : (word : List Char) → List Char → List (List Char)
  | [], [] => []
  | word, [] => [word.reverse]
  | word, c :: cs =>
    if isBlank c then
      if word.isEmpty then wordsFrom [] cs else word.reverse :: wordsFrom [] cs
    else wordsFrom (c :: word) cs

def words (s : String) : List String :=
  (wordsFrom [] s.toList).map String.ofList

/-! ## The ends of a trimmed text -/

theorem getLast_dropTail (p : Char → Bool) (cs : List Char) (h : dropTail p cs ≠ []) :
    p ((dropTail p cs).getLast h) = false := by
  have key : ∀ l : List Char, ∀ hl : l.dropWhile p ≠ [], p ((l.dropWhile p).head hl) = false := by
    intro l
    induction l with
    | nil => intro hl; simp at hl
    | cons c l ih =>
      intro hl
      by_cases hc : p c = true
      · simpa [List.dropWhile_cons, hc] using ih (by simpa [List.dropWhile_cons, hc] using hl)
      · simp [hc]
  have h' : cs.reverse.dropWhile p ≠ [] := by
    intro e; exact h (by simp [dropTail, e])
  simpa [dropTail, List.getLast_reverse] using key cs.reverse h'

end PuppetRegistry.Text
