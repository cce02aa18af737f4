/-!
# Lines

The characters that end a line, and the lines of a text. A carriage return together with the line
feed after it ends one line. Main statement: a text without these characters is one line.
-/

namespace PuppetRegistry.Text

def isLineBreak (c : Char) : Bool :=
  let n := c.toNat
  (0x0a ≤ n && n ≤ 0x0d) || (0x1c ≤ n && n ≤ 0x1e) || n == 0x85 || n == 0x2028 || n == 0x2029

/-- The lines of a text of which `line` has been read, last character first. -/
def linesFrom : (line : List Char) → List Char → List (List Char)
  | [], [] => []
  | line, [] => [line.reverse]
  | line, '\r' :: '\n' :: cs => line.reverse :: linesFrom [] cs
  | line, c :: cs =>
    if isLineBreak c then line.reverse :: linesFrom [] cs else linesFrom (c :: line) cs

/-- The lines of a text. A line end at the very end starts no further line. -/
def lines (s : String) : List String :=
  (linesFrom [] s.toList).map String.ofList

theorem linesFrom_of_unbroken {cs : List Char} (h : ∀ c ∈ cs, isLineBreak c = false)
    (line : List Char) (hne : line ≠ [] ∨ cs ≠ []) :
    linesFrom line cs = [line.reverse ++ cs] := by
  induction cs generalizing line with
  | nil =>
    cases line with
    | nil => simp at hne
    | cons a line => simp [linesFrom]
  | cons c cs ih =>
    have hc : isLineBreak c = false := h c (by simp)
    have hcr : c ≠ '\r' := by rintro rfl; exact absurd hc (by decide)
    have step : linesFrom line (c :: cs) = linesFrom (c :: line) cs := by
      cases cs with
      | nil => simp [linesFrom, hc]
      | cons d cs => rw [linesFrom]; simp [hc]; simp [hcr]
    rw [step, ih (fun d hd => h d (by simp [hd])) _ (by simp)]
    simp

theorem lines_of_unbroken {s : String} (h : ∀ c ∈ s.toList, isLineBreak c = false)
    (hne : s ≠ "") : lines s = [s] := by
  have : s.toList ≠ [] := by simpa using hne
  simp [lines, linesFrom_of_unbroken h [] (Or.inr this), String.ofList_toList]

end PuppetRegistry.Text
