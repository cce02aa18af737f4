/-!
# Cutting a text at a mark

The first occurrence of a mark parts a text in two. Main statements: the parts and the mark make up
the text again, the part in front holds no mark, and there are no parts exactly when there is no
mark.
-/

namespace PuppetRegistry.Text

/-- The characters in front of the first mark and those after it, if there is a mark. -/
def cutAt? (mark : Char) : List Char → Option (List Char × List Char)
  | [] => none
  | c :: cs =>
    if c = mark then some ([], cs)
    else (cutAt? mark cs).map fun (front, back) => (c :: front, back)

def upTo (mark : Char) (cs : List Char) : List Char :=
  cs.takeWhile (· != mark)

/-- The characters after `start`, if they start so. -/
def dropStart? : (start : List Char) → List Char → Option (List Char)
  | [], cs => some cs
  | _ :: _, [] => none
  | s :: start, c :: cs => if s = c then dropStart? start cs else none

theorem cutAt?_append {mark : Char} {front : List Char} (h : mark ∉ front) (back : List Char) :
    cutAt? mark (front ++ mark :: back) = some (front, back) := by
  induction front with
  | nil => simp [cutAt?]
  | cons c front ih =>
    simp only [List.mem_cons, not_or] at h
    simp [cutAt?, Ne.symm h.1, ih h.2]

theorem cutAt?_eq_some_iff {mark : Char} {cs front back : List Char} :
    cutAt? mark cs = some (front, back) ↔ cs = front ++ mark :: back ∧ mark ∉ front := by
  constructor
  · induction cs generalizing front with
    | nil => simp [cutAt?]
    | cons c cs ih =>
      unfold cutAt?
      split
      · next hc =>
        rintro ⟨⟩
        simp [hc]
      · next hc =>
        intro h
        obtain ⟨⟨f, b⟩, hf, he⟩ := Option.map_eq_some_iff.1 h
        cases he
        obtain ⟨rfl, hm⟩ := ih hf
        exact ⟨rfl, by simp [hm, Ne.symm hc]⟩
  · rintro ⟨rfl, hm⟩
    exact cutAt?_append hm back

theorem cutAt?_eq_none_iff {mark : Char} {cs : List Char} : cutAt? mark cs = none ↔ mark ∉ cs := by
  induction cs with
  | nil => simp [cutAt?]
  | cons c cs ih =>
    unfold cutAt?
    split
    · next hc => simp [hc]
    · next hc => simp [ih, Ne.symm hc]

theorem dropStart?_eq_some_iff {start cs rest : List Char} :
    dropStart? start cs = some rest ↔ cs = start ++ rest := by
  induction start generalizing cs with
  | nil => simp [dropStart?]
  | cons s start ih =>
    cases cs with
    | nil => simp [dropStart?]
    | cons c cs =>
      by_cases h : s = c
      · subst h; simp [dropStart?, ih]
      · simp [dropStart?, h, Ne.symm h]

end PuppetRegistry.Text
