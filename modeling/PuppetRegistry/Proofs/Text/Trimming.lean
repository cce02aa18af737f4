import Mathlib.Data.List.DropRight
import Mathlib.Data.List.TakeWhile
import PuppetRegistry.Text.Blank
import PuppetRegistry.Text.Cut

/-!
# Trimmed and cut texts

Main statements: a text stays as it is when it is trimmed exactly when neither of its ends is blank,
and a text that is cut short at a mark stays as it is up to there.
-/

namespace PuppetRegistry.Text

/-! ## Blanks at the ends -/

def StartsPlain (cs : List Char) : Prop :=
  ∀ c ∈ cs.head?, isBlank c = false

def EndsPlain (cs : List Char) : Prop :=
  ∀ c ∈ cs.getLast?, isBlank c = false

theorem StartsPlain.of_isPrefix {front cs : List Char} (starts : StartsPlain cs)
    (within : front <+: cs) : StartsPlain front := by
  obtain ⟨back, rfl⟩ := within
  cases front with
  | nil => nofun
  | cons c front => exact starts

theorem EndsPlain.of_isSuffix {back cs : List Char} (ends : EndsPlain cs) (within : back <:+ cs) :
    EndsPlain back := by
  obtain ⟨front, rfl⟩ := within
  intro c last
  exact ends c (List.mem_getLast?_append_of_mem_getLast? last)

theorem dropWhile_isBlank_eq_self {cs : List Char} (starts : StartsPlain cs) :
    cs.dropWhile isBlank = cs := by
  cases cs with
  | nil => rfl
  | cons c cs => rw [List.dropWhile_cons, starts c rfl, if_neg Bool.false_ne_true]

theorem dropTail_isBlank_eq_self {cs : List Char} (ends : EndsPlain cs) :
    dropTail isBlank cs = cs := by
  refine List.rdropWhile_eq_self_iff.mpr fun ne => ?_
  rw [ends _ (List.getLast?_eq_some_getLast ne)]
  exact Bool.false_ne_true

theorem startsPlain_dropWhile (cs : List Char) : StartsPlain (cs.dropWhile isBlank) := by
  induction cs with
  | nil => nofun
  | cons c cs ih =>
    rw [List.dropWhile_cons]
    split
    · exact ih
    · rename_i plain
      rintro _ ⟨⟩
      exact Bool.eq_false_iff.mpr plain

theorem startsPlain_trimChars (cs : List Char) : StartsPlain (trimChars cs) :=
  (startsPlain_dropWhile cs).of_isPrefix (List.rdropWhile_prefix isBlank _)

theorem endsPlain_trimChars (cs : List Char) : EndsPlain (trimChars cs) := by
  intro c last
  obtain ⟨ne, rfl⟩ := List.mem_getLast?_eq_getLast last
  exact getLast_dropTail isBlank _ ne

theorem trimChars_eq_self_iff {cs : List Char} :
    trimChars cs = cs ↔ StartsPlain cs ∧ EndsPlain cs := by
  constructor
  · intro trimmed
    rw [← trimmed]
    exact ⟨startsPlain_trimChars cs, endsPlain_trimChars cs⟩
  · rintro ⟨starts, ends⟩
    rw [trimChars, dropWhile_isBlank_eq_self starts, dropTail_isBlank_eq_self ends]

theorem trim_trim (s : String) : trim (trim s) = trim s := by
  have settled : trimChars (trimChars s.toList) = trimChars s.toList :=
    trimChars_eq_self_iff.mpr ⟨startsPlain_trimChars _, endsPlain_trimChars _⟩
  rw [trim, trim, String.toList_ofList, settled]

theorem trimChars_sublist (cs : List Char) : (trimChars cs).Sublist cs :=
  (List.rdropWhile_prefix isBlank _).sublist.trans (List.dropWhile_sublist isBlank)

theorem dropTail_append_cons {p : Char → Bool} {c : Char} (stops : p c = false)
    (front back : List Char) : dropTail p (front ++ c :: back) = front ++ c :: dropTail p back := by
  have stays : ∀ xs ys : List Char, (xs ++ c :: ys).dropWhile p = xs.dropWhile p ++ c :: ys := by
    intro xs ys
    rw [List.dropWhile_append]
    split
    · rename_i all
      rw [List.isEmpty_iff.mp all, List.dropWhile_cons, stops]
      rfl
    · rfl
  rw [dropTail, List.reverse_append, List.reverse_cons, List.append_assoc, List.singleton_append,
    stays, List.reverse_append, List.reverse_cons, List.reverse_reverse, List.append_assoc]
  rfl

/-- Nothing is trimmed between the start and a character that is not blank. -/
theorem trimChars_append_cons {front : List Char} {c : Char} (starts : StartsPlain front)
    (stops : isBlank c = false) (back : List Char) :
    trimChars (front ++ c :: back) = front ++ c :: dropTail isBlank back := by
  have whole : StartsPlain (front ++ c :: back) := by
    cases front with
    | nil =>
      rintro _ ⟨⟩
      exact stops
    | cons first rest => exact starts
  rw [trimChars, dropWhile_isBlank_eq_self whole, dropTail_append_cons stops]

/-! ## Up to a mark -/

theorem upTo_append {mark : Char} {front : List Char} (free : mark ∉ front) (back : List Char) :
    upTo mark (front ++ back) = front ++ upTo mark back := by
  apply List.takeWhile_append_of_pos
  intro c mem
  exact bne_iff_ne.mpr fun same => free (same ▸ mem)

theorem upTo_eq_self {mark : Char} {cs : List Char} (free : mark ∉ cs) : upTo mark cs = cs := by
  have whole := upTo_append free []
  have nothing : upTo mark [] = [] := rfl
  rwa [List.append_nil, nothing, List.append_nil] at whole

theorem upTo_mark (mark : Char) (cs : List Char) : upTo mark (mark :: cs) = [] := by
  rw [upTo, List.takeWhile_cons, bne_self_eq_false, if_neg Bool.false_ne_true]

theorem upTo_cons_of_ne {mark c : Char} (other : c ≠ mark) (cs : List Char) :
    upTo mark (c :: cs) = c :: upTo mark cs := by
  rw [upTo, List.takeWhile_cons, bne_iff_ne.mpr other, if_pos rfl]
  rfl

theorem upTo_isPrefix (mark : Char) (cs : List Char) : upTo mark cs <+: cs :=
  List.takeWhile_prefix _

theorem mark_notMem_upTo (mark : Char) (cs : List Char) : mark ∉ upTo mark cs := by
  intro mem
  have other : (mark != mark) = true := List.mem_takeWhile_imp (p := (· != mark)) mem
  exact bne_iff_ne.mp other rfl

end PuppetRegistry.Text
