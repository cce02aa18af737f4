import Mathlib.Data.List.TakeWhile
import PuppetRegistry.Sqlite.Placeholder

/-!
# Places are rewritten at their marks

A place is rewritten by changing its mark alone. Main statement: each character of the rewritten
text is told by the one at its position and the one behind it. So the places keep their numbers and
their order, rewriting again changes nothing, and two texts may be rewritten apart unless the mark
of a place ends the first one and its number starts the second.
-/

namespace PuppetRegistry.Sqlite

open Text

/-! ## One character at a time -/

/-- Whether a text starts with a number. -/
def startsNumber (cs : List Char) : Bool :=
  cs.head?.any isDecimalDigit

/-- A character as it is rewritten in front of others. -/
def convertMark (c : Char) (cs : List Char) : Char :=
  if c = '$' ∧ startsNumber cs then '?' else c

theorem convertMark_eq_self {c : Char} {cs : List Char}
    (bare : ¬ (c = '$' ∧ startsNumber cs = true)) : convertMark c cs = c :=
  if_neg bare

theorem convertMark_of_number {c : Char} {cs : List Char} (mark : c = '$' ∨ c = '?')
    (number : startsNumber cs = true) : convertMark c cs = '?' := by
  obtain rfl | rfl := mark
  · exact if_pos ⟨rfl, number⟩
  · exact convertMark_eq_self fun place => absurd place.1 (by decide)

theorem startsNumber_iff {cs : List Char} :
    startsNumber cs = true ↔ cs.takeWhile isDecimalDigit ≠ [] := by
  cases cs with
  | nil => simp [startsNumber]
  | cons c cs =>
    rw [List.takeWhile_cons]
    by_cases digit : isDecimalDigit c = true
    · simp [startsNumber, digit]
    · simp [startsNumber, digit]

theorem not_isDecimalDigit_dollar : isDecimalDigit '$' = false := by
  decide

theorem not_isDecimalDigit_question : isDecimalDigit '?' = false := by
  decide

theorem convertPlaces_append_of_digits {number : List Char}
    (digits : ∀ d ∈ number, isDecimalDigit d = true) (cs : List Char) :
    convertPlaces (number ++ cs) = number ++ convertPlaces cs := by
  induction number with
  | nil => rfl
  | cons d number ih =>
    obtain ⟨digit, digits⟩ := List.forall_mem_cons.mp digits
    have plain : d ≠ '$' := by
      rintro rfl
      exact Bool.false_ne_true (not_isDecimalDigit_dollar.symm.trans digit)
    rw [List.cons_append, convertPlaces, if_neg plain, ih digits]
    rfl

/-- The digits at the start of a text stay as they are. -/
theorem takeWhile_append_convertPlaces (cs : List Char) :
    cs.takeWhile isDecimalDigit ++ convertPlaces (cs.dropWhile isDecimalDigit) =
      convertPlaces cs := by
  have digits : ∀ d ∈ cs.takeWhile isDecimalDigit, isDecimalDigit d = true :=
    fun d mem => List.mem_takeWhile_imp mem
  rw [← convertPlaces_append_of_digits digits, List.takeWhile_append_dropWhile]

/-- The number of a place is skipped at once, but no mark is in it: what stands behind a mark is
rewritten as if it stood alone. -/
theorem convertPlaces_cons (c : Char) (cs : List Char) :
    convertPlaces (c :: cs) = convertMark c cs :: convertPlaces cs := by
  by_cases mark : c = '$'
  · rw [convertPlaces, if_pos mark]
    split
    · next none =>
      have bare : ¬ (c = '$' ∧ startsNumber cs = true) := by
        rintro ⟨-, number⟩
        exact startsNumber_iff.mp number none
      rw [convertMark_eq_self bare]
    · next some =>
      rw [convertMark_of_number (.inl mark) (startsNumber_iff.mpr some), List.cons_append,
        takeWhile_append_convertPlaces]
  · rw [convertPlaces, if_neg mark, convertMark_eq_self fun place => mark place.1]

theorem convertPlaces_nil : convertPlaces [] = [] := by
  rw [convertPlaces]

theorem takeWhile_convertPlaces (cs : List Char) :
    (convertPlaces cs).takeWhile isDecimalDigit = cs.takeWhile isDecimalDigit := by
  induction cs with
  | nil => rw [convertPlaces_nil]
  | cons c cs ih =>
    rw [convertPlaces_cons, List.takeWhile_cons, List.takeWhile_cons, ih, convertMark]
    split
    · next place =>
      rw [place.1, not_isDecimalDigit_dollar, not_isDecimalDigit_question]
      rfl
    · rfl

theorem startsNumber_convertPlaces (cs : List Char) :
    startsNumber (convertPlaces cs) = startsNumber cs := by
  rw [Bool.eq_iff_iff, startsNumber_iff, startsNumber_iff, takeWhile_convertPlaces]

theorem getElem?_convertPlaces (cs : List Char) (i : Nat) :
    (convertPlaces cs)[i]? =
      if cs[i]? = some '$' ∧ cs[i + 1]?.any isDecimalDigit = true then some '?' else cs[i]? := by
  induction cs generalizing i with
  | nil =>
    rw [convertPlaces_nil]
    rfl
  | cons c cs ih =>
    rw [convertPlaces_cons]
    cases i with
    | zero =>
      simp only [List.getElem?_cons_zero, List.getElem?_cons_succ, Option.some.injEq, convertMark,
        startsNumber, List.head?_eq_getElem?]
      split <;> rfl
    | succ i => exact ih i

theorem convertPlaces_convertPlaces (cs : List Char) :
    convertPlaces (convertPlaces cs) = convertPlaces cs := by
  induction cs with
  | nil => rw [convertPlaces_nil, convertPlaces_nil]
  | cons c cs ih =>
    have number := startsNumber_convertPlaces cs
    rw [convertPlaces_cons, convertPlaces_cons, ih]
    by_cases place : c = '$' ∧ startsNumber cs = true
    · rw [convertMark_of_number (.inl place.1) place.2,
        convertMark_of_number (.inr rfl) (number.trans place.2)]
    · rw [convertMark_eq_self place, convertMark_eq_self (by rwa [number])]

/-! ## Places -/

/-- A mark with the number behind it. -/
structure Place where
  mark : Char
  number : List Char
  deriving DecidableEq, Repr

/-- The places of a text in order, under either mark. -/
def placesIn : List Char → List Place
  | [] => []
  | c :: cs =>
    if (c = '$' ∨ c = '?') ∧ startsNumber cs then
      ⟨c, cs.takeWhile isDecimalDigit⟩ :: placesIn cs
    else placesIn cs

theorem placesIn_convertPlaces (cs : List Char) :
    placesIn (convertPlaces cs) = (placesIn cs).map fun place => ⟨'?', place.number⟩ := by
  induction cs with
  | nil =>
    rw [convertPlaces_nil]
    rfl
  | cons c cs ih =>
    rw [convertPlaces_cons, placesIn, placesIn, startsNumber_convertPlaces, takeWhile_convertPlaces,
      ih]
    by_cases number : startsNumber cs = true
    · by_cases mark : c = '$' ∨ c = '?'
      · rw [convertMark_of_number mark number, if_pos ⟨.inr rfl, number⟩, if_pos ⟨mark, number⟩,
          List.map_cons]
      · rw [convertMark_eq_self fun place => mark (.inl place.1), if_neg fun place => mark place.1,
          if_neg fun place => mark place.1]
    · rw [if_neg fun place => number place.2, if_neg fun place => number place.2]

/-! ## Texts one after the other -/

/-- A mark ends the one text, and a number starts the other. -/
def Joined (a b : List Char) : Prop :=
  a.getLast? = some '$' ∧ startsNumber b = true

theorem convertPlaces_append {a b : List Char} (apart : ¬ Joined a b) :
    convertPlaces (a ++ b) = convertPlaces a ++ convertPlaces b := by
  induction a with
  | nil => rw [convertPlaces_nil, List.nil_append, List.nil_append]
  | cons c a ih =>
    cases a with
    | nil =>
      have bare : ¬ (c = '$' ∧ startsNumber b = true) := by
        rintro ⟨rfl, number⟩
        exact apart ⟨rfl, number⟩
      have alone : ¬ (c = '$' ∧ startsNumber [] = true) := fun place =>
        Bool.false_ne_true place.2
      rw [convertPlaces_cons, convertMark_eq_self alone, convertPlaces_nil, List.singleton_append,
        List.singleton_append, convertPlaces_cons, convertMark_eq_self bare]
    | cons d a =>
      have rest : ¬ Joined (d :: a) b := fun joined => apart ⟨joined.1, joined.2⟩
      have next : convertMark c (d :: a ++ b) = convertMark c (d :: a) := rfl
      rw [List.cons_append, convertPlaces_cons, convertPlaces_cons, next, ih rest, List.cons_append]

/-- Nothing is joined to a mark. -/
theorem not_joined_dollar (a b : List Char) : ¬ Joined a ('$' :: b) := by
  rintro ⟨-, number⟩
  exact Bool.false_ne_true (not_isDecimalDigit_dollar.symm.trans number)

theorem convertPlaces_append_iff {a b : List Char} :
    convertPlaces (a ++ b) = convertPlaces a ++ convertPlaces b ↔ ¬ Joined a b := by
  refine ⟨?_, convertPlaces_append⟩
  rintro apart ⟨last, number⟩
  obtain ⟨front, rfl⟩ := List.getLast?_eq_some_iff.mp last
  have alone : convertMark '$' [] = '$' := rfl
  have whole : convertPlaces (front ++ ['$'] ++ b) =
      convertPlaces front ++ '?' :: convertPlaces b := by
    rw [List.append_assoc, List.singleton_append, convertPlaces_append (not_joined_dollar front b),
      convertPlaces_cons, convertMark_of_number (.inl rfl) number]
  have parts : convertPlaces (front ++ ['$']) = convertPlaces front ++ ['$'] := by
    rw [convertPlaces_append (not_joined_dollar front []), convertPlaces_cons, alone,
      convertPlaces_nil]
  rw [whole, parts, List.append_assoc] at apart
  have marks : '?' = '$' := (List.cons.inj (List.append_cancel_left apart)).1
  exact absurd marks (by decide)

/-! ## Statements -/

theorem toList_placeholders (sql : String) :
    (placeholders sql).toList = convertPlaces sql.toList :=
  String.toList_ofList

theorem placeholders_append_iff {a b : String} :
    placeholders (a ++ b) = placeholders a ++ placeholders b ↔ ¬ Joined a.toList b.toList := by
  rw [← String.toList_inj, String.toList_append, toList_placeholders, toList_placeholders,
    toList_placeholders, String.toList_append, convertPlaces_append_iff]

/-- A statement is rewritten at the same length. A dollar sign with a digit behind it becomes a
question mark, and every other character stays as it is. So all its places keep their order and
their numbers, rewriting it again changes nothing, and two texts are rewritten one by one unless a
dollar sign ends the first one and a digit starts the second. -/
theorem places_rewritten_at_marks :
    (∀ sql : String, (placeholders sql).length = sql.length ∧
      ∀ i, (placeholders sql).toList[i]? =
        if sql.toList[i]? = some '$' ∧ sql.toList[i + 1]?.any isDecimalDigit = true then some '?'
        else sql.toList[i]?) ∧
    (∀ sql : String, placesIn (placeholders sql).toList =
      (placesIn sql.toList).map fun place => ⟨'?', place.number⟩) ∧
    (∀ sql : String, placeholders (placeholders sql) = placeholders sql) ∧
    ∀ a b : String, placeholders (a ++ b) = placeholders a ++ placeholders b ↔
      ¬ (a.toList.getLast? = some '$' ∧ b.toList.head?.any isDecimalDigit = true) := by
  refine ⟨fun sql => ⟨?_, fun i => ?_⟩, fun sql => ?_, fun sql => ?_, fun a b => ?_⟩
  · rw [← String.length_toList, toList_placeholders, length_convertPlaces, String.length_toList]
  · rw [toList_placeholders, getElem?_convertPlaces]
  · rw [toList_placeholders, placesIn_convertPlaces]
  · rw [← String.toList_inj, toList_placeholders, toList_placeholders, convertPlaces_convertPlaces]
  · exact placeholders_append_iff

example : placeholders "a<$1 AND b=$$12$" = "a<?1 AND b=$?12$" := by
  cbv

end PuppetRegistry.Sqlite
