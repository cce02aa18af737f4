import PuppetRegistry.Text.Digit

/-!
# Numbered places

Statements are written with places `$1`, `$2`, …; SQLite writes them `?1`, `?2`, …. A place is a
dollar sign with the longest number that follows it; a dollar sign without a number is no place.
Main statement: the text keeps its length.
-/

namespace PuppetRegistry.Sqlite

theorem length_dropWhile_le (p : Char → Bool) (cs : List Char) :
    (cs.dropWhile p).length ≤ cs.length :=
  (List.dropWhile_suffix p).length_le

def convertPlaces : List Char → List Char
  | [] => []
  | c :: cs =>
    if c = '$' then
      match cs.takeWhile Text.isDecimalDigit with
      | [] => c :: convertPlaces cs
      | number => '?' :: number ++ convertPlaces (cs.dropWhile Text.isDecimalDigit)
    else c :: convertPlaces cs
termination_by cs => cs.length
decreasing_by
  · simp
  · exact Nat.lt_succ_of_le (length_dropWhile_le _ _)
  · simp

def placeholders (sql : String) : String :=
  String.ofList (convertPlaces sql.toList)

theorem length_convertPlaces (cs : List Char) : (convertPlaces cs).length = cs.length := by
  fun_induction convertPlaces cs with
  | case1 => rfl
  | case2 cs h ih => simp [ih]
  | case3 cs h ih =>
    have := congrArg List.length (List.takeWhile_append_dropWhile (p := Text.isDecimalDigit) (l := cs))
    simp only [List.length_append] at this
    simp only [List.length_cons, List.length_append, ih]
    omega
  | case4 c cs h ih => simp [ih]

end PuppetRegistry.Sqlite
