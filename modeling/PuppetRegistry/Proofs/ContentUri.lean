import Mathlib.Data.List.Basic
import PuppetRegistry.ContentUri

/-!
# References that are read back

A text is a reference exactly when it is made up of the scheme, two parts that are neither empty nor
hold a slash, and a slash between them. What is written for any two parts is therefore read as these
parts or not at all.
-/

namespace PuppetRegistry.ContentUri

/-- Neither part is empty or holds a slash. -/
structure Valid (uri : ContentUri) : Prop where
  homeserver : uri.homeserver.toList ≠ []
  file : uri.file.toList ≠ []
  plainHomeserver : '/' ∉ uri.homeserver.toList
  plainFile : '/' ∉ uri.file.toList

def chars (uri : ContentUri) : List Char :=
  scheme ++ (uri.homeserver.toList ++ '/' :: uri.file.toList)

theorem toList_text {uri : ContentUri} (some_part : uri.isEmpty = false) :
    uri.text.toList = uri.chars := by
  have slash : "/".toList = ['/'] := rfl
  rw [text, if_neg (by simp [some_part]), chars]
  simp only [String.toList_append, String.toList_ofList, slash, List.append_assoc,
    List.singleton_append]

theorem parse_eq_ok_iff {s : String} {uri : ContentUri} :
    parse s = .ok uri ↔ s.toList = uri.chars ∧ uri.Valid := by
  constructor
  · intro read
    unfold parse at read
    split at read
    · cases read
    · rename_i body started
      split at read
      · cases read
      · rename_i homeserver file cut
        obtain ⟨made, plain⟩ := Text.cutAt?_eq_some_iff.mp cut
        split at read
        · cases read
        · rename_i good
          cases read
          simp only [Bool.or_eq_true, List.isEmpty_iff, List.contains_eq_mem, decide_eq_true_eq,
            not_or] at good
          obtain ⟨⟨some_server, some_file⟩, plain_file⟩ := good
          refine ⟨?_, ?_⟩
          · rw [Text.dropStart?_eq_some_iff.mp started, made, chars, String.toList_ofList,
              String.toList_ofList]
          · constructor <;> simpa only [String.toList_ofList]
  · rintro ⟨made, valid⟩
    have started : Text.dropStart? scheme s.toList =
        some (uri.homeserver.toList ++ '/' :: uri.file.toList) :=
      Text.dropStart?_eq_some_iff.mpr made
    have cut := Text.cutAt?_append valid.plainHomeserver uri.file.toList
    have good : ¬ (uri.homeserver.toList.isEmpty || uri.file.toList.isEmpty ||
        uri.file.toList.contains '/') = true := by
      simp [valid.homeserver, valid.file, valid.plainFile]
    simp only [parse, started, cut]
    rw [if_neg good, String.ofList_toList, String.ofList_toList]

/-- What is no reference is refused, for its scheme if that is another one. -/
theorem parse_of_ne_ok {s : String} (refused : ∀ uri, parse s ≠ .ok uri) :
    parse s = .error (if scheme <+: s.toList then .malformed else .otherScheme) := by
  unfold parse at refused ⊢
  cases started : Text.dropStart? scheme s.toList with
  | none =>
    have foreign : ¬ scheme <+: s.toList := by
      rintro ⟨body, made⟩
      rw [Text.dropStart?_eq_some_iff.mpr made.symm] at started
      cases started
    rw [if_neg foreign]
  | some body =>
    have own : scheme <+: s.toList := ⟨body, (Text.dropStart?_eq_some_iff.mp started).symm⟩
    simp only [started] at refused
    rw [if_pos own]
    dsimp only
    split
    · rfl
    · next homeserver file cut =>
      split
      · rfl
      · next good =>
        simp only [cut, if_neg good] at refused
        exact absurd rfl (refused _)

theorem eq_of_parse_text {uri read : ContentUri} (parsed : parse uri.text = .ok read) :
    read = uri := by
  obtain ⟨made, valid⟩ := parse_eq_ok_iff.mp parsed
  cases nothing : uri.isEmpty with
  | true =>
    have empty : uri.text = "" := by rw [text, if_pos nothing]
    rw [empty] at made
    cases made
  | false =>
    rw [toList_text nothing, chars, chars] at made
    obtain ⟨server, -, file⟩ := (List.append_cons_inj_of_notMem valid.plainHomeserver
      valid.plainFile).mp (List.append_cancel_left made).symm
    cases uri
    cases read
    rw [mk.injEq]
    exact ⟨String.toList_inj.mp server, String.toList_inj.mp file⟩

/-- A reference as it is read back from its text. -/
def normal (uri : ContentUri) : ContentUri :=
  match parse uri.text with
  | .ok _ => uri
  | .error _ => {}

theorem parseOrZero_text (uri : ContentUri) : parseOrZero uri.text = uri.normal := by
  cases parsed : parse uri.text with
  | ok read => simp only [parseOrZero, normal, parsed, eq_of_parse_text parsed]
  | error e => simp only [parseOrZero, normal, parsed]

theorem Valid.toList_text {uri : ContentUri} (valid : uri.Valid) : uri.text.toList = uri.chars := by
  apply ContentUri.toList_text
  have some_server : uri.homeserver.isEmpty = false := by
    simp only [String.isEmpty_eq_false_iff]
    intro empty
    exact valid.homeserver (by rw [empty]; rfl)
  simp [isEmpty, some_server]

theorem normal_of_valid {uri : ContentUri} (valid : uri.Valid) : uri.normal = uri := by
  have parsed := parse_eq_ok_iff.mpr ⟨valid.toList_text, valid⟩
  rw [normal, parsed]

theorem normal_of_not_valid {uri : ContentUri} (bad : ¬ uri.Valid) : uri.normal = {} := by
  cases parsed : parse uri.text with
  | error e => rw [normal, parsed]
  | ok read =>
    have valid := (parse_eq_ok_iff.mp parsed).2
    rw [eq_of_parse_text parsed] at valid
    exact absurd valid bad

theorem normal_parseOrZero (s : String) : (parseOrZero s).normal = parseOrZero s := by
  cases parsed : parse s with
  | ok uri =>
    rw [parseOrZero, parsed]
    exact normal_of_valid (parse_eq_ok_iff.mp parsed).2
  | error e =>
    rw [parseOrZero, parsed]
    rfl

theorem toList_eq_chars_iff {s : String} {uri : ContentUri} :
    s.toList = uri.chars ↔ s = "mxc://" ++ uri.homeserver ++ "/" ++ uri.file := by
  have made : ("mxc://" ++ uri.homeserver ++ "/" ++ uri.file).toList = uri.chars := by
    simp [chars, scheme]
  rw [← made, String.toList_inj]

theorem text_eq_of_parse {s : String} {uri : ContentUri} (read : parse s = .ok uri) :
    uri.text = s := by
  obtain ⟨made, valid⟩ := parse_eq_ok_iff.mp read
  exact String.toList_inj.mp (valid.toList_text.trans made.symm)

/-- A text is read as a reference exactly when it is the scheme, two parts that are neither empty
nor hold a slash, and a slash between them; the reference is then written as that text. Any other
text is refused, or read as the zero reference where that is asked for, as is the absence of a text.
What is written for any two parts is read as these parts if they are both empty or both sound, and
as the zero reference otherwise. -/
theorem references_read_as_written :
    (∀ t uri, parse t = .ok uri ↔
      t = "mxc://" ++ uri.homeserver ++ "/" ++ uri.file ∧ uri.Valid) ∧
    (∀ t uri, parse t = .ok uri → uri.text = t ∧ ofOptional (some t) = uri) ∧
    (∀ t, (∀ uri, parse t ≠ .ok uri) →
      parse t = .error (if scheme <+: t.toList then .malformed else .otherScheme) ∧
        ofOptional (some t) = {}) ∧
    ofOptional none = {} ∧
    (∀ uri : ContentUri, uri = {} ∨ uri.Valid → ofOptional (some uri.text) = uri) ∧
    ∀ uri : ContentUri, ¬ (uri = {} ∨ uri.Valid) → ofOptional (some uri.text) = {} := by
  refine ⟨?_, ?_, ?_, rfl, ?_, ?_⟩
  · intro t uri
    rw [parse_eq_ok_iff, toList_eq_chars_iff]
  · intro t uri read
    have optional : ofOptional (some t) = uri := by
      rw [ofOptional, Option.getD_some, parseOrZero, read]
    exact ⟨text_eq_of_parse read, optional⟩
  · intro t refused
    have error := parse_of_ne_ok refused
    have optional : ofOptional (some t) = {} := by
      rw [ofOptional, Option.getD_some, parseOrZero, error]
    exact ⟨error, optional⟩
  · rintro uri (rfl | valid)
    · rfl
    · exact (parseOrZero_text uri).trans (normal_of_valid valid)
  · intro uri bad
    rw [not_or] at bad
    exact (parseOrZero_text uri).trans (normal_of_not_valid bad.2)

/-- A slash too many is not moved from one part to the other. -/
theorem references_read_as_written_slashed :
    Valid ⟨"example.org", "AbCdEf"⟩ ∧
      parse "mxc://example.org/AbCdEf" = .ok ⟨"example.org", "AbCdEf"⟩ ∧
      ofOptional (some "mxc://example.org/AbCdEf") = ⟨"example.org", "AbCdEf"⟩ ∧
      (∀ uri, parse "mxc://a/b/c" ≠ .ok uri) ∧ parse "mxc://a/b/c" = .error .malformed ∧
      ¬ Valid ⟨"a/b", "c"⟩ ∧ text ⟨"a/b", "c"⟩ = "mxc://a/b/c" ∧
      ofOptional (some (text ⟨"a/b", "c"⟩)) = {} := by
  obtain ⟨reads, back, refuses, -, -, zero⟩ := references_read_as_written
  have valid : Valid ⟨"example.org", "AbCdEf"⟩ := by
    constructor <;> decide
  have read := (reads "mxc://example.org/AbCdEf" ⟨"example.org", "AbCdEf"⟩).mpr ⟨by decide, valid⟩
  have refused : ∀ uri, parse "mxc://a/b/c" ≠ .ok uri := by
    intro uri same
    have error : parse "mxc://a/b/c" = .error .malformed := by decide
    rw [error] at same
    cases same
  have slash : ¬ Valid ⟨"a/b", "c"⟩ := fun valid => valid.plainHomeserver (by decide)
  have bad : ¬ ((⟨"a/b", "c"⟩ : ContentUri) = {} ∨ Valid ⟨"a/b", "c"⟩) := by
    rintro (same | valid)
    · exact absurd same (by decide)
    · exact slash valid
  exact ⟨valid, read, (back _ _ read).2, refused, (refuses _ refused).1, slash, by decide,
    zero _ bad⟩

end PuppetRegistry.ContentUri
