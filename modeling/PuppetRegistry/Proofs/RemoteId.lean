import PuppetRegistry.Proofs.Text.Trimming
import PuppetRegistry.RemoteId

/-!
# Reading identifiers

An identifier is written with an at sign behind its user, and read without the blanks around it and
without the suffixes of its user. Main statements: a text without an at sign names no user, a plain
name with any suffix, an at sign and anything behind it names that user, and an identifier is read
as it was written exactly when it is in canonical form.
-/

namespace PuppetRegistry.RemoteId

open Text

/-! ## What a text names -/

theorem parse_of_uncut {t : String} (uncut : '@' ∉ trimChars t.toList) :
    parse t = ⟨"", String.ofList (trimChars t.toList)⟩ := by
  rw [parse, cutAt?_eq_none_iff.mpr uncut]

theorem parse_of_cut {t : String} {user server : List Char}
    (cut : trimChars t.toList = user ++ '@' :: server) (clear : '@' ∉ user) :
    parse t = ⟨String.ofList (upTo '.' (upTo ':' user)), String.ofList server⟩ := by
  rw [parse, cutAt?_eq_some_iff.mpr ⟨cut, clear⟩]

theorem cut_cases (cs : List Char) :
    '@' ∉ cs ∨ ∃ user server, cs = user ++ '@' :: server ∧ '@' ∉ user := by
  cases cut : cutAt? '@' cs with
  | none => exact .inl (cutAt?_eq_none_iff.mp cut)
  | some parts => exact .inr ⟨parts.1, parts.2, cutAt?_eq_some_iff.mp cut⟩

theorem user_parse_eq_empty {u : String} (plain : '@' ∉ u.toList) : (parse u).user = "" := by
  rw [parse_of_uncut fun mem => plain ((trimChars_sublist _).subset mem)]

/-- No mark is in the user of a text, nor a blank at its start or at the end of the server. -/
structure Trimmed (id : RemoteId) : Prop where
  unmarked : '@' ∉ id.user.toList ∧ ':' ∉ id.user.toList ∧ '.' ∉ id.user.toList
  starts : StartsPlain id.user.toList
  ends : EndsPlain id.server.toList

theorem trimmed_parse (t : String) : (parse t).Trimmed := by
  have starts := startsPlain_trimChars t.toList
  have ends := endsPlain_trimChars t.toList
  obtain uncut | ⟨user, server, cut, clear⟩ := cut_cases (trimChars t.toList)
  · rw [parse_of_uncut uncut]
    refine ⟨⟨nofun, nofun, nofun⟩, nofun, ?_⟩
    rwa [String.toList_ofList]
  · rw [cut] at starts ends
    have inner : upTo '.' (upTo ':' user) <+: upTo ':' user := upTo_isPrefix '.' _
    have within : upTo '.' (upTo ':' user) <+: user := inner.trans (upTo_isPrefix ':' user)
    rw [parse_of_cut cut clear]
    refine ⟨?_, ?_, ?_⟩
    · rw [String.toList_ofList]
      refine ⟨fun mem => clear (within.subset mem), fun mem => ?_, mark_notMem_upTo '.' _⟩
      exact mark_notMem_upTo ':' user (inner.subset mem)
    · rw [String.toList_ofList]
      exact starts.of_isPrefix (within.trans (List.prefix_append user _))
    · rw [String.toList_ofList]
      exact ends.of_isSuffix ((List.suffix_cons '@' server).trans (List.suffix_append user _))

/-! ## Plain names and suffixes -/

/-- A name that is not empty, has none of the marks in it, and does not start with a blank. -/
structure PlainUser (u : String) : Prop where
  start : ∃ c, u.toList.head? = some c ∧ isBlank c = false
  unmarked : '@' ∉ u.toList ∧ ':' ∉ u.toList ∧ '.' ∉ u.toList

theorem PlainUser.startsPlain_append {u : String} (plain : PlainUser u) (cs : List Char) :
    StartsPlain (u.toList ++ cs) := by
  obtain ⟨c, head, start⟩ := plain.start
  intro d mem
  rw [List.head?_append, head] at mem
  cases mem
  exact start

theorem PlainUser.ne_empty {u : String} (plain : PlainUser u) : u ≠ "" := by
  rintro rfl
  obtain ⟨c, head, _⟩ := plain.start
  cases head

/-- What may follow a user in a text: nothing, or a colon or a dot and anything but an at sign. -/
structure IsSuffix (x : String) : Prop where
  start : ∀ c ∈ x.toList.head?, c = ':' ∨ c = '.'
  clear : '@' ∉ x.toList

theorem upTo_suffixed {u : List Char} {x : String} (noColon : ':' ∉ u) (noDot : '.' ∉ u)
    (suffix : IsSuffix x) : upTo '.' (upTo ':' (u ++ x.toList)) = u := by
  have start := suffix.start
  rw [upTo_append noColon]
  cases chars : x.toList with
  | nil => rw [upTo_append noDot]; exact List.append_nil u
  | cons c cs =>
    rw [chars] at start
    obtain rfl | rfl := start c rfl
    · rw [upTo_mark, List.append_nil, upTo_eq_self noDot]
    · rw [upTo_cons_of_ne (by decide), upTo_append noDot, upTo_mark, List.append_nil]

theorem parse_suffixed {u x : String} (plain : PlainUser u) (suffix : IsSuffix x) (s : String) :
    parse (u ++ x ++ "@" ++ s) = ⟨u, String.ofList (dropTail isBlank s.toList)⟩ := by
  obtain ⟨noAt, noColon, noDot⟩ := plain.unmarked
  have at_sign : "@".toList = ['@'] := rfl
  have cut : trimChars (u ++ x ++ "@" ++ s).toList =
      (u.toList ++ x.toList) ++ '@' :: dropTail isBlank s.toList := by
    simp only [String.toList_append, at_sign, List.append_assoc, List.singleton_append]
    rw [← List.append_assoc, trimChars_append_cons (plain.startsPlain_append _) (by decide),
      List.append_assoc]
  have clear : '@' ∉ u.toList ++ x.toList := by
    rw [List.mem_append, not_or]
    exact ⟨noAt, suffix.clear⟩
  rw [parse_of_cut cut clear, upTo_suffixed noColon noDot suffix, String.ofList_toList]

theorem isSuffix_empty : IsSuffix "" :=
  ⟨nofun, by decide⟩

theorem user_parse_suffixed {u : String} (plain : PlainUser u) (s : String) :
    (parse (u ++ "@" ++ s)).user = u := by
  have read := parse_suffixed plain isSuffix_empty s
  rw [String.append_empty] at read
  rw [read]

/-! ## Canonical form -/

/-- The identifiers that are read as they are written: a plain name on a server whose text does not
end with a blank, and a server whose text has no at sign and no blank at either end. -/
inductive Canonical : RemoteId → Prop
  | user {u s : String} (plain : PlainUser u) (ends : EndsPlain s.toList) : Canonical ⟨u, s⟩
  | server {s : String} (clear : '@' ∉ s.toList) (starts : StartsPlain s.toList)
    (ends : EndsPlain s.toList) : Canonical ⟨"", s⟩

theorem text_eq_of_user {id : RemoteId} (named : id.user ≠ "") :
    id.text = id.user ++ "@" ++ id.server := by
  rw [text, if_neg (by simpa using named)]

theorem text_eq_of_server (s : String) : text ⟨"", s⟩ = s :=
  rfl

theorem Canonical.parse_suffixed {id : RemoteId} (canonical : id.Canonical) (named : id.user ≠ "")
    {x : String} (suffix : IsSuffix x) : parse (id.user ++ x ++ "@" ++ id.server) = id := by
  cases canonical with
  | user plain ends =>
    rw [RemoteId.parse_suffixed plain suffix, dropTail_isBlank_eq_self ends, String.ofList_toList]
  | server => exact absurd rfl named

theorem Canonical.parse_text {id : RemoteId} (canonical : id.Canonical) : parse id.text = id := by
  cases canonical with
  | @user u s plain ends =>
    have read := (Canonical.user plain ends).parse_suffixed plain.ne_empty isSuffix_empty
    have written : text ⟨u, s⟩ = u ++ "@" ++ s := text_eq_of_user plain.ne_empty
    rwa [String.append_empty, ← written] at read
  | @server s clear starts ends =>
    have whole : trimChars s.toList = s.toList := trimChars_eq_self_iff.mpr ⟨starts, ends⟩
    rw [text_eq_of_server, parse_of_uncut (by rwa [whole]), whole, String.ofList_toList]

/-- A server is read as it is written only if there is no at sign in it: what stands behind an at
sign is shorter. -/
theorem of_parse_server {s : String} (read : parse s = ⟨"", s⟩) :
    '@' ∉ s.toList ∧ trimChars s.toList = s.toList := by
  obtain uncut | ⟨user, server, cut, clear⟩ := cut_cases (trimChars s.toList)
  · rw [parse_of_uncut uncut] at read
    have whole : trimChars s.toList = s.toList := by
      simpa only [String.toList_ofList] using congrArg (fun id => id.server.toList) read
    exact ⟨whole ▸ uncut, whole⟩
  · rw [parse_of_cut cut clear] at read
    have same : server = s.toList := by
      simpa only [String.toList_ofList] using congrArg (fun id => id.server.toList) read
    have shorter := (trimChars_sublist s.toList).length_le
    rw [cut, same, List.length_append, List.length_cons] at shorter
    omega

theorem canonical_of_parse_text {id : RemoteId} (read : parse id.text = id) : id.Canonical := by
  have trimmed := trimmed_parse id.text
  rw [read] at trimmed
  obtain ⟨u, s⟩ := id
  by_cases named : u = ""
  · subst named
    obtain ⟨clear, whole⟩ := of_parse_server read
    obtain ⟨starts, ends⟩ := trimChars_eq_self_iff.mp whole
    exact .server clear starts ends
  · have some_char : u.toList ≠ [] := by simpa using named
    have head : u.toList.head? = some (u.toList.head some_char) := List.head?_eq_some_head _
    exact .user ⟨⟨_, head, trimmed.starts _ head⟩, trimmed.unmarked⟩ trimmed.ends

/-- An identifier is read as it was written exactly when it is canonical; no user that is read has a
mark in it; and a canonical identifier of a user is read whatever suffix its user is given. -/
theorem reads_as_written :
    (∀ id : RemoteId, parse id.text = id ↔ id.Canonical) ∧
    (∀ t : String, '@' ∉ (parse t).user.toList ∧ ':' ∉ (parse t).user.toList ∧
      '.' ∉ (parse t).user.toList) ∧
    (∀ id : RemoteId, id.Canonical → id.user ≠ "" → ∀ suffix, IsSuffix suffix →
      parse (id.user ++ suffix ++ "@" ++ id.server) = id) := by
  refine ⟨fun id => ⟨canonical_of_parse_text, Canonical.parse_text⟩, ?_, ?_⟩
  · intro t
    exact (trimmed_parse t).unmarked
  · intro id canonical named suffix isSuffix
    exact canonical.parse_suffixed named isSuffix

/-- Blanks and marks are kept where they do not matter. -/
theorem reads_as_written_odd :
    Canonical ⟨"ada ", " eve@remote.example"⟩ ∧ IsSuffix ".1:2.3" ∧
      parse "ada .1:2.3@ eve@remote.example" = ⟨"ada ", " eve@remote.example"⟩ := by
  have plain : PlainUser "ada " := ⟨⟨'a', rfl, by decide⟩, by decide⟩
  have ends : EndsPlain " eve@remote.example".toList := by
    rintro _ ⟨⟩
    decide
  have suffix : IsSuffix ".1:2.3" := by
    refine ⟨?_, by decide⟩
    rintro _ ⟨⟩
    exact .inr rfl
  have canonical := Canonical.user plain ends
  have written : "ada .1:2.3@ eve@remote.example" =
      "ada " ++ ".1:2.3" ++ "@" ++ " eve@remote.example" := by decide
  rw [written]
  exact ⟨canonical, suffix, reads_as_written.2.2 _ canonical plain.ne_empty _ suffix⟩

end PuppetRegistry.RemoteId
