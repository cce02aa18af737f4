import PuppetRegistry.UserId

/-!
# Local users that are read back

Main statements: a text is read as a local user exactly when it is an at sign, a local part without
colons, a colon and a homeserver, neither part empty; what is written for any two parts is read as
these parts exactly when they are of this kind; and two users with the same text are one as long as
their local parts hold no colon.
-/

namespace PuppetRegistry.UserId

/-- Neither part is empty, and the local part holds no colon. -/
structure Valid (id : UserId) : Prop where
  localpart : id.localpart ≠ ""
  homeserver : id.homeserver ≠ ""
  plain : ':' ∉ id.localpart.toList

theorem toList_text (id : UserId) :
    id.text.toList = '@' :: (id.localpart.toList ++ ':' :: id.homeserver.toList) := by
  simp [text]

theorem parse?_of_toList {t : String} {localpart homeserver : List Char}
    (made : t.toList = '@' :: (localpart ++ ':' :: homeserver)) (plain : ':' ∉ localpart) :
    parse? t =
      if localpart.isEmpty || homeserver.isEmpty then none
      else some ⟨String.ofList localpart, String.ofList homeserver⟩ := by
  simp only [parse?, made, beq_self_eq_true, if_true, Text.cutAt?_append plain]

theorem toList_of_parse? {t : String} {id : UserId} (read : parse? t = some id) :
    ∃ localpart homeserver,
      t.toList = '@' :: (localpart ++ ':' :: homeserver) ∧ ':' ∉ localpart := by
  unfold parse? at read
  split at read
  · cases read
  · next c cs chars =>
    split at read
    · next marked =>
      split at read
      · next localpart homeserver cut =>
        obtain ⟨made, plain⟩ := Text.cutAt?_eq_some_iff.mp cut
        rw [beq_iff_eq] at marked
        exact ⟨localpart, homeserver, by rw [chars, marked, made], plain⟩
      · cases read
    · cases read

theorem parse?_text_iff {id : UserId} : parse? id.text = some id ↔ id.Valid := by
  constructor
  · intro read
    obtain ⟨localpart, homeserver, made, plain⟩ := toList_of_parse? read
    rw [parse?_of_toList made plain] at read
    split at read
    · cases read
    · next whole =>
      cases read
      simp only [Bool.or_eq_true, List.isEmpty_iff, not_or] at whole
      constructor
      · simpa using whole.1
      · simpa using whole.2
      · simpa using plain
  · intro valid
    have whole : ¬ (id.localpart.toList.isEmpty || id.homeserver.toList.isEmpty) = true := by
      simp [valid.localpart, valid.homeserver]
    rw [parse?_of_toList id.toList_text valid.plain, if_neg whole, String.ofList_toList,
      String.ofList_toList]

theorem text_of_parse? {t : String} {id : UserId} (read : parse? t = some id) : id.text = t := by
  obtain ⟨localpart, homeserver, made, plain⟩ := toList_of_parse? read
  rw [parse?_of_toList made plain] at read
  split at read
  · cases read
  · cases read
    rw [← String.toList_inj, toList_text, String.toList_ofList, String.toList_ofList, made]

theorem parse?_eq_some_iff {t : String} {id : UserId} :
    parse? t = some id ↔ t = id.text ∧ id.Valid := by
  constructor
  · intro read
    have same := text_of_parse? read
    subst same
    exact ⟨rfl, parse?_text_iff.mp read⟩
  · rintro ⟨rfl, valid⟩
    exact parse?_text_iff.mpr valid

/-- The first colon parts a text, whatever stands behind it. -/
theorem eq_of_text_eq {id other : UserId} (plain : ':' ∉ id.localpart.toList)
    (plain' : ':' ∉ other.localpart.toList) (same : id.text = other.text) : id = other := by
  rw [← String.toList_inj, toList_text, toList_text] at same
  have cut := Text.cutAt?_append plain id.homeserver.toList
  rw [(List.cons.inj same).2, Text.cutAt?_append plain'] at cut
  cases id
  cases other
  simp only [Option.some.injEq, Prod.mk.injEq, String.toList_inj] at cut
  rw [cut.1, cut.2]

/-- A text is read as a local user exactly when it is an at sign, a local part without colons, a
colon and a homeserver, neither part empty, and the user is then written as that text; any other
text is not read. What is written for two parts is read as these parts exactly when they are so, and
no two users whose local parts are without colons are written alike. -/
theorem users_read_as_written :
    (∀ t id, parse? t = some id ↔
      t = "@" ++ id.localpart ++ ":" ++ id.homeserver ∧ id.Valid) ∧
    (∀ t id, parse? t = some id → id.text = t) ∧
    (∀ t, parse? t = none ↔ ∀ id : UserId, id.Valid → id.text ≠ t) ∧
    (∀ id, parse? id.text = some id ↔ id.Valid) ∧
    ∀ id other : UserId, ':' ∉ id.localpart.toList → ':' ∉ other.localpart.toList →
      id.text = other.text → id = other := by
  refine ⟨?_, ?_, ?_, ?_, ?_⟩
  · intro t id
    exact parse?_eq_some_iff
  · intro t id read
    exact text_of_parse? read
  · intro t
    constructor
    · rintro unread id valid rfl
      rw [parse?_text_iff.mpr valid] at unread
      cases unread
    · intro unwritten
      cases read : parse? t with
      | none => rfl
      | some id =>
        obtain ⟨rfl, valid⟩ := parse?_eq_some_iff.mp read
        exact absurd rfl (unwritten id valid)
  · intro id
    exact parse?_text_iff
  · intro id other plain plain' same
    exact eq_of_text_eq plain plain' same

/-- Colons in the homeserver, and an at sign in the local part. -/
theorem users_read_as_written_crowded :
    parse? "@ada@home:example.org:8448" = some ⟨"ada@home", "example.org:8448"⟩ ∧
      text ⟨"ada@home", "example.org:8448"⟩ = "@ada@home:example.org:8448" ∧
      ':' ∉ "ada@home".toList ∧
      ∀ id : UserId, ':' ∉ id.localpart.toList → id.text = "@ada@home:example.org:8448" →
        id = ⟨"ada@home", "example.org:8448"⟩ := by
  obtain ⟨reads, writes, -, -, apart⟩ := users_read_as_written
  have valid : Valid ⟨"ada@home", "example.org:8448"⟩ := by
    constructor <;> decide
  have read := (reads "@ada@home:example.org:8448" _).mpr ⟨by decide, valid⟩
  have written := writes _ _ read
  refine ⟨read, written, valid.plain, ?_⟩
  intro id plain same
  exact apart id _ plain valid.plain (same.trans written.symm)

end PuppetRegistry.UserId
