import Mathlib.Data.Nat.Digits.Lemmas
import PuppetRegistry.Lookup
import PuppetRegistry.Proofs.ContentUri
import PuppetRegistry.Proofs.Numeral
import PuppetRegistry.Proofs.Puppet.Reading
import PuppetRegistry.Proofs.Seconds

/-!
# Which rows can be read

A row is refused for a reason that is found in a cell or in the number of its cells. Main statement:
a row is read into a puppet exactly when there is no such reason, a refusal is a storage error, and
what has been read is told by the row alone and lies in the ranges of its fields.
-/

namespace PuppetRegistry

/-! ## Cells -/

namespace Cell

/-- The whole number that a cell which is not null stands for. -/
inductive StandsFor : Cell → Int → Prop
  | bool (b : Bool) : StandsFor (.bool b) (if b then 1 else 0)
  | int (i : Int) : StandsFor (.int i) i
  /-- The part behind the point of a number that is neither infinite nor none at all is cut off. -/
  | real (negative : Bool) (m : Nat) (e : Int) :
    StandsFor (.real (.finite negative m e)) (Numeral.signed negative (Binary64.wholePart m e))
  | text {s : String} {i : Int} (writes : Numeral.Writes s.toList i) : StandsFor (.text s) i
  | blob {bytes : List UInt8} {i : Int}
    (writes : Numeral.Writes (bytes.map Numeral.charOfByte) i) : StandsFor (.blob bytes) i

theorem numeral_eq_ok_iff {shown : String} {reading : Except Numeral.Refusal Int} {i : Int} :
    numeral shown reading = .ok i ↔ reading = .ok i := by
  cases reading with
  | ok => simp [numeral]
  | error refusal => cases refusal <;> exact ⟨nofun, nofun⟩

theorem toInt_eq_ok_iff {c : Cell} {i : Int} : c.toInt = .ok i ↔ c.StandsFor i := by
  constructor
  · intro read
    cases c with
    | null => cases read
    | bool b =>
      cases read
      exact .bool b
    | int i =>
      cases read
      exact .int i
    | real x =>
      cases x with
      | nan | infinity => cases read
      | finite negative m e =>
        cases read
        exact .real negative m e
    | text s => exact .text (Numeral.readChars_eq_ok_iff.mp (numeral_eq_ok_iff.mp read))
    | blob bytes => exact .blob (Numeral.readChars_eq_ok_iff.mp (numeral_eq_ok_iff.mp read))
  · rintro (_ | _ | _ | writes | writes)
    · rfl
    · rfl
    · rfl
    · exact numeral_eq_ok_iff.mpr (Numeral.readChars_eq_ok_iff.mpr writes)
    · exact numeral_eq_ok_iff.mpr (Numeral.readChars_eq_ok_iff.mpr writes)

/-- A cell that is read as a whole number, null as zero. -/
def IsNumber (c : Cell) : Prop :=
  c = .null ∨ ∃ i, c.StandsFor i

theorem asInt_of_ne_null {c : Cell} (known : c ≠ .null) : c.asInt = c.toInt := by
  cases c with
  | null => exact absurd rfl known
  | bool | int | real | text | blob => rfl

theorem asInt_eq_ok_iff {c : Cell} {i : Int} :
    c.asInt = .ok i ↔ (c = .null ∧ i = 0) ∨ c.StandsFor i := by
  by_cases null : c = .null
  · subst null
    constructor
    · intro read
      cases read
      exact .inl ⟨rfl, rfl⟩
    · rintro (⟨-, rfl⟩ | stands)
      · rfl
      · cases stands
  · rw [asInt_of_ne_null null, toInt_eq_ok_iff]
    exact ⟨.inr, fun read => read.resolve_left fun nothing => null nothing.1⟩

theorem exists_asInt_iff {c : Cell} : (∃ i, c.asInt = .ok i) ↔ c.IsNumber := by
  simp only [asInt_eq_ok_iff, IsNumber]
  constructor
  · rintro ⟨i, ⟨null, -⟩ | stands⟩
    · exact .inl null
    · exact .inr ⟨i, stands⟩
  · rintro (null | ⟨i, stands⟩)
    · exact ⟨0, .inl ⟨null, rfl⟩⟩
    · exact ⟨i, .inr stands⟩

/-- A whole number of more digits than are written. -/
inductive TooLong : Cell → Prop
  | intro {i : Int} (long : Numeral.maxDigits < (Nat.digits 10 i.natAbs).length) : TooLong (.int i)

theorem exists_asText_iff {c : Cell} : (∃ s, c.asText = .ok s) ↔ ¬ c.TooLong := by
  cases c with
  | int i =>
    have long_iff : Numeral.maxDigits < (Nat.digits 10 i.natAbs).length ↔
        10 ^ Numeral.maxDigits ≤ i.natAbs := Nat.lt_digits_length_iff (by decide) _
    by_cases short : i.natAbs < 10 ^ Numeral.maxDigits
    · refine iff_of_true ⟨Numeral.write i, by rw [asText, if_pos short]⟩ ?_
      rintro ⟨long⟩
      exact Nat.not_le.mpr short (long_iff.mp long)
    · refine iff_of_false ?_ (not_not_intro ⟨long_iff.mpr (Nat.not_lt.mp short)⟩)
      rintro ⟨s, read⟩
      rw [asText, if_neg short] at read
      cases read
  | null | bool | real | text | blob => exact iff_of_true ⟨_, rfl⟩ nofun

end Cell

/-! ## Rows -/

namespace Row

theorem ofCells_eq_ok_iff {cells : List Cell} {r : Row} : ofCells cells = .ok r ↔ cells = r.cells := by
  constructor
  · intro read
    unfold ofCells at read
    split at read
    · cases read
      rfl
    · cases read
  · rintro rfl
    exact ofCells_cells r

theorem length_eq_width_iff {cells : List Cell} :
    cells.length = width ↔ ∃ r : Row, cells = r.cells := by
  constructor
  · intro length
    rcases cells with _ | ⟨user, _ | ⟨avatar, _ | ⟨avatarUri, _ | ⟨displayname, _ | ⟨nameQuality,
      _ | ⟨nameSet, _ | ⟨avatarSet, _ | ⟨lastSync, _ | ⟨linkedUser, _ | ⟨accessToken, _ | ⟨nextBatch,
      _ | ⟨enablePresence, _ | ⟨enableReceipts, _ | ⟨firstActivity, _ | ⟨lastActivity,
      _ | ⟨_, _⟩⟩⟩⟩⟩⟩⟩⟩⟩⟩⟩⟩⟩⟩⟩⟩
    iterate 15 · simp [width] at length
    · exact ⟨⟨user, avatar, avatarUri, displayname, nameQuality, nameSet, avatarSet, lastSync,
        linkedUser, accessToken, nextBatch, enablePresence, enableReceipts, firstActivity,
        lastActivity⟩, rfl⟩
    · simp [width] at length
  · rintro ⟨r, rfl⟩
    rfl

def texts (r : Row) : List Cell :=
  [r.user, r.avatar, r.avatarUri, r.displayname, r.linkedUser, r.accessToken, r.nextBatch]

def numbers (r : Row) : List Cell :=
  [r.nameQuality, r.lastSync, r.firstActivity, r.lastActivity]

/-- A reason why a row cannot be read. -/
inductive Refused (r : Row) : Prop
  | nobody (missing : r.user = .null)
  | tooLong {c : Cell} (mem : c ∈ r.texts) (long : c.TooLong)
  | notNumber {c : Cell} (mem : c ∈ r.numbers) (other : ¬ c.IsNumber)
  | tooLate {second : Int} (stands : r.lastSync.StandsFor second) (late : endSecond ≤ second)

end Row

namespace Puppet

theorem readUser_eq_ok_iff {server : String} {c : Cell} {id : RemoteId} :
    readUser server c = .ok id ↔ c ≠ .null ∧ c.asText = .ok id.user ∧ id.server = server := by
  obtain ⟨user, place⟩ := id
  by_cases null : c = .null
  · subst null
    exact iff_of_false nofun fun read => read.1 rfl
  · have opened : readUser server c = c.asText.map fun user => ⟨user, server⟩ := by
      cases c with
      | null => exact absurd rfl null
      | bool | int | real | text | blob =>
        simp only [readUser]
        generalize Cell.asText _ = read
        cases read <;> rfl
    rw [opened]
    cases c.asText <;> simp [Except.map, null, eq_comm]

theorem readMoment_eq_ok_iff {c : Cell} {sync : Option Moment} :
    readMoment c = .ok sync ↔
      ∃ second, c.asInt = .ok second ∧ Moment.ofUnix? second = .ok sync := by
  rw [readMoment]
  cases c.asInt <;> simp [bind, Except.bind]

end Puppet

theorem Row.ReadsAs.not_refused {server : String} {r : Row} {p : Puppet}
    (reads : r.ReadsAs server p) : ¬ r.Refused := by
  obtain ⟨uri, readUri, -⟩ := reads.avatarUri
  obtain ⟨quality, readQuality, -⟩ := reads.nameQuality
  obtain ⟨known, readUser, -⟩ := Puppet.readUser_eq_ok_iff.mp reads.user
  obtain ⟨second, readSecond, moment⟩ := Puppet.readMoment_eq_ok_iff.mp reads.lastSync
  intro refused
  cases refused with
  | nobody missing => exact known missing
  | tooLong mem long =>
    have texts : ∀ c ∈ r.texts, ∃ s, c.asText = .ok s := by
      simp only [texts, List.forall_mem_cons]
      exact ⟨⟨_, readUser⟩, ⟨_, reads.avatar⟩, ⟨_, readUri⟩, ⟨_, reads.displayname⟩,
        ⟨_, reads.linkedUser⟩, ⟨_, reads.accessToken⟩, ⟨_, reads.nextBatch⟩, nofun⟩
    exact Cell.exists_asText_iff.mp (texts _ mem) long
  | notNumber mem other =>
    have numbers : ∀ c ∈ r.numbers, ∃ i, c.asInt = .ok i := by
      simp only [numbers, List.forall_mem_cons]
      exact ⟨⟨_, readQuality⟩, ⟨_, readSecond⟩, ⟨_, reads.firstActivity⟩, ⟨_, reads.lastActivity⟩,
        nofun⟩
    exact other (Cell.exists_asInt_iff.mp (numbers _ mem))
  | tooLate stands late =>
    have same := Except.ok.inj (readSecond.symm.trans (Cell.asInt_eq_ok_iff.mpr (.inr stands)))
    have bound := Moment.lt_endSecond_of_ofUnix? moment
    omega

theorem Row.exists_readsAs {r : Row} (accepted : ¬ r.Refused) (server : String) :
    ∃ p, r.ReadsAs server p := by
  have texts : ∀ c ∈ r.texts, ∃ s, c.asText = .ok s := fun c mem =>
    Cell.exists_asText_iff.mpr fun long => accepted (.tooLong mem long)
  have numbers : ∀ c ∈ r.numbers, ∃ i, c.asInt = .ok i := fun c mem =>
    Cell.exists_asInt_iff.mpr (by_contra fun other => accepted (.notNumber mem other))
  simp only [Row.texts, List.forall_mem_cons] at texts
  simp only [Row.numbers, List.forall_mem_cons] at numbers
  obtain ⟨⟨user, readUser⟩, ⟨avatar, readAvatar⟩, ⟨uri, readUri⟩, ⟨name, readName⟩, ⟨link, readLink⟩,
    ⟨token, readToken⟩, ⟨batch, readBatch⟩, -⟩ := texts
  obtain ⟨⟨quality, readQuality⟩, ⟨second, readSecond⟩, ⟨first, readFirst⟩, ⟨last, readLast⟩, -⟩ :=
    numbers
  have bound : second < endSecond := by
    rcases Cell.asInt_eq_ok_iff.mp readSecond with ⟨-, rfl⟩ | stands
    · decide
    · exact Int.not_le.mp fun late => accepted (.tooLate stands late)
  obtain ⟨sync, moment⟩ := Moment.ofUnix?_of_lt bound
  have readId : Puppet.readUser server r.user = .ok ⟨user, server⟩ :=
    Puppet.readUser_eq_ok_iff.mpr ⟨fun missing => accepted (.nobody missing), readUser, rfl⟩
  have readSync := Puppet.readMoment_eq_ok_iff.mpr ⟨second, readSecond, moment⟩
  exact ⟨⟨⟨user, server⟩, avatar, .parseOrZero uri, r.avatarSet.asFlag, name,
      Puppet.clampQuality quality, r.nameSet.asFlag, sync, link, token, batch,
      r.enablePresence.asFlag, r.enableReceipts.asFlag, first, last⟩,
    { user := readId
      avatar := readAvatar
      avatarUri := ⟨uri, readUri, rfl⟩
      avatarSet := rfl
      displayname := readName
      nameQuality := ⟨quality, readQuality, rfl⟩
      nameSet := rfl
      lastSync := readSync
      linkedUser := readLink
      accessToken := readToken
      nextBatch := readBatch
      enablePresence := rfl
      enableReceipts := rfl
      firstActivity := readFirst
      lastActivity := readLast }⟩

/-! ## Reading into a puppet -/

namespace Puppet

/-- Whether a reader stops, and why, does not depend on the puppet that it reads into. -/
def Reader.Blind (reader : Reader) : Prop :=
  ∀ p q, (∃ p' q', reader p = .ok p' ∧ reader q = .ok q') ∨
    ∃ e, reader p = .error e ∧ reader q = .error e

theorem blind_set {α : Type} (x : Except ConversionError α) (set : Puppet → α → Puppet) :
    Reader.Blind fun p => return set p (← x) := by
  intro p q
  cases x with
  | ok a => exact .inl ⟨_, _, rfl, rfl⟩
  | error e => exact .inr ⟨e, rfl, rfl⟩

theorem blind_flag (set : Puppet → Puppet) : Reader.Blind fun p => return set p :=
  fun _ _ => .inl ⟨_, _, rfl, rfl⟩

theorem failure_runReaders {rs : List Reader} (blind : ∀ reader ∈ rs, reader.Blind) (p q : Puppet) :
    (runReaders rs p).2 = (runReaders rs q).2 := by
  induction rs generalizing p q with
  | nil => rfl
  | cons reader rest ih =>
    obtain ⟨first, others⟩ := List.forall_mem_cons.mp blind
    rcases first p q with ⟨p', q', left, right⟩ | ⟨e, left, right⟩
    · rw [runReaders, runReaders, left, right]
      exact ih others p' q'
    · rw [runReaders, runReaders, left, right]

theorem blind_readers (server : String) (r : Row) : ∀ reader ∈ readers server r, reader.Blind := by
  simp only [readers, List.forall_mem_cons]
  exact ⟨blind_set _ _, blind_set _ _, blind_set _ _, blind_set _ _, blind_set _ _, blind_flag _,
    blind_flag _, blind_set _ _, blind_set _ _, blind_set _ _, blind_set _ _, blind_flag _,
    blind_flag _, blind_set _ _, blind_set _ _, List.forall_mem_nil _⟩

theorem readCells_eq_iff {server : String} {cells : List Cell} {p q : Puppet} :
    readCells server cells p = (q, none) ↔ ∃ r : Row, cells = r.cells ∧ r.ReadsAs server q := by
  rw [readCells]
  cases row : Row.ofCells cells with
  | error e =>
    constructor
    · rintro ⟨⟩
    · rintro ⟨r, rfl, -⟩
      cases row
  | ok r =>
    rw [Row.ofCells_eq_ok_iff.mp row]
    refine runReaders_readers_iff.trans ⟨fun reads => ⟨r, rfl, reads⟩, ?_⟩
    rintro ⟨r', same, reads⟩
    have one : r' = r := Except.ok.inj (congrArg Row.ofCells same).symm
    exact one ▸ reads

theorem failure_readCells (server : String) (cells : List Cell) (p q : Puppet) :
    (readCells server cells p).2 = (readCells server cells q).2 := by
  rw [readCells, readCells]
  cases Row.ofCells cells with
  | error e => rfl
  | ok r => exact failure_runReaders (blind_readers server r) p q

/-- Reading a row into whatever puppet comes to what decoding it comes to. -/
theorem decode_eq_readCells (server : String) (cells : List Cell) (p : Puppet) :
    Lookup.decode server cells = match readCells server cells p with
      | (q, none) => .ok q
      | (_, some e) => .error (.storage (.undecodable e)) := by
  have same := failure_readCells server cells {} p
  rw [Lookup.decode, ofCells]
  rcases anew : readCells server cells {} with ⟨q, _ | e⟩
  · obtain ⟨r, rfl, reads⟩ := readCells_eq_iff.mp anew
    rw [readCells_eq_iff.mpr ⟨r, rfl, reads⟩]
    rfl
  · rcases here : readCells server cells p with ⟨q', failure⟩
    rw [anew, here] at same
    cases same
    rfl

theorem failure_readCells_iff {server : String} {cells : List Cell} {p : Puppet} :
    (∃ e, (readCells server cells p).2 = some e) ↔
      cells.length ≠ Row.width ∨ ∃ r : Row, cells = r.cells ∧ r.Refused := by
  constructor
  · rintro ⟨e, failed⟩
    by_cases width : cells.length = Row.width
    · obtain ⟨r, rfl⟩ := Row.length_eq_width_iff.mp width
      refine .inr ⟨r, rfl, by_contra fun accepted => ?_⟩
      obtain ⟨q, reads⟩ := Row.exists_readsAs accepted server
      rw [readCells_eq_iff.mpr ⟨r, rfl, reads⟩] at failed
      cases failed
    · exact .inl width
  · intro reason
    rcases read : readCells server cells p with ⟨q, _ | e⟩
    · obtain ⟨r, rfl, reads⟩ := readCells_eq_iff.mp read
      rcases reason with other | ⟨r', same, refused⟩
      · exact absurd (Row.length_eq_width_iff.mpr ⟨r, rfl⟩) other
      · obtain rfl : r = r' := Except.ok.inj (congrArg Row.ofCells same)
        exact absurd refused reads.not_refused
    · exact ⟨e, rfl⟩

/-- The fields of a puppet that has been read are in their ranges. -/
structure InRange (p : Puppet) : Prop where
  quality : -128 ≤ p.nameQuality ∧ p.nameQuality ≤ 127
  avatarUri : p.avatarUri = {} ∨ p.avatarUri.Valid
  lastSync : p.lastSync = none ∨ ∃ m second, p.lastSync = some m ∧ m.offset = 0 ∧
    m.micros = second * microsPerSecond ∧ 1 ≤ second ∧ second ≤ 253402300799

theorem inRange_of_readsAs {server : String} {r : Row} {p : Puppet} (reads : r.ReadsAs server p) :
    p.InRange where
  quality := by
    obtain ⟨quality, -, clamped⟩ := reads.nameQuality
    simp only [clampQuality, minQuality, maxQuality] at clamped
    omega
  avatarUri := by
    obtain ⟨uri, -, parsed⟩ := reads.avatarUri
    rw [← parsed, ContentUri.parseOrZero]
    cases read : ContentUri.parse uri with
    | ok found => exact .inr (ContentUri.parse_eq_ok_iff.mp read).2
    | error e => exact .inl rfl
  lastSync := by
    obtain ⟨second, -, moment⟩ := readMoment_eq_ok_iff.mp reads.lastSync
    cases sync : p.lastSync with
    | none => exact .inl rfl
    | some m =>
      rw [sync] at moment
      obtain ⟨positive, bound, whole, utc⟩ := Moment.ofUnix?_eq_some moment
      rw [endSecond] at bound
      exact .inr ⟨m, second, rfl, utc, whole, by omega, by omega⟩

/-- Reading a row into a puppet fails exactly for one of the reasons, and then with the storage
error with which decoding it fails; what has been read is the same for every puppet that the row is
read into, and in range. -/
theorem read_unless_refused (server : String) (cells : List Cell) (p : Puppet) :
    ((∃ e, (readCells server cells p).2 = some e) ↔
      cells.length ≠ Row.width ∨ ∃ r : Row, cells = r.cells ∧ r.Refused) ∧
    Lookup.decode server cells = (match readCells server cells p with
      | (q, none) => .ok q
      | (_, some e) => .error (.storage (.undecodable e))) ∧
    ∀ q, readCells server cells p = (q, none) →
      (∀ p', readCells server cells p' = (q, none)) ∧ q.InRange := by
  refine ⟨failure_readCells_iff, decode_eq_readCells server cells p, ?_⟩
  intro q read
  obtain ⟨r, rfl, reads⟩ := readCells_eq_iff.mp read
  exact ⟨fun p' => readCells_eq_iff.mpr ⟨r, rfl, reads⟩, inRange_of_readsAs reads⟩

/-- A row of cells of every type but null, few of them of the type of their column. -/
def mixedCells : List Cell :=
  [.int 42, .bool true, .text "mxc:/remote.example", .blob [65], .text " -1_000 ", .text "",
    .real .nan, .text "253402300799", .int 0, .text "", .bool false, .blob [], .text "0",
    .blob [49, 50], .real (.finite true 3 (-1))]

theorem read_unless_refused_mixed :
    ∃ q, readCells "remote.example" mixedCells {} = (q, none) ∧
      (∀ p', readCells "remote.example" mixedCells p' = (q, none)) ∧ q.InRange ∧
      q.nameQuality = -128 ∧ q.firstActivity = 12 ∧ q.lastActivity = -1 := by
  have read : (readCells "remote.example" mixedCells {}).2 = none := by decide +kernel
  have fields : (readCells "remote.example" mixedCells {}).1.nameQuality = -128 ∧
      (readCells "remote.example" mixedCells {}).1.firstActivity = 12 ∧
      (readCells "remote.example" mixedCells {}).1.lastActivity = -1 := by decide +kernel
  have whole : readCells "remote.example" mixedCells {} =
      ((readCells "remote.example" mixedCells {}).1, none) := by rw [← read]
  obtain ⟨anywhere, inRange⟩ := (read_unless_refused _ _ _).2.2 _ whole
  exact ⟨_, whole, anywhere, inRange, fields⟩

end Puppet

end PuppetRegistry
