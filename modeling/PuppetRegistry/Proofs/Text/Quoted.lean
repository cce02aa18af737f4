import PuppetRegistry.Binary64.Basic
import PuppetRegistry.Text.Line
import PuppetRegistry.Text.Quoted

/-!
# Quoted texts stand on their own

A character is written between marks in one of four forms, and the form at the start of a text tells
which character it writes. Main statements: a quoted text shows, on one line, and is set off by its
marks, whatever it quotes; and different texts are quoted differently.
-/

namespace PuppetRegistry.Text

/-! ## Code points -/

def hexValue (digit : Char) : Nat :=
  if digit.toNat < 0x3a then digit.toNat - 0x30 else digit.toNat - 0x57

def hexNumber (cs : List Char) : Nat :=
  cs.foldl (fun number digit => 16 * number + hexValue digit) 0

theorem hexValue_hexDigit : ∀ n < 16, hexValue (hexDigit n) = n := by
  decide

theorem length_hexDigits (width n : Nat) : (hexDigits width n).length = width := by
  induction width generalizing n with
  | zero => rfl
  | succ width ih => rw [hexDigits, List.length_append, ih, List.length_singleton]

-- The powers are those that stand beside floating-point numbers.
theorem hexNumber_hexDigits (width n : Nat) : hexNumber (hexDigits width n) = n % 16 ^ width := by
  induction width generalizing n with
  | zero =>
    rw [Nat.pow_zero, Nat.mod_one]
    rfl
  | succ width ih =>
    have last := hexValue_hexDigit (n % 16) (Nat.mod_lt n (by decide))
    have before := ih (n / 16)
    rw [hexNumber] at before
    rw [hexDigits, hexNumber, List.foldl_append, before, List.foldl_cons, List.foldl_nil, last,
      Nat.pow_succ, Nat.mul_comm (16 ^ width), Nat.mod_mul, Nat.add_comm]

theorem exists_of_mem_hexDigits {width n : Nat} {c : Char} (mem : c ∈ hexDigits width n) :
    ∃ d < 16, c = hexDigit d := by
  induction width generalizing n with
  | zero => cases mem
  | succ width ih =>
    obtain earlier | last := List.mem_append.mp mem
    · exact ih earlier
    · exact ⟨n % 16, Nat.mod_lt n (by decide), List.mem_singleton.mp last⟩

/-! ## Forms of a character -/

def IsMark (c : Char) : Prop :=
  c = apostrophe ∨ c = doubleMark

theorem isMark_markFor (cs : List Char) : IsMark (markFor cs) := by
  unfold markFor
  split
  · exact .inr rfl
  · exact .inl rfl

/-- The letters that stand for controls. -/
def controls : List (Char × Char) :=
  [('t', '\t'), ('n', '\n'), ('r', '\r')]

/-- The letters that announce code points, with the number of digits. -/
def codeWidths : List (Char × Nat) :=
  [('x', 2), ('u', 4), ('U', 8)]

/-- The forms in which a character is written between two marks. -/
inductive WrittenAs (mark c : Char) : List Char → Prop
  | itself (other : c ≠ mark) (bare : c ≠ backslash) (shows : isPrintable c = true) :
      WrittenAs mark c [c]
  | masked (special : c = mark ∨ c = backslash) : WrittenAs mark c [backslash, c]
  | letter {l : Char} (named : (l, c) ∈ controls) : WrittenAs mark c [backslash, l]
  | code {l : Char} {width : Nat} (wide : (l, width) ∈ codeWidths) (fits : c.toNat < 16 ^ width) :
      WrittenAs mark c (backslash :: l :: hexDigits width c.toNat)

theorem writtenAs_codeEscape (mark c : Char) : WrittenAs mark c (codeEscape c) := by
  unfold codeEscape
  dsimp only
  split
  · exact .code (by decide) (by omega)
  split
  · exact .code (by decide) (by omega)
  · exact .code (by decide) c.val.toNat_lt

theorem writtenAs_quoteChar (mark c : Char) : WrittenAs mark c (quoteChar mark c) := by
  unfold quoteChar
  split
  · next special =>
    simp only [Bool.or_eq_true, beq_iff_eq] at special
    exact .masked special
  next plain =>
  simp only [Bool.or_eq_true, beq_iff_eq, not_or] at plain
  split
  · next tab => exact .letter (by rw [eq_of_beq tab]; decide)
  split
  · next feed => exact .letter (by rw [eq_of_beq feed]; decide)
  split
  · next back => exact .letter (by rw [eq_of_beq back]; decide)
  split
  · next shows => exact .itself plain.1 plain.2 shows
  · exact writtenAs_codeEscape mark c

/-! ## Reading -/

/-- The character that is written behind a backslash, and what follows it. -/
def readEscape? : List Char → Option (Char × List Char)
  | [] => none
  | l :: rest =>
    match codeWidths.lookup l with
    | some width => some (Char.ofNat (hexNumber (rest.take width)), rest.drop width)
    | none => some ((controls.lookup l).getD l, rest)

/-- The first character that is written in a text between two marks, and what follows it. -/
def readQuoted? : List Char → Option (Char × List Char)
  | [] => none
  | c :: rest => if c = backslash then readEscape? rest else some (c, rest)

theorem readQuoted?_backslash (cs : List Char) :
    readQuoted? (backslash :: cs) = readEscape? cs := by
  rw [readQuoted?, if_pos rfl]

theorem readEscape?_control {l c : Char} (named : (l, c) ∈ controls) (rest : List Char) :
    readEscape? (l :: rest) = some (c, rest) := by
  have known : ∀ entry ∈ controls,
      codeWidths.lookup entry.1 = none ∧ controls.lookup entry.1 = some entry.2 := by decide
  obtain ⟨plain, control⟩ := known _ named
  simp only [readEscape?, plain, control, Option.getD_some]

theorem readEscape?_code {l c : Char} {width : Nat} (wide : (l, width) ∈ codeWidths)
    (fits : c.toNat < 16 ^ width) (rest : List Char) :
    readEscape? (l :: (hexDigits width c.toNat ++ rest)) = some (c, rest) := by
  have known : ∀ entry ∈ codeWidths, codeWidths.lookup entry.1 = some entry.2 := by decide
  have length := length_hexDigits width c.toNat
  simp only [readEscape?, known _ wide, List.take_left' length, List.drop_left' length,
    hexNumber_hexDigits, Nat.mod_eq_of_lt fits, Char.ofNat_toNat]

theorem WrittenAs.read {mark c : Char} {form : List Char} (written : WrittenAs mark c form)
    (isMark : IsMark mark) (rest : List Char) : readQuoted? (form ++ rest) = some (c, rest) := by
  cases written with
  | itself other bare shows => exact if_neg bare
  | masked special =>
    obtain rfl | rfl := special
    · obtain rfl | rfl := isMark <;> rfl
    · rfl
  | letter named => exact (readQuoted?_backslash _).trans (readEscape?_control named rest)
  | code wide fits => exact (readQuoted?_backslash _).trans (readEscape?_code wide fits rest)

theorem readQuoted?_quoteChar {mark : Char} (isMark : IsMark mark) (c : Char) (rest : List Char) :
    readQuoted? (quoteChar mark c ++ rest) = some (c, rest) :=
  (writtenAs_quoteChar mark c).read isMark rest

theorem flatMap_quoteChar_injective {mark : Char} (isMark : IsMark mark) :
    Function.Injective (List.flatMap (quoteChar mark)) := by
  intro cs
  induction cs with
  | nil =>
    intro ds same
    cases ds with
    | nil => rfl
    | cons d ds =>
      have read := readQuoted?_quoteChar isMark d (ds.flatMap (quoteChar mark))
      rw [← List.flatMap_cons, ← same] at read
      cases read
  | cons c cs ih =>
    intro ds same
    have read := readQuoted?_quoteChar isMark c (cs.flatMap (quoteChar mark))
    rw [← List.flatMap_cons, same] at read
    cases ds with
    | nil => cases read
    | cons d ds =>
      rw [List.flatMap_cons, readQuoted?_quoteChar isMark, Option.some.injEq, Prod.mk.injEq] at read
      rw [read.1, ih read.2.symm]

theorem quoteChars_eq (cs : List Char) :
    quoteChars cs = markFor cs :: (cs.flatMap (quoteChar (markFor cs)) ++ [markFor cs]) :=
  rfl

/-- The mark is chosen by the text, but it is what the quoted text starts with. -/
theorem quoteChars_injective : Function.Injective quoteChars := by
  intro cs ds same
  rw [quoteChars_eq, quoteChars_eq] at same
  obtain ⟨mark, rest⟩ := List.cons.inj same
  rw [mark] at rest
  exact flatMap_quoteChar_injective (isMark_markFor ds) (List.append_cancel_right rest)

theorem quote_injective : Function.Injective quote := by
  intro s t same
  exact String.toList_inj.mp (quoteChars_injective (String.ofList_injective same))

/-! ## What is seen -/

/-- A text in which the mark stands only behind a backslash. A backslash takes the next character
with it, so one that stands behind another is not in front of what follows. -/
inductive Masked (mark : Char) : List Char → Prop
  | nil : Masked mark []
  | plain {c : Char} {cs : List Char} (other : c ≠ mark) (bare : c ≠ backslash)
      (rest : Masked mark cs) : Masked mark (c :: cs)
  | pair {c : Char} {cs : List Char} (rest : Masked mark cs) : Masked mark (backslash :: c :: cs)

/-- A part of a text that shows, starts and ends with one mark, and masks it in between. -/
structure SetOff (part : List Char) : Prop where
  shows : ∀ c ∈ part, isPrintable c = true
  marked : ∃ mark body, IsMark mark ∧ part = mark :: (body ++ [mark]) ∧ Masked mark body

theorem Masked.append {mark : Char} {cs ds : List Char} (front : Masked mark cs)
    (back : Masked mark ds) : Masked mark (cs ++ ds) := by
  induction front with
  | nil => exact back
  | plain other bare _ ih => exact .plain other bare ih
  | pair _ ih => exact .pair ih

theorem masked_of_plain {mark : Char} {cs : List Char}
    (plain : ∀ c ∈ cs, c ≠ mark ∧ c ≠ backslash) : Masked mark cs := by
  induction cs with
  | nil => exact .nil
  | cons c cs ih =>
    obtain ⟨first, rest⟩ := List.forall_mem_cons.mp plain
    exact .plain first.1 first.2 (ih rest)

theorem isPrintable_hexDigit : ∀ d < 16, isPrintable (hexDigit d) = true := by
  decide

theorem plain_hexDigit : ∀ d < 16,
    hexDigit d ≠ apostrophe ∧ hexDigit d ≠ doubleMark ∧ hexDigit d ≠ backslash := by
  decide

theorem IsMark.isPrintable {mark : Char} (isMark : IsMark mark) : isPrintable mark = true := by
  obtain rfl | rfl := isMark <;> decide

theorem WrittenAs.shows {mark c : Char} {form : List Char} (written : WrittenAs mark c form)
    (isMark : IsMark mark) : ∀ d ∈ form, isPrintable d = true := by
  have slash : isPrintable backslash = true := by decide
  cases written with
  | itself other bare shows => exact List.forall_mem_singleton.mpr shows
  | masked special =>
    have shows : isPrintable c = true := by
      obtain rfl | rfl := special
      · exact isMark.isPrintable
      · exact slash
    exact List.forall_mem_cons.mpr ⟨slash, List.forall_mem_singleton.mpr shows⟩
  | letter named =>
    have letters : ∀ entry ∈ controls, isPrintable entry.1 = true := by decide
    exact List.forall_mem_cons.mpr ⟨slash, List.forall_mem_singleton.mpr (letters _ named)⟩
  | code wide fits =>
    have letters : ∀ entry ∈ codeWidths, isPrintable entry.1 = true := by decide
    refine List.forall_mem_cons.mpr ⟨slash, List.forall_mem_cons.mpr ⟨letters _ wide, ?_⟩⟩
    intro d mem
    obtain ⟨n, small, rfl⟩ := exists_of_mem_hexDigits mem
    exact isPrintable_hexDigit n small

theorem WrittenAs.isMasked {mark c : Char} {form : List Char} (written : WrittenAs mark c form)
    (isMark : IsMark mark) : Masked mark form := by
  cases written with
  | itself other bare shows => exact .plain other bare .nil
  | masked special => exact .pair .nil
  | letter named => exact .pair .nil
  | code wide fits =>
    refine .pair (masked_of_plain ?_)
    intro d mem
    obtain ⟨n, small, rfl⟩ := exists_of_mem_hexDigits mem
    obtain ⟨apart, apart', bare⟩ := plain_hexDigit n small
    obtain rfl | rfl := isMark
    · exact ⟨apart, bare⟩
    · exact ⟨apart', bare⟩

theorem masked_flatMap_quoteChar {mark : Char} (isMark : IsMark mark) (cs : List Char) :
    Masked mark (cs.flatMap (quoteChar mark)) := by
  induction cs with
  | nil => exact .nil
  | cons c cs ih => exact ((writtenAs_quoteChar mark c).isMasked isMark).append ih

theorem setOff_quoteChars (cs : List Char) : SetOff (quoteChars cs) := by
  have isMark := isMark_markFor cs
  refine ⟨?_, _, _, isMark, quoteChars_eq cs, masked_flatMap_quoteChar isMark cs⟩
  rw [quoteChars_eq, List.forall_mem_cons, List.forall_mem_append, List.forall_mem_singleton]
  refine ⟨isMark.isPrintable, ?_, isMark.isPrintable⟩
  intro d mem
  obtain ⟨c, _, inForm⟩ := List.mem_flatMap.mp mem
  exact (writtenAs_quoteChar _ c).shows isMark d inForm

theorem setOff_quote (s : String) : SetOff (quote s).toList := by
  rw [quote, String.toList_ofList]
  exact setOff_quoteChars s.toList

/-- No line ends at a character that shows. -/
theorem not_isLineBreak_of_isPrintable {c : Char} (shows : isPrintable c = true) :
    isLineBreak c = false := by
  refine Bool.eq_false_iff.mpr fun breaks => ?_
  unfold isPrintable at shows
  unfold isLineBreak at breaks
  generalize c.toNat = n at shows breaks
  simp only [Bool.or_eq_true, Bool.and_eq_true, decide_eq_true_eq, beq_iff_eq] at breaks
  have kind : n < 0x20 ∨ n = 0x85 ∨ n = 0x2028 ∨ n = 0x2029 := by omega
  obtain control | rfl | rfl | rfl := kind
  · simp only [if_pos (show n < 0x80 by omega), Bool.and_eq_true, decide_eq_true_eq] at shows
    omega
  · exact absurd shows (by decide)
  · exact absurd shows (by decide +kernel)
  · exact absurd shows (by decide +kernel)

end PuppetRegistry.Text
