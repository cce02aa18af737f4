import PuppetRegistry.Cell

/-!
# Cells that read as nothing

Numbers and bytes are never written as the empty text. Main statement: a cell reads as the empty
text only if it is null or the empty text itself.
-/

namespace PuppetRegistry

theorem Numeral.write_ne_empty (i : Int) : write i ≠ "" := by
  rw [write, ne_eq, String.ofList_eq_empty_iff]
  split
  · nofun
  · exact Nat.toDigits_ne_nil

namespace Binary64

theorem writeDecimal_ne_nil (layout : Layout) (decimal : Decimal) :
    layout.writeDecimal decimal ≠ [] := by
  unfold Layout.writeDecimal
  split
  · nofun
  · dsimp only
    split
    · split
      · simp
      · simp
    · simp

theorem text_ne_empty (x : Binary64) : x.text ≠ "" := by
  rw [text]
  cases x with
  | nan => decide
  | infinity negative => cases negative <;> decide
  | finite negative m e =>
    rw [Layout.write, ne_eq, String.ofList_eq_empty_iff, List.append_eq_nil_iff]
    exact fun both => writeDecimal_ne_nil _ _ both.2

end Binary64

theorem Text.quoteBytes_ne_empty (bytes : List UInt8) : quoteBytes bytes ≠ "" := by
  rw [quoteBytes, ne_eq, String.ofList_eq_empty_iff]
  nofun

/-- Only null and the empty text read as the empty text. -/
theorem Cell.eq_of_asText_empty {c : Cell} (read : c.asText = .ok "") : c = null ∨ c = text "" := by
  cases c with
  | null => exact .inl rfl
  | text s => exact .inr (congrArg text (Except.ok.inj read))
  | bool b => cases b <;> exact absurd (Except.ok.inj read) (by decide)
  | int i =>
    simp only [asText] at read
    split at read
    · exact absurd (Except.ok.inj read) (Numeral.write_ne_empty i)
    · cases read
  | real x => exact absurd (Except.ok.inj read) (Binary64.text_ne_empty x)
  | blob bytes => exact absurd (Except.ok.inj read) (Text.quoteBytes_ne_empty bytes)

end PuppetRegistry
