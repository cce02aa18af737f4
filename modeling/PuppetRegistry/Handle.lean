import PuppetRegistry.Fault
import PuppetRegistry.Statement

/-!
# Handles

A handle answers statements from some state: with rows, with the first row, or with the number of
rows it changed.
-/

namespace PuppetRegistry

/-- The answers to statements, from a state of type `σ`. -/
structure Handle (σ : Type) where
  rows : Statement → σ → Except Fault (List (List Cell)) × σ
  row : Statement → σ → Except Fault (Option (List Cell)) × σ
  execute : Statement → σ → Except Fault Int × σ

end PuppetRegistry
