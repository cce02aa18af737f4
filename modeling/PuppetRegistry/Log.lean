import PuppetRegistry.Event
import PuppetRegistry.Text.Case

/-!
# The log

Which events are written, and in what layout. A threshold is given by the name of a level in any
case; an unknown name means that of information. Two names stand for layouts instead of a level and
are refused.
-/

namespace PuppetRegistry.Log

def layout : String := "%(asctime)s | %(levelname)s | %(name)s | %(message)s"

/-- The layout that is used when none is given. -/
def basicLayout : String := "%(levelname)s:%(name)s:%(message)s"

def schedulerThreshold : Int := Level.warning.rank

structure Style where
  mark : String
  name : String
  layout : String
  deriving DecidableEq, Repr

def styles : List Style := [
  ⟨"%", "PercentStyle", basicLayout⟩,
  ⟨"\x7b", "StrFormatStyle", "\x7blevelname\x7d:\x7bname\x7d:\x7bmessage\x7d"⟩,
  ⟨"$", "StringTemplateStyle", "$\x7blevelname\x7d:$\x7bname\x7d:$\x7bmessage\x7d"⟩]

def Style.text (s : Style) : String :=
  Text.quote s.mark ++ ": (<class \x27logging." ++ s.name ++ "\x27>, " ++ Text.quote s.layout ++ ")"

inductive Refusal
  | layout
  | styles
  deriving DecidableEq, Repr

def Refusal.message : Refusal → String
  | layout => "Unknown level: " ++ Text.quote basicLayout
  | styles =>
    "Level not an integer or a valid string: \x7b" ++
      ", ".intercalate (Log.styles.map Style.text) ++ "\x7d"

def ofName (name : String) : Except Refusal Int :=
  match name with
  | "CRITICAL" | "FATAL" => .ok 50
  | "ERROR" => .ok Level.error.rank
  | "WARNING" | "WARN" => .ok Level.warning.rank
  | "DEBUG" => .ok Level.debug.rank
  | "NOTSET" => .ok 0
  | "BASIC_FORMAT" => .error .layout
  | "_STYLES" => .error .styles
  | _ => .ok Level.info.rank

def threshold (name : String) : Except Refusal Int :=
  ofName (Text.upper name)

def above (threshold : Int) (events : List Event) : List Event :=
  events.filter fun e => threshold ≤ e.level.rank

end PuppetRegistry.Log
