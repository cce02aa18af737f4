import PuppetRegistry.Text.Cut
import PuppetRegistry.Text.Digit

/-!
# Arguments of the command line

The program takes a command, and each command takes its options and values in any order. An option
may be shortened as long as it stays unique; what follows `--` is a value; a negative number is a
value, and so is anything with a space that is no option. Options take no argument; the short
request for help may be repeated within one. A request for help is answered as soon as it is met.
-/

namespace PuppetRegistry.CommandLine

inductive Command
  | init
  | list (linked : Bool)
  | show (user : String)
  deriving DecidableEq, Repr

inductive Parsed
  | run (command : Command)
  | help
  | usage
  deriving DecidableEq, Repr

inductive Flag
  | help
  | linked
  deriving DecidableEq, Repr

abbrev Spellings := List (List Char × Flag)

def helpSpellings : Spellings :=
  [("-h".toList, .help), ("--help".toList, .help)]

def listSpellings : Spellings :=
  helpSpellings ++ [("--linked".toList, .linked)]

inductive Token
  | value (text : String)
  | flag (flag : Flag)
  /-- An option with an argument, which none takes. -/
  | overfull
  | unknown
  | ambiguous
  /-- The end of the options. -/
  | mark
  deriving DecidableEq, Repr

/-- Digits, at least one, with a line end after them at most. -/
def isDigits (cs : List Char) : Bool :=
  let rest := cs.dropWhile Text.isDecimalDigit
  (cs.head?.map Text.isDecimalDigit).getD false && (rest == [] || rest == ['\n'])

def isNumber (cs : List Char) : Bool :=
  isDigits cs ||
    match cs.dropWhile Text.isDecimalDigit with
    | '.' :: fraction => isDigits fraction
    | _ => false

/-- A short request for help with more in the same argument, or behind an equals sign: only the same
request may be repeated there. -/
def afterHelp (rest : List Char) : Token :=
  if !rest.isEmpty && rest.all (· == 'h') then .flag .help else .overfull

/-- An argument with two minus signs in front: a spelling, or the start of one only. -/
def longToken (spellings : Spellings) (cs : List Char) : Option Token :=
  let (name, full) :=
    match Text.cutAt? '=' cs with
    | some (name, _) => (name, true)
    | none => (cs, false)
  match spellings.filter fun (spelling, _) => name.isPrefixOf spelling with
  | [] => none
  | [(_, flag)] => some (if full then .overfull else .flag flag)
  | _ => some .ambiguous

def optionToken (spellings : Spellings) (cs : List Char) : Option Token :=
  match spellings.lookup cs with
  | some flag => some (.flag flag)
  | none =>
    match cs with
    | '-' :: '-' :: _ => longToken spellings cs
    | '-' :: 'h' :: '=' :: rest => some (afterHelp rest)
    | '-' :: 'h' :: rest => some (afterHelp rest)
    | _ => none

def tokenOf (spellings : Spellings) (argument : String) : Token :=
  match argument.toList with
  | '-' :: c :: cs =>
    if c :: cs = ['-'] then .mark
    else
      match optionToken spellings ('-' :: c :: cs) with
      | some token => token
      | none => if isNumber (c :: cs) || (c :: cs).contains ' ' then .value argument else .unknown
  | _ => .value argument

def tokens (spellings : Spellings) : List String → List Token
  | [] => []
  | argument :: rest =>
    match tokenOf spellings argument with
    | .mark => .mark :: rest.map .value
    | token => token :: tokens spellings rest

structure Given where
  values : List String := []
  linked : Bool := false
  stray : Bool := false
  marked : Bool := false
  deriving Repr

/-- Sort the arguments of a command out, unless help is asked for or an option has an argument. -/
def sortOut : List Token → Given → Except Parsed Given
  | [], given => .ok { given with values := given.values.reverse }
  | token :: rest, given =>
    match token with
    | .value text => sortOut rest { given with values := text :: given.values }
    | .flag .help => .error .help
    | .flag .linked => sortOut rest { given with linked := true }
    | .overfull | .ambiguous => .error .usage
    | .unknown => sortOut rest { given with stray := true }
    | .mark => sortOut rest { given with marked := true }

/-- The spellings and the reading of the arguments of each command. -/
def reader? (name : String) : Option (Spellings × (Given → Option Command)) :=
  match name with
  | "init" =>
    some (helpSpellings, fun g => if g.values.isEmpty && !g.marked then some .init else none)
  | "list" =>
    some (listSpellings, fun g =>
      if g.values.isEmpty && !g.marked then some (.list g.linked) else none)
  | "show" =>
    some (helpSpellings, fun g => match g.values with | [user] => some (.show user) | _ => none)
  | _ => none

def parseCommand (name : String) (arguments : List String) : Parsed :=
  match reader? name with
  | none => .usage
  | some (spellings, read) =>
    let tokens := tokens spellings arguments
    if tokens.contains .ambiguous then .usage
    else
      match sortOut tokens {} with
      | .error parsed => parsed
      | .ok given =>
        match read given with
        | some command => if given.stray then .usage else .run command
        | none => .usage

/-- The arguments of the program. An unknown option in front of the command is an error, but the
command's own request for help comes first. -/
def parse : List String → Parsed
  | [] => .usage
  | argument :: rest =>
    match tokenOf helpSpellings argument with
    | .value name => parseCommand name rest
    | .flag _ => .help
    | .unknown =>
      match parse rest with
      | .help => .help
      | _ => .usage
    | .overfull | .ambiguous | .mark => .usage

end PuppetRegistry.CommandLine
