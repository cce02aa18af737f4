import PuppetRegistry.Text.Cut
import PuppetRegistry.Text.Quoted

/-!
# References into a media repository

A reference is written `mxc://homeserver/file`, neither part empty or holding a slash. The zero
reference, with two empty parts, is written as the empty text.
-/

namespace PuppetRegistry

structure ContentUri where
  homeserver : String := ""
  file : String := ""
  deriving DecidableEq, Repr

namespace ContentUri

inductive Refusal
  | otherScheme
  | malformed
  deriving DecidableEq, Repr

def Refusal.message (text : String) : Refusal → String
  | otherScheme => Text.quote text ++ " is not an mxc:// URI"
  | malformed => Text.quote text ++ " is not a valid mxc:// URI"

def scheme : List Char := ['m', 'x', 'c', ':', '/', '/']

def parse (text : String) : Except Refusal ContentUri :=
  match Text.dropStart? scheme text.toList with
  | none => .error .otherScheme
  | some body =>
    match Text.cutAt? '/' body with
    | none => .error .malformed
    | some (homeserver, file) =>
      if homeserver.isEmpty || file.isEmpty || file.contains '/' then .error .malformed
      else .ok ⟨String.ofList homeserver, String.ofList file⟩

def parseOrZero (text : String) : ContentUri :=
  match parse text with
  | .ok uri => uri
  | .error _ => {}

/-- The reference that a text writes, if there is a text, or else the zero reference. -/
def ofOptional (written : Option String) : ContentUri :=
  parseOrZero (written.getD "")

def isEmpty (uri : ContentUri) : Bool :=
  uri.homeserver.isEmpty && uri.file.isEmpty

def text (uri : ContentUri) : String :=
  if uri.isEmpty then "" else String.ofList scheme ++ uri.homeserver ++ "/" ++ uri.file

end ContentUri

end PuppetRegistry
