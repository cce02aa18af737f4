import PuppetRegistry.Text.Cut
import PuppetRegistry.Text.Quoted

/-!
# Identifiers on the local network

A local user is written `@localpart:homeserver`. The local part ends at the first colon, so a
homeserver may hold further colons and a local part may not.
-/

namespace PuppetRegistry

structure UserId where
  localpart : String
  homeserver : String
  deriving DecidableEq, Repr

namespace UserId

def text (id : UserId) : String :=
  "@" ++ id.localpart ++ ":" ++ id.homeserver

def parse? (text : String) : Option UserId :=
  match text.toList with
  | [] => none
  | c :: cs =>
    if c == '@' then
      match Text.cutAt? ':' cs with
      | some (localpart, homeserver) =>
        if localpart.isEmpty || homeserver.isEmpty then none
        else some ⟨String.ofList localpart, String.ofList homeserver⟩
      | none => none
    else none

def malformed (text : String) : String :=
  Text.quote text ++ " is not a valid user ID"

end UserId

end PuppetRegistry
