import PuppetRegistry.Text.Blank
import PuppetRegistry.Text.Cut

/-!
# Identifiers on the remote network

A user is written `user@server`; an identifier without a user is a server alone. A text names the
user without the device (`user:12`) and agent (`user.1`) suffixes that may follow it.
-/

namespace PuppetRegistry

structure RemoteId where
  user : String := ""
  server : String := ""
  deriving DecidableEq, Repr

namespace RemoteId

/-- The server of users, unless another is configured. -/
def usualServer : String := "s.whatsapp.net"

def parse (text : String) : RemoteId :=
  let raw := Text.trimChars text.toList
  match Text.cutAt? '@' raw with
  | none => ⟨"", String.ofList raw⟩
  | some (user, server) =>
    ⟨String.ofList (Text.upTo '.' (Text.upTo ':' user)), String.ofList server⟩

def isEmpty (id : RemoteId) : Bool :=
  id.user.isEmpty && id.server.isEmpty

def text (id : RemoteId) : String :=
  if id.user.isEmpty then id.server else id.user ++ "@" ++ id.server

end RemoteId

end PuppetRegistry
