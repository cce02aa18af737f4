import PuppetRegistry.Puppet.Basic
import PuppetRegistry.Text.Quoted

/-!
# Puppets on one line

The line that shows a puppet to an operator. Only the display name, which remote users choose
freely, is quoted.
-/

namespace PuppetRegistry.Puppet

/-- A text, or a dash for none. -/
def orDash (s : String) : String :=
  if s.isEmpty then "-" else s

def summary (p : Puppet) : String :=
  p.remoteId.text ++ "\tname=" ++ Text.quote p.displayname ++
    " quality=" ++ Numeral.write p.nameQuality ++
    " avatar=" ++ orDash p.avatarUri.text ++
    " linked=" ++ orDash p.linkedUser ++
    " last_sync=" ++ (match p.lastSync with | none => "never" | some m => m.text) ++
    " activity=" ++ Numeral.write p.firstActivity ++ ".." ++ Numeral.write p.lastActivity

end PuppetRegistry.Puppet
