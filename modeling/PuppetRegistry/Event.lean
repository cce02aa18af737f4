import PuppetRegistry.Fault
import PuppetRegistry.Text.Quoted

/-!
# Events

What operations report while they run. An event knows its level and its wording; no event carries
an access token or a batch token.
-/

namespace PuppetRegistry

inductive Level
  | debug
  | info
  | warning
  | error
  deriving DecidableEq, Repr

namespace Level

def name : Level → String
  | debug => "DEBUG"
  | info => "INFO"
  | warning => "WARNING"
  | error => "ERROR"

def rank : Level → Int
  | debug => 10
  | info => 20
  | warning => 30
  | error => 40

end Level

inductive Event
  | notInserting (who : RemoteId)
  | notCreating (who : RemoteId)
  | advancing (who : RemoteId) (second : Int)
  | lastActivityFailed (who : RemoteId) (error : StoreError)
  | firstActivityFailed (who : RemoteId) (error : StoreError)
  | loadFailed (who : RemoteId) (error : StoreError)
  | linkLoadFailed (id : String) (error : StoreError)
  | listFailed (error : StoreError)
  | linkedListFailed (error : StoreError)
  | insertFailed (who : RemoteId) (error : StoreError)
  | updateFailed (who : RemoteId) (error : StoreError)
  | renamed (who : RemoteId) (name : String) (quality : Int)
  | unlinking (id : String) (who : RemoteId)
  | postgresReady
  | schemaReady (backend : Backend)
  deriving DecidableEq, Repr

namespace Event

def level : Event → Level
  | advancing .. | renamed .. => .debug
  | unlinking .. | postgresReady | schemaReady _ => .info
  | notInserting _ | notCreating _ | lastActivityFailed .. | firstActivityFailed ..
  | insertFailed .. | updateFailed .. => .warning
  | loadFailed .. | linkLoadFailed .. | listFailed _ | linkedListFailed _ => .error

def message : Event → String
  | notInserting who => "Not inserting " ++ who.text ++ ": not a user"
  | notCreating who => "Not creating puppet for " ++ who.text ++ ": not a user"
  | advancing who second =>
    "Updating activity time for " ++ who.text ++ " to " ++ Numeral.write second
  | lastActivityFailed who error =>
    "Failed to update last_activity_ts for " ++ who.text ++ ": " ++ error.message
  | firstActivityFailed who error =>
    "Failed to update first_activity_ts for " ++ who.text ++ ": " ++ error.message
  | loadFailed who error => "Failed to load puppet " ++ who.text ++ ": " ++ error.message
  | linkLoadFailed id error =>
    "Failed to load puppet by custom mxid " ++ id ++ ": " ++ error.message
  | listFailed error => "Failed to load puppets: " ++ error.message
  | linkedListFailed error => "Failed to load double puppets: " ++ error.message
  | insertFailed who error => "Failed to insert " ++ who.text ++ ": " ++ error.message
  | updateFailed who error => "Failed to update " ++ who.text ++ ": " ++ error.message
  | renamed who name quality =>
    "Displayname of " ++ who.text ++ " changed to " ++ Text.quote name ++ " (quality=" ++
      Numeral.write quality ++ ")"
  | unlinking id who => "Clearing double puppet " ++ id ++ " for " ++ who.text
  | postgresReady => "Postgres schema ready (version=" ++ Numeral.write Fault.currentSchema ++ ")"
  | schemaReady backend => "Schema ready (" ++ backend.name ++ ")"

end Event

end PuppetRegistry
