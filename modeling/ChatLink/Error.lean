/-!
# Errors

Everything that a call can be refused for, with the word by which programs know the error and the
sentence by which people do.
-/

namespace ChatLink

/-- The fields without which an event is incomplete. -/
inductive Field where
  | room
  | user
  | text
  deriving DecidableEq, Repr

/-- The key of a field. -/
def Field.name : Field → String
  | .room => "room"
  | .user => "user"
  | .text => "text"

/-- Why a call was refused. -/
inductive Error where
  /-- The settings are missing or malformed. -/
  | invalidConfig (reason : String)
  /-- The endpoint cannot be used, or the connection failed. -/
  | transport (reason : String)
  /-- The service of a connection could not be started. -/
  | threadSpawn (reason : String)
  /-- A session is live already. -/
  | alreadyConnected
  /-- There is no session to send on. -/
  | notConnected
  /-- There is no memory left. -/
  | allocationFailure
  /-- A frame has more tokens than allowed. -/
  | tooManyTokens (capacity : Nat)
  /-- A frame has none of the known shapes. -/
  | unrecognizedFrame (reason : String)
  /-- A message frame lacks a text field. -/
  | incompleteEvent (field : Field)
  deriving DecidableEq, Repr

namespace Error

/-- The stable word for an error. -/
def code : Error → String
  | invalidConfig _ => "INVALID_CONFIG"
  | transport _ => "TRANSPORT"
  | threadSpawn _ => "THREAD_SPAWN"
  | alreadyConnected => "ALREADY_CONNECTED"
  | notConnected => "NOT_CONNECTED"
  | allocationFailure => "ALLOCATION_FAILURE"
  | tooManyTokens _ => "TOO_MANY_TOKENS"
  | unrecognizedFrame _ => "UNRECOGNIZED_FRAME"
  | incompleteEvent _ => "INCOMPLETE_EVENT"

/-- The sentence for an error. -/
def message : Error → String
  | invalidConfig reason => "invalid config: " ++ reason
  | transport reason => "transport error: " ++ reason
  | threadSpawn reason => "failed to spawn service thread: " ++ reason
  | alreadyConnected => "already connected"
  | notConnected => "not connected"
  | allocationFailure => "allocation failure"
  | tooManyTokens capacity => "too many tokens (capacity " ++ toString capacity ++ ")"
  | unrecognizedFrame reason => "unrecognized frame: " ++ reason
  | incompleteEvent field =>
    "incomplete event: missing or non-string `" ++ field.name ++ "`"

/-- The errors that only a frame from the other side can cause. -/
def isDecodeError : Error → Bool
  | tooManyTokens _ | unrecognizedFrame _ | incompleteEvent _ => true
  | _ => false

end Error

end ChatLink
