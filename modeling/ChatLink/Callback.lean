/-!
# Callbacks

What an application does when a message arrives : a list of actions with a name. Actions run in
order while the message is handled.
-/

namespace ChatLink

/-- One thing that a callback does. -/
inductive Action where
  | join (room : String)
  | leave (room : String)
  | send (room text : String)
  /-- Sends the message's text back to its room. -/
  | echo
  | close
  | connect
  /-- Asks for the client's state. -/
  | state
  /-- Later messages are not handled. -/
  | clearCallback
  /-- Later messages are handled by another callback. -/
  | setCallback (name : String) (actions : List Action)
  /-- Breaks down, and takes the service down with it. -/
  | panic

/-- The word for an action in logs. -/
def Action.name : Action → String
  | join _ => "join"
  | leave _ => "leave"
  | send _ _ => "send"
  | echo => "echo"
  | close => "close"
  | connect => "connect"
  | state => "state"
  | clearCallback => "clear_callback"
  | setCallback _ _ => "set_callback"
  | panic => "panic"

/-- What handles messages. -/
structure Callback where
  name : String
  actions : List Action

end ChatLink
