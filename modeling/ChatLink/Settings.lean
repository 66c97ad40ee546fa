import ChatLink.Error
import ChatLink.Text.Blank

/-!
# Settings

What a client needs to know before it can connect. Settings may hold anything; `Settings.check`
says whether a connection can be tried with them.
-/

namespace ChatLink

/-- Where to connect to, and how. -/
structure Settings where
  /-- The address of the server. -/
  endpoint : String
  /-- Sent in the greeting. -/
  token : Option String
  /-- The milliseconds that an attempt may take; 0 sets no limit. -/
  timeout : Nat
  deriving DecidableEq, Repr

namespace Settings

/-- The time that an attempt may take if nothing is said. -/
def defaultTimeout : Nat := 10000

/-- The longest time that an attempt may take. -/
def maxTimeout : Nat := 300000

/-- Settings with the default time. -/
def new (endpoint : String) (token : Option String) : Settings := ⟨endpoint, token, defaultTimeout⟩

/-- The time after which an attempt ends, if there is a limit. -/
def timer? (s : Settings) : Option Nat := if s.timeout = 0 then none else some s.timeout

/-- What can be wrong with settings. -/
inductive Fault where
  | emptyEndpoint
  | longTimeout
  deriving DecidableEq, Repr

/-- The fault as the error of a call. -/
def Fault.toError : Fault → Error
  | emptyEndpoint => .invalidConfig "endpoint must not be empty"
  | longTimeout => .invalidConfig ("handshake_timeout_ms must be at most " ++ toString maxTimeout)

/-- The first thing that is wrong with settings. -/
def fault? (s : Settings) : Option Fault :=
  if (Text.trim s.endpoint).isEmpty then some .emptyEndpoint
  else if maxTimeout < s.timeout then some .longTimeout
  else none

/-- Nothing is wrong with the settings. -/
def check (s : Settings) : Except Error Unit :=
  match s.fault? with
  | some fault => .error fault.toError
  | none => .ok ()

end Settings

end ChatLink
