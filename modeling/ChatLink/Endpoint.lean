import ChatLink.Address
import ChatLink.Error
import ChatLink.Text.Blank
import ChatLink.Text.Quoted

/-!
# Endpoints

The address of a chat server : an address with a host, of scheme `ws`, or `wss` for a connection
that is secured.
-/

namespace ChatLink

/-- Where a client connects to. -/
structure Endpoint where
  address : Address
  deriving DecidableEq, Repr

namespace Endpoint

/-- What can be wrong with an endpoint. -/
inductive Fault where
  /-- The text as it was given, and why it is no address. -/
  | malformed (text reason : String)
  | scheme (name : String)
  /-- The text as it was given. -/
  | hostless (text : String)
  deriving DecidableEq, Repr

/-- The fault as the error of a call. -/
def Fault.toError : Fault → Error
  | malformed text reason => .transport ("invalid endpoint " ++ Text.quoted text ++ ": " ++ reason)
  | scheme name => .transport ("unsupported endpoint scheme " ++ Text.quoted name)
  | hostless text => .transport ("endpoint " ++ Text.quoted text ++ " has no host")

/-- The schemes of chat servers. -/
def isScheme (name : String) : Bool := name == "ws" || name == "wss"

/-- Reads an endpoint; blanks around it do not count. The scheme is looked at before the host. -/
def read (reader : Address.Reader) (text : String) : Except Fault Endpoint :=
  match reader (Text.trim text) with
  | .error reason => .error (.malformed text reason)
  | .ok address =>
    if !isScheme address.scheme then .error (.scheme address.scheme)
    else if address.host.all String.isEmpty then .error (.hostless text)
    else .ok ⟨address⟩

/-- Reads an endpoint for a call. -/
def parse (reader : Address.Reader) (text : String) : Except Error Endpoint :=
  match read reader text with
  | .ok endpoint => .ok endpoint
  | .error fault => .error fault.toError

/-- The connection is to be secured. -/
def isSecure (e : Endpoint) : Bool := e.address.scheme == "wss"

/-- The written form of the host. -/
def host (e : Endpoint) : String := e.address.host.getD ""

/-- The written form of the endpoint. -/
def text (e : Endpoint) : String := e.address.text

end Endpoint

end ChatLink
