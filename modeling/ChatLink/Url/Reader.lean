import ChatLink.Address
import ChatLink.Url.Parts

/-!
# A reader of addresses

Reads addresses whose hosts are written in ASCII.
-/

namespace ChatLink.Url

/-- What is known of an address that was taken apart. Nothing but the scheme is told of an address
that is not one of the web. -/
def Parsed.address : Parsed → Address
  | web url => ⟨url.scheme, some url.host.text, url.text⟩
  | foreign scheme => ⟨scheme, none, scheme ++ ":"⟩

/-- Reads an address. -/
def reader : Address.Reader := fun text =>
  match parse text with
  | .ok parsed => .ok parsed.address
  | .error fault => .error fault.message

end ChatLink.Url
