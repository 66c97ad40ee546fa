/-!
# Addresses

What is to be known of an address : its scheme, its host, and how it is written in normal form. How
a text is read as an address is left open. Whatever is said about endpoints and clients is said for
every reader.
-/

namespace ChatLink

/-- An address that was read. -/
structure Address where
  scheme : String
  /-- The written form of the host, if the address has one. -/
  host : Option String
  /-- The written form of the whole address. -/
  text : String
  deriving DecidableEq, Repr

/-- Reads a text as an address, or says in words why it is none. -/
abbrev Address.Reader := String → Except String Address

/-- Reads every text as the address of the machine itself. -/
def Address.Reader.loopback : Address.Reader := fun _ => .ok ⟨"ws", some "[::1]", "ws://[::1]/"⟩

end ChatLink
