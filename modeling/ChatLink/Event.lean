/-!
# Message events

A message that somebody wrote into a room, as the server tells it.
-/

namespace ChatLink

/-- One message : who said what where, and when. -/
structure Event where
  room : String
  user : String
  text : String
  /-- The server's clock; 0 where the server gave no number. -/
  timestamp : Int64
  deriving DecidableEq, Repr

end ChatLink
