/-!
# The other side

A server in memory, as far as a client notices it : whether it lets attempts in, and what becomes
of writes and of the closing of a transport.
-/

namespace ChatLink

/-- How a server behaves. -/
structure Peer where
  /-- An attempt needs a permit, and waits for one. -/
  gated : Bool
  /-- Attempts fail, once they are let in. -/
  refuse : Bool
  /-- Writes wait. -/
  stall : Bool
  /-- Writes fail, once they need not wait. -/
  fail : Bool
  /-- Closing the transport fails. -/
  closeError : Bool
  /-- Closing the transport takes forever. -/
  closeHang : Bool
  /-- The permits that are left. -/
  permits : Nat
  deriving DecidableEq, Repr

/-- What becomes of the closing of a transport. -/
inductive Farewell where
  | done
  | failed
  /-- It takes forever. -/
  | hangs
  deriving DecidableEq, Repr

namespace Peer

/-- A server that lets everything through. -/
def initial : Peer := ⟨false, false, false, false, false, false, 0⟩

/-- The server after an attempt was let in, which uses a permit up if permits are needed. -/
def letIn (p : Peer) : Option Peer :=
  if p.gated then
    if p.permits = 0 then none else some { p with permits := p.permits - 1 }
  else some p

/-- What changes in a server's behaviour; what is not said stays as it is. -/
structure Switches where
  gated : Option Bool
  refuse : Option Bool
  stall : Option Bool
  fail : Option Bool
  closeError : Option Bool
  closeHang : Option Bool
  deriving DecidableEq, Repr

/-- The server after its behaviour changed. -/
def configure (p : Peer) (s : Switches) : Peer where
  gated := s.gated.getD p.gated
  refuse := s.refuse.getD p.refuse
  stall := s.stall.getD p.stall
  fail := s.fail.getD p.fail
  closeError := s.closeError.getD p.closeError
  closeHang := s.closeHang.getD p.closeHang
  permits := p.permits

/-- What becomes of a write. -/
inductive Delivery where
  | waits
  | fails
  | arrives
  deriving DecidableEq, Repr

/-- What becomes of a write now. -/
def delivery (p : Peer) : Delivery :=
  if p.stall then .waits else if p.fail then .fails else .arrives

/-- What becomes of the closing of a transport that begins now. -/
def farewell (p : Peer) : Farewell :=
  if p.closeHang then .hangs else if p.closeError then .failed else .done

/-- One more permit, now or for later. -/
def release (p : Peer) : Peer := { p with permits := p.permits + 1 }

end Peer

/-- What a server sends. -/
inductive Item where
  | text (frame : String)
  | binary (frame : List UInt8)
  /-- The server wants to close the connection. -/
  | close
  /-- Reading failed. -/
  | error
  /-- The server is gone. -/
  | gone
  deriving DecidableEq, Repr

/-- The bytes of a frame that may carry an event. -/
def Item.frame? : Item → Option (List UInt8)
  | text frame => some frame.toUTF8.toList
  | binary frame => some frame
  | close | error | gone => none

end ChatLink
