import ChatLink.Json.Lexer

/-!
# Closing brackets by links

The lexer keeps a list of the open containers, and nothing in the tokens depends on it : a container
is open as long as it has no end, and whoever follows the links from the newest token comes to the
innermost one first. `tokenizeLinked` reads a text in this way and looks at no list.
-/

namespace ChatLink.Json

/-- The token is a container that has no end yet. -/
def Token.isUnclosed (t : Token) : Bool := t.kind.isContainer && t.stop == t.start

namespace Lexer

/-- The first token that is not closed, on the way from a token to the one that it hangs from, and
so on. Links lead back to earlier tokens. -/
def unclosed? (tokens : Array Token) (i : Nat) : Option Nat :=
  match tokens[i]? with
  | none => none
  | some t =>
    if t.isUnclosed then some i
    else
      match t.parent with
      | none => none
      | some j => if j < i then unclosed? tokens j else none
termination_by i

/-- A closing bracket ends the first container that is not closed on the way from the newest token,
which must be of its kind. -/
def closeLinked (s : Lexer) (kind : Kind) : Except LexFault Lexer :=
  match unclosed? s.tokens (s.tokens.size - 1) with
  | none => .error (.invalid s.position)
  | some i =>
    match s.tokens[i]? with
    | none => .error (.invalid s.position)
    | some t =>
      if t.kind = kind then
        let stop := s.position + 1
        .ok { s with
          tokens := s.tokens.modify i fun t => { t with stop := stop }
          anchor := t.parent
          opened := s.opened.erase i }
      else
        .error (.invalid s.position)

/-- One byte. Only a closing bracket is read in another way than by `step`. -/
def stepLinked (capacity : Nat) (s : Lexer) (b : UInt8) : Except LexFault Lexer :=
  match Sign.of b, s.mode with
  | .closing kind, .between => return (← s.closeLinked kind).advance .between
  | .closing kind, .primitive start => do
    let s ← s.endPrimitive capacity start
    return (← s.closeLinked kind).advance .between
  | _, _ => s.step capacity b

/-- No token is left that is not closed. -/
def completeLinked (s : Lexer) : Except LexFault (Array Token) :=
  if s.tokens.any Token.isUnclosed then .error .truncated else .ok s.tokens

/-- The end of the text. -/
def finishLinked (capacity : Nat) (s : Lexer) : Except LexFault (Array Token) :=
  match s.mode with
  | .between => s.completeLinked
  | .primitive start => do (← s.endPrimitive capacity start).completeLinked
  | .string _ | .escape _ | .digits _ _ => .error .truncated

end Lexer

/-- The tokens of a text, found by links. -/
def tokenizeLinked (capacity : Nat) (text : List UInt8) : Except LexFault (Array Token) := do
  (← text.foldlM (Lexer.stepLinked capacity) Lexer.initial).finishLinked capacity

end ChatLink.Json
