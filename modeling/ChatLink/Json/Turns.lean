import ChatLink.Json.Links

/-!
# Reading in turns

The lexer takes one byte at a time. A reader that holds a position in the text takes turns instead :
in each of them it reads a bracket, a separator, a blank, or a whole string or literal. How far a
string or a literal goes is found ahead of the position, the position is then put on its last byte,
and one byte further the next turn begins. A closing bracket is matched by following links from the
newest token. `tokenizeInTurns` reads a text in this way.

What such a reader relies on is not taken for granted : a step back from offset 0 and a link that
does not lead back are mishaps of their own, other than the faults of a text. That every turn gets
on is what lets the reader end (`Lexer.position_lt_of_turn`).
-/

namespace ChatLink.Json

open ChatLink.Text

/-- Why a turn has no result. -/
inductive Halt where
  /-- The text has no token array. -/
  | fault (fault : LexFault)
  /-- There was a step back from offset 0. -/
  | underflow
  /-- A link was followed that does not lead to an earlier token. -/
  | astray
  deriving DecidableEq, Repr

/-! ## Looking ahead -/

/-- The offset after so many hexadecimal digits, which begin at the offset `i`. -/
def hexEnd (text : List UInt8) (i : Nat) : Nat → Except LexFault Nat
  | 0 => .ok i
  | left + 1 =>
    match text[i]? with
    | none => .error .truncated
    | some b => if isHex b then hexEnd text (i + 1) left else .error (.invalid i)

/-- The offset after an escape, from the offset `i` after its backslash. -/
def escapeEnd (text : List UInt8) (i : Nat) : Except LexFault Nat :=
  match text[i]? with
  | none => .error .truncated
  | some b =>
    if b = 0x75 then hexEnd text (i + 1) 4 -- the letter u
    else if isShortEscape b then .ok (i + 1)
    else .error (.invalid i)

theorem le_of_hexEnd {text : List UInt8} {i left stop : Nat} (h : hexEnd text i left = .ok stop) :
    i ≤ stop := by
  fun_induction hexEnd text i left with
  | case1 i => exact Nat.le_of_eq (Except.ok.inj h)
  | case3 i left b hb hx ih => exact Nat.le_of_succ_le (ih h)
  | case2 | case4 => cases h

theorem lt_of_escapeEnd {text : List UInt8} {i stop : Nat} (h : escapeEnd text i = .ok stop) :
    i < stop := by
  unfold escapeEnd at h
  split at h
  · cases h
  · split at h
    · exact le_of_hexEnd h
    · split at h
      · exact Nat.le_of_eq (Except.ok.inj h)
      · cases h

/-- The offset of the quote that ends a string, from the offset `i` in it. -/
def quoteFrom (text : List UInt8) (i : Nat) : Except LexFault Nat :=
  match hb : text[i]? with
  | none => .error .truncated
  | some b =>
    have := (List.getElem?_eq_some_iff.1 hb).1
    if b = 0x22 then .ok i
    else if b = 0x5c then
      match he : escapeEnd text (i + 1) with
      | .error fault => .error fault
      | .ok j =>
        have := lt_of_escapeEnd he
        quoteFrom text j
    else quoteFrom text (i + 1)
termination_by text.length - i

/-- The offset after a literal, from the offset `i` in it. -/
def literalEnd (text : List UInt8) (i : Nat) : Except LexFault Nat :=
  match hb : text[i]? with
  | none => .ok i
  | some b =>
    have := (List.getElem?_eq_some_iff.1 hb).1
    if endsPrimitive b then .ok i
    else if isPrintable b then literalEnd text (i + 1)
    else .error (.invalid i)
termination_by text.length - i

theorem le_of_quoteFrom {text : List UInt8} {i stop : Nat} (h : quoteFrom text i = .ok stop) :
    i ≤ stop := by
  fun_induction quoteFrom text i with
  | case2 i => exact Nat.le_of_eq (Except.ok.inj h)
  | case4 i j he hlt hb _ hq ih =>
    exact Nat.le_trans (Nat.le_of_succ_le (Nat.le_of_lt hlt)) (ih h)
  | case5 i b hb _ hq hs ih => exact Nat.le_of_succ_le (ih h)
  | case1 | case3 => cases h

theorem le_of_literalEnd {text : List UInt8} {i stop : Nat} (h : literalEnd text i = .ok stop) :
    i ≤ stop := by
  fun_induction literalEnd text i with
  | case1 i | case2 i => exact Nat.le_of_eq (Except.ok.inj h)
  | case3 i b hb _ he hp ih => exact Nat.le_of_succ_le (ih h)
  | case4 => cases h

/-- A byte that a literal can begin with belongs to it. -/
theorem endsPrimitive_of_sign {b : UInt8} (h : Sign.of b = .primitive) :
    endsPrimitive b = false ∧ isPrintable b = true := by
  have hall : ∀ n < 256, Sign.of (UInt8.ofNat n) = .primitive →
      endsPrimitive (UInt8.ofNat n) = false ∧ isPrintable (UInt8.ofNat n) = true := by
    decide +kernel
  have hb := hall b.toNat b.toNat_lt
  rw [UInt8.ofNat_toNat] at hb
  exact hb h

theorem literalEnd_eq {text : List UInt8} {i : Nat} {b : UInt8} (hb : text[i]? = some b)
    (hs : Sign.of b = .primitive) : literalEnd text i = literalEnd text (i + 1) := by
  obtain ⟨he, hp⟩ := endsPrimitive_of_sign hs
  rw [literalEnd.eq_def text i]
  split
  · next hnone => cases hb.symm.trans hnone
  · next b' hb' =>
    cases hb.symm.trans hb'
    rw [if_neg (by simp [he]), if_pos hp]

theorem lt_of_literalEnd {text : List UInt8} {i stop : Nat} {b : UInt8} (hb : text[i]? = some b)
    (hs : Sign.of b = .primitive) (h : literalEnd text i = .ok stop) : i < stop :=
  le_of_literalEnd (literalEnd_eq hb hs ▸ h)

/-- The number before, which 0 does not have. -/
def back? : Nat → Option Nat
  | 0 => none
  | n + 1 => some n

/-! ## Turns -/

namespace Lexer

/-- The first token that is not closed, on the way from a token to the one that it hangs from, and
so on. -/
def climb (tokens : Array Token) (i : Nat) : Except Halt (Option Nat) :=
  match tokens[i]? with
  | none => .ok none
  | some t =>
    if t.isUnclosed then .ok (some i)
    else
      match t.parent with
      | none => .ok none
      | some j => if j < i then climb tokens j else .error .astray
termination_by i

/-- A closing bracket ends the first container that is not closed on the way from the newest token,
which must be of its kind. -/
def closeClimbing (s : Lexer) (kind : Kind) : Except Halt Lexer :=
  match back? s.tokens.size with
  | none => .error (.fault (.invalid s.position))
  | some newest =>
    match climb s.tokens newest with
    | .error halt => .error halt
    | .ok none => .error (.fault (.invalid s.position))
    | .ok (some i) =>
      match s.tokens[i]? with
      | none => .error (.fault (.invalid s.position))
      | some t =>
        if t.kind = kind then
          let stop := s.position + 1
          .ok { s with
            tokens := s.tokens.modify i fun t => { t with stop := stop }
            anchor := t.parent
            opened := s.opened.erase i }
        else
          .error (.fault (.invalid s.position))

/-- What begins with the byte at the position is read, and the position is put on its last byte. -/
def act (capacity : Nat) (text : List UInt8) (s : Lexer) (b : UInt8) : Except Halt Lexer :=
  match Sign.of b with
  | .opening kind => (s.openContainer capacity kind).mapError .fault
  | .closing kind => s.closeClimbing kind
  | .quote => do
    let start := s.position + 1
    let stop ← (quoteFrom text start).mapError .fault
    let s ← (s.add capacity .string start stop).mapError .fault
    return { s with position := stop }
  | .colon => .ok s.awaitValue
  | .comma => .ok s.nextMember
  | .blank => .ok s
  | .primitive =>
    if s.takesValue then do
      let stop ← (literalEnd text s.position).mapError .fault
      let s ← (s.add capacity .primitive s.position stop).mapError .fault
      let some last := back? stop | .error .underflow
      return { s with position := last }
    else
      .error (.fault (.invalid s.position))
  | .other => .error (.fault (.invalid s.position))

/-- One turn. -/
def turn (capacity : Nat) (text : List UInt8) (s : Lexer) (b : UInt8) : Except Halt Lexer := do
  let s ← s.act capacity text b
  return { s with position := s.position + 1 }

section Position

variable {capacity : Nat} {text : List UInt8} {s s' : Lexer} {b : UInt8}

theorem eq_ok_of_mapError {α : Type} {x : Except LexFault α} {r : α}
    (h : x.mapError Halt.fault = .ok r) : x = .ok r := by
  cases x with
  | error fault => cases h
  | ok a =>
    cases h
    rfl

theorem exists_of_mapError_bind_eq_ok {α β : Type} {x : Except LexFault α}
    {f : α → Except Halt β} {r : β} (h : x.mapError Halt.fault >>= f = .ok r) :
    ∃ a, x = .ok a ∧ f a = .ok r := by
  cases x with
  | error fault => cases h
  | ok a => exact ⟨a, rfl, h⟩

/-- An opening bracket is read where the state is. -/
theorem stays_of_openContainer {kind : Kind} (h : s.openContainer capacity kind = .ok s') :
    s'.position = s.position ∧ s'.mode = s.mode := by
  unfold openContainer add at h
  split at h
  · split at h <;> cases h
    exact ⟨rfl, rfl⟩
  · cases h

theorem position_of_closeClimbing {kind : Kind} (h : s.closeClimbing kind = .ok s') :
    s'.position = s.position := by
  unfold closeClimbing at h
  repeat' split at h
  all_goals cases h
  rfl

theorem position_nextMember (s : Lexer) : s.nextMember.position = s.position := by
  unfold nextMember
  repeat' split
  all_goals rfl

/-- What a turn reads ends at the position or behind it. -/
theorem le_position_of_act (hb : text[s.position]? = some b)
    (h : s.act capacity text b = .ok s') : s.position ≤ s'.position := by
  unfold act at h
  split at h
  case h_1 kind hs =>
    exact Nat.le_of_eq (stays_of_openContainer (eq_ok_of_mapError h)).1.symm
  case h_2 kind hs => exact Nat.le_of_eq (position_of_closeClimbing h).symm
  case h_3 hs =>
    obtain ⟨stop, hq, h⟩ := exists_of_mapError_bind_eq_ok h
    obtain ⟨m, -, h⟩ := exists_of_mapError_bind_eq_ok h
    cases h
    exact Nat.le_of_succ_le (le_of_quoteFrom hq)
  case h_4 =>
    cases h
    exact Nat.le_refl _
  case h_5 =>
    cases h
    exact Nat.le_of_eq (position_nextMember s).symm
  case h_6 =>
    cases h
    exact Nat.le_refl _
  case h_7 hs =>
    split at h
    · obtain ⟨stop, hl, h⟩ := exists_of_mapError_bind_eq_ok h
      obtain ⟨m, -, h⟩ := exists_of_mapError_bind_eq_ok h
      have hlt := lt_of_literalEnd hb hs hl
      cases stop with
      | zero => cases hlt
      | succ last =>
        cases h
        exact Nat.le_of_lt_succ hlt
    · cases h
  case h_8 => cases h

/-- Every turn gets on. -/
theorem position_lt_of_turn (hb : text[s.position]? = some b)
    (h : s.turn capacity text b = .ok s') : s.position < s'.position := by
  unfold turn at h
  cases ha : s.act capacity text b with
  | error halt =>
    rw [ha] at h
    cases h
  | ok m =>
    rw [ha] at h
    cases h
    exact Nat.lt_succ_of_le (le_position_of_act hb ha)

end Position

/-- The tokens at the end of the text, turn by turn. -/
def turns (capacity : Nat) (text : List UInt8) (s : Lexer) : Except Halt (Array Token) :=
  match hb : text[s.position]? with
  | none => s.completeLinked.mapError .fault
  | some b =>
    match ht : s.turn capacity text b with
    | .error halt => .error halt
    | .ok s' =>
      have := (List.getElem?_eq_some_iff.1 hb).1
      have := position_lt_of_turn hb ht
      turns capacity text s'
termination_by text.length - s.position

end Lexer

/-- The tokens of a text, read in turns. -/
def tokenizeInTurns (capacity : Nat) (text : List UInt8) : Except Halt (Array Token) :=
  Lexer.initial.turns capacity text

end ChatLink.Json
