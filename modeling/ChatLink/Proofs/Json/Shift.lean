import ChatLink.Proofs.Json.Refusal

/-!
# Values that stand further on

Where a value begins makes no difference to how it is read : with all offsets of a state moved on by
as many bytes, one byte does what it did before (`Lexer.step_shift`), and so does a run
(`Lexer.run_shift`).
-/

namespace ChatLink.Json

/-- The token, so many bytes further on. -/
def Token.shift (n : Nat) (t : Token) : Token :=
  { t with start := t.start + n, stop := t.stop + n }

/-- The same for the word that has begun. -/
def Mode.shift (n : Nat) : Mode → Mode
  | .between => .between
  | .string start => .string (start + n)
  | .escape start => .escape (start + n)
  | .digits start left => .digits (start + n) left
  | .primitive start => .primitive (start + n)

/-- The same for a fault. -/
def LexFault.shift (n : Nat) : LexFault → LexFault
  | .tooMany => .tooMany
  | .invalid offset => .invalid (offset + n)
  | .truncated => .truncated

namespace Lexer

/-- The state, so many bytes further on. -/
def shift (n : Nat) (s : Lexer) : Lexer where
  position := s.position + n
  tokens := s.tokens.map (·.shift n)
  anchor := s.anchor
  opened := s.opened
  mode := s.mode.shift n

/-- The outcome, so many bytes further on. -/
def shifted (n : Nat) : Except LexFault Lexer → Except LexFault Lexer
  | .ok s => .ok (s.shift n)
  | .error fault => .error (fault.shift n)

variable {capacity n : Nat} {s s' : Lexer}

theorem bind_shifted {x : Except LexFault Lexer} {f g : Lexer → Except LexFault Lexer}
    (h : ∀ s, g (s.shift n) = shifted n (f s)) : shifted n x >>= g = shifted n (x >>= f) := by
  cases x with
  | ok s => exact h s
  | error fault => rfl

theorem getElem?_shift (n : Nat) (s : Lexer) (i : Nat) :
    (s.shift n).tokens[i]? = s.tokens[i]?.map (·.shift n) := by
  simp [shift]

@[simp] theorem size_shift (n : Nat) (s : Lexer) : (s.shift n).tokens.size = s.tokens.size := by
  simp [shift]

theorem holder_shift (n : Nat) (s : Lexer) : (s.shift n).holder = s.holder.map (·.shift n) := by
  rw [holder, holder, Option.map_bind]
  show s.anchor.bind _ = _
  congr 1
  funext i
  exact getElem?_shift n s i

theorem takesValue_shift (n : Nat) (s : Lexer) : (s.shift n).takesValue = s.takesValue := by
  unfold takesValue
  rw [holder_shift]
  cases s.holder <;> rfl

theorem advance_shift (n : Nat) (s : Lexer) (mode : Mode) :
    (s.shift n).advance (mode.shift n) = (s.advance mode).shift n := by
  simp only [advance, shift, Nat.add_right_comm]

/-- A change of one token, and the same change further on. -/
theorem modify_shift (n : Nat) (tokens : Array Token) (i : Nat) {f g : Token → Token}
    (h : ∀ t, g (t.shift n) = (f t).shift n) :
    (tokens.map (·.shift n)).modify i g = (tokens.modify i f).map (·.shift n) := by
  refine Array.ext_getElem? fun j => ?_
  rw [Array.getElem?_map, Array.getElem?_modify, Array.getElem?_modify, Array.getElem?_map]
  split
  · rw [Option.map_map, Option.map_map]
    congr 1
    funext t
    exact h t
  · rfl

theorem hung_shift (n : Nat) (s : Lexer) (kind : Kind) (start stop : Nat) :
    (s.shift n).hung kind (start + n) (stop + n) = (s.hung kind start stop).map (·.shift n) := by
  have hpush : (s.shift n).tokens.push ⟨kind, start + n, stop + n, 0, s.anchor⟩ =
      (s.tokens.push ⟨kind, start, stop, 0, s.anchor⟩).map (·.shift n) := by
    rw [Array.map_push]
    rfl
  show countBelow ((s.shift n).tokens.push ⟨kind, start + n, stop + n, 0, s.anchor⟩) s.anchor = _
  rw [hpush]
  unfold hung countBelow
  cases s.anchor with
  | none => rfl
  | some i => exact modify_shift n _ i fun t => rfl

theorem add_shift (n : Nat) (s : Lexer) (kind : Kind) (start stop : Nat) :
    (s.shift n).add capacity kind (start + n) (stop + n) =
      shifted n (s.add capacity kind start stop) := by
  by_cases hc : s.tokens.size < capacity
  · rw [add_eq hc, add_eq (by rwa [size_shift]), hung_shift]
    rfl
  · rw [add, add, size_shift, if_neg hc, if_neg hc]
    rfl

/-! ## One byte, further on -/

theorem openContainer_shift (n : Nat) (s : Lexer) (kind : Kind) :
    (s.shift n).openContainer capacity kind = shifted n (s.openContainer capacity kind) := by
  unfold openContainer
  rw [takesValue_shift]
  split
  · rw [size_shift]
    show (s.shift n).add capacity kind (s.position + n) (s.position + n) >>= _ = _
    rw [add_shift]
    exact bind_shifted fun m => rfl
  · rfl

theorem closeContainer_shift (n : Nat) (s : Lexer) (kind : Kind) :
    (s.shift n).closeContainer kind = shifted n (s.closeContainer kind) := by
  unfold closeContainer
  rw [show (s.shift n).opened = s.opened from rfl]
  cases s.opened with
  | nil => rfl
  | cons i outer =>
    dsimp only
    rw [getElem?_shift]
    cases s.tokens[i]? with
    | none => rfl
    | some t =>
      dsimp only [Option.map_some]
      by_cases hk : t.kind = kind
      · rw [if_pos hk, if_pos (show (t.shift n).kind = kind from hk)]
        have hstop := modify_shift n s.tokens i
          (f := fun t => { t with stop := s.position + 1 })
          (g := fun t => { t with stop := s.position + n + 1 })
          fun t => by simp only [Token.shift, Nat.add_right_comm]
        simp only [shifted, shift, hstop]
        rfl
      · rw [if_neg hk, if_neg (show (t.shift n).kind ≠ kind from hk)]
        rfl

theorem awaitValue_shift (n : Nat) (s : Lexer) :
    (s.shift n).awaitValue = s.awaitValue.shift n := by
  have hempty : (s.shift n).tokens.isEmpty = s.tokens.isEmpty := by
    rw [Array.isEmpty, Array.isEmpty, size_shift]
  rw [awaitValue, hempty, size_shift]
  rfl

theorem nextMember_shift (n : Nat) (s : Lexer) :
    (s.shift n).nextMember = s.nextMember.shift n := by
  unfold nextMember
  rw [holder_shift]
  cases s.holder with
  | none => rfl
  | some t =>
    dsimp only [Option.map_some, Token.shift]
    split <;> rfl

theorem stepBetween_shift (n : Nat) (s : Lexer) (b : UInt8) :
    (s.shift n).stepBetween capacity b = shifted n (s.stepBetween capacity b) := by
  unfold stepBetween
  split
  case h_1 kind hb =>
    rw [openContainer_shift]
    exact bind_shifted fun m => congrArg Except.ok (advance_shift n m .between)
  case h_2 kind hb =>
    rw [closeContainer_shift]
    exact bind_shifted fun m => congrArg Except.ok (advance_shift n m .between)
  case h_3 =>
    refine congrArg Except.ok ?_
    simp only [advance, shift, Mode.shift, Nat.add_right_comm]
  case h_4 =>
    rw [awaitValue_shift]
    exact congrArg Except.ok (advance_shift n _ .between)
  case h_5 =>
    rw [nextMember_shift]
    exact congrArg Except.ok (advance_shift n _ .between)
  case h_6 => exact congrArg Except.ok (advance_shift n s .between)
  case h_7 =>
    rw [takesValue_shift]
    split
    · exact congrArg Except.ok (advance_shift n s (.primitive s.position))
    · rfl
  case h_8 => rfl

theorem endPrimitive_shift (n : Nat) (s : Lexer) (start : Nat) :
    (s.shift n).endPrimitive capacity (start + n) = shifted n (s.endPrimitive capacity start) := by
  unfold endPrimitive
  show (s.shift n).add capacity .primitive (start + n) (s.position + n) >>= _ = _
  rw [add_shift]
  exact bind_shifted fun m => rfl

theorem step_shift (n : Nat) (s : Lexer) (b : UInt8) :
    (s.shift n).step capacity b = shifted n (s.step capacity b) := by
  unfold step
  rw [show (s.shift n).mode = s.mode.shift n from rfl]
  cases hm : s.mode with
  | between => exact stepBetween_shift n s b
  | string start =>
    dsimp only [Mode.shift]
    split
    · show (s.shift n).add capacity .string (start + n) (s.position + n) >>= _ = _
      rw [add_shift]
      exact bind_shifted fun m => congrArg Except.ok (advance_shift n m .between)
    · split
      · exact congrArg Except.ok (advance_shift n s (.escape start))
      · exact congrArg Except.ok (advance_shift n s (.string start))
  | escape start =>
    dsimp only [Mode.shift]
    split
    · exact congrArg Except.ok (advance_shift n s (.digits start 4))
    · split
      · exact congrArg Except.ok (advance_shift n s (.string start))
      · rfl
  | digits start left =>
    dsimp only [Mode.shift]
    split
    · split
      · exact congrArg Except.ok (advance_shift n s (.string start))
      · exact congrArg Except.ok (advance_shift n s (.digits start (left - 1)))
    · rfl
  | primitive start =>
    dsimp only [Mode.shift]
    split
    · rw [endPrimitive_shift]
      exact bind_shifted fun m => stepBetween_shift n m b
    · split
      · exact congrArg Except.ok (advance_shift n s (.primitive start))
      · rfl

theorem run_shift (n : Nat) (s : Lexer) (text : List UInt8) :
    (s.shift n).run capacity text = shifted n (s.run capacity text) := by
  induction text generalizing s with
  | nil => rfl
  | cons b text ih =>
    rw [run, run, List.foldlM_cons, List.foldlM_cons, step_shift]
    exact bind_shifted ih

end Lexer

end ChatLink.Json
