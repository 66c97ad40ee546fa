import ChatLink.Json.Cursor

/-!
# The indices on a walk

`Cursor.skip` and `Cursor.find?` tell where a walk over the tokens ends. `Cursor.skipTrail` and
`Cursor.findTrail` are the same walks, with the indices at which they stop to look and with every
index that is computed on the way, of tokens that may be missing too.
-/

namespace ChatLink.Json

/-- A walk over tokens. -/
structure Trail (α : Type) where
  result : α
  /-- The indices at which the walk stops to look, the first one first. -/
  visited : List Nat
  /-- The indices that are computed on the way. -/
  computed : List Nat
  deriving DecidableEq, Repr

namespace Trail

variable {α : Type}

/-- The walk ends where it begins. -/
def ended (i : Nat) (result : α) : Trail α := ⟨result, [i], []⟩

/-- The walk goes on from one more index, where these indices are computed. -/
def after (i : Nat) (computed : List Nat) (rest : Trail α) : Trail α :=
  ⟨rest.result, i :: rest.visited, computed ++ rest.computed⟩

@[simp] theorem result_ended (i : Nat) (result : α) : (ended i result).result = result := rfl

@[simp] theorem result_after (i : Nat) (computed : List Nat) (rest : Trail α) :
    (rest.after i computed).result = rest.result := rfl

end Trail

namespace Cursor

/-- The walk of `skipFrom`. -/
def skipFromTrail (c : Cursor) (boundary i : Nat) : Trail Nat :=
  if h : i < c.tokens.size then
    if c.tokens[i].start < boundary then
      (c.skipFromTrail (max boundary c.tokens[i].stop) (i + 1)).after i [i + 1]
    else .ended i i
  else .ended i i
termination_by c.tokens.size - i

/-- The walk of `skip`. -/
def skipTrail (c : Cursor) (i : Nat) : Trail Nat :=
  match c.tokens[i]? with
  | some t => (c.skipFromTrail t.stop (i + 1)).after i [i + 1]
  | none => .ended i c.tokens.size

theorem result_skipFromTrail (c : Cursor) (boundary i : Nat) :
    (c.skipFromTrail boundary i).result = c.skipFrom boundary i := by
  fun_induction c.skipFromTrail boundary i with
  | case1 boundary i h hs ih =>
    rw [Trail.result_after, ih, skipFrom.eq_def c boundary, dif_pos h, if_pos hs]
  | case2 boundary i h hs => rw [Trail.result_ended, skipFrom, dif_pos h, if_neg hs]
  | case3 boundary i h => rw [Trail.result_ended, skipFrom, dif_neg h]

theorem result_skipTrail (c : Cursor) (i : Nat) : (c.skipTrail i).result = c.skip i := by
  rw [skipTrail, skip]
  cases c.tokens[i]? with
  | some t => exact c.result_skipFromTrail t.stop (i + 1)
  | none => rfl

/-- The walk of `findFrom`. What is computed on the way past a value belongs to it. -/
def findFromTrail (c : Cursor) (limit : Nat) (key : List UInt8) (i : Nat) : Trail (Option Nat) :=
  if h : i < c.tokens.size then
    if c.tokens[i].start < limit then
      if c.isString i key && c.tokens[i + 1]?.any (·.start < limit) then
        ⟨some (i + 1), [i], [i + 1]⟩
      else
        have : i < (c.skipTrail (i + 1)).result := c.result_skipTrail _ ▸ c.lt_skip_succ h
        (c.findFromTrail limit key (c.skipTrail (i + 1)).result).after i
          ((i + 1) :: (c.skipTrail (i + 1)).computed)
    else .ended i none
  else .ended i none
termination_by c.tokens.size - i

/-- The walk of `find?`. -/
def findTrail (c : Cursor) (object : Nat) (key : String) : Trail (Option Nat) :=
  match c.tokens[object]? with
  | some t =>
    if t.kind = .object then
      (c.findFromTrail t.stop key.toUTF8.toList (object + 1)).after object [object + 1]
    else .ended object none
  | none => .ended object none

end Cursor

end ChatLink.Json
