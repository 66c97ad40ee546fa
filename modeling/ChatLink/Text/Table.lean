/-!
# Tables of characters

A property that characters have or have not is given by its *boundaries* in increasing order : the
numbers at which it begins or ends to hold, the first of which is a beginning. A property with
values is given by its *runs* : the number where a run of characters with one value begins, and the
value. Both are searched by halves.
-/

namespace ChatLink.Text

/-- How many of the increasing numbers `start 0`, `start 1`, … are at most `n`, if those before
`low` are and those from `high` on are not. -/
def countUpTo (start : Nat → Nat) (n low high : Nat) : Nat :=
  if h : low < high then
    let middle := (low + high) / 2
    if start middle ≤ n then countUpTo start n (middle + 1) high
    else countUpTo start n low middle
  else low
termination_by high - low

/-- Whether `n` has the property with these boundaries. -/
def isWithin (boundaries : Array Nat) (n : Nat) : Bool :=
  countUpTo (boundaries.getD · 0) n 0 boundaries.size % 2 == 1

/-- The value of the run that `n` lies in, or `before` if `n` comes before all runs. -/
def valueAt {α : Type} (runs : Array (Nat × α)) (before : α) (n : Nat) : α :=
  match countUpTo (fun i => (runs.getD i (0, before)).1) n 0 runs.size with
  | 0 => before
  | k + 1 => (runs.getD k (0, before)).2

end ChatLink.Text
