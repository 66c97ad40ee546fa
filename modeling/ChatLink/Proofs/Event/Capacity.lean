import ChatLink.Proofs.Event.Decoding
import ChatLink.Proofs.Json.Capacity

/-!
# What capacity decides

Whether the tokens of a frame fit is found while they are hung, among all other checks, and still a
lack of capacity never hides behind another fault nor another fault behind it. There is a threshold
for every frame (`Frame.exists_isThreshold`) : below it there are too many tokens, whatever else may
be wrong with the frame, and from it on capacity makes no difference.

With more capacity the outcome is the same unless capacity was what was missing (`Agrees`), and an
accepted text is accepted with as much capacity as it has tokens (`tokenize_size`). Behind the
tokenizer nothing depends on capacity (`Frame.read_ne_tooManyTokens`).
-/

namespace ChatLink.Frame

open Json

/-- Below `n` a frame has too many tokens, and from `n` on capacity makes no difference. -/
structure IsThreshold (frame : List UInt8) (n : Nat) : Prop where
  tokenize_of_lt {capacity : Nat} (h : capacity < n) : tokenize capacity frame = .error .tooMany
  tokenize_of_le {capacity : Nat} (h : n ≤ capacity) : tokenize capacity frame = tokenize n frame
  tokenize_ne : tokenize n frame ≠ .error .tooMany
  /-- An accepted frame has as many tokens. -/
  size_eq {tokens : Array Token} (h : tokenize n frame = .ok tokens) : tokens.size = n
  decode_of_lt {capacity : Nat} (h : capacity < n) :
    decodeWithin capacity frame = .error (.tooManyTokens capacity)
  decode_of_le {capacity : Nat} (h : n ≤ capacity) :
    decodeWithin capacity frame = decodeWithin n frame
  decode_ne (capacity : Nat) : decodeWithin n frame ≠ .error (.tooManyTokens capacity)

/-- Only a lack of capacity is reported as such. -/
theorem decodeWithin_congr {capacity limit : Nat} {frame : List UInt8}
    (h : tokenize capacity frame = tokenize limit frame)
    (hne : tokenize limit frame ≠ .error .tooMany) :
    decodeWithin capacity frame = decodeWithin limit frame := by
  rw [decodeWithin, decodeWithin, h]
  cases ht : tokenize limit frame with
  | ok tokens => rfl
  | error fault =>
    cases fault with
    | tooMany => exact absurd ht hne
    | invalid | truncated => rfl

/-- Behind the tokenizer nothing depends on capacity. -/
theorem read_ne_tooManyTokens (c : Cursor) (capacity : Nat) :
    read c ≠ .error (.tooManyTokens capacity) := by
  intro h
  rw [read_eq] at h
  split at h
  · cases h
  · split at h
    · cases h
    · split at h
      · cases h
      · next data hdata =>
        rcases readData_cases c data with ⟨field, hread⟩ | ⟨room, user, text, hread⟩
        · rw [hread] at h
          cases h
        · rw [hread] at h
          cases h

/-- Every frame has a threshold. -/
theorem exists_isThreshold (frame : List UInt8) : ∃ n, IsThreshold frame n := by
  classical
  have hex : ∃ n, tokenize n frame ≠ .error .tooMany := ⟨frame.length, reading_ne_tooMany frame⟩
  have hne := Nat.find_spec hex
  have hmin : ∀ capacity < Nat.find hex, tokenize capacity frame = .error .tooMany :=
    fun capacity h => not_not.1 (Nat.find_min hex h)
  have heq : ∀ capacity, Nat.find hex ≤ capacity →
      tokenize capacity frame = tokenize (Nat.find hex) frame :=
    fun capacity h => (Lexer.agrees_tokenize h frame).resolve_left hne
  refine ⟨Nat.find hex, ?_⟩
  constructor
  case tokenize_of_lt => exact hmin _
  case tokenize_of_le => exact heq _
  case tokenize_ne => exact hne
  case size_eq =>
    intro tokens h
    refine Nat.le_antisymm (size_le_of_tokenize h) ?_
    by_contra hlt
    have htooMany := hmin tokens.size (by omega)
    rw [tokenize_size h] at htooMany
    cases htooMany
  case decode_of_lt =>
    intro capacity h
    rw [decodeWithin, hmin capacity h]
    rfl
  case decode_of_le => exact fun h => decodeWithin_congr (heq _ h) hne
  case decode_ne =>
    intro capacity
    rw [decodeWithin]
    cases ht : tokenize (Nat.find hex) frame with
    | ok tokens => exact read_ne_tooManyTokens _ capacity
    | error fault =>
      cases fault with
      | tooMany => exact absurd ht hne
      | invalid | truncated => simp [Fault.ofLex]

/-- In `[1}` two tokens come before the brace that is refused. -/
example : tokenize 1 [0x5b, 0x31, 0x7d] = .error .tooMany ∧
    tokenize 2 [0x5b, 0x31, 0x7d] = .error (.invalid 2) := by
  decide

end ChatLink.Frame
