import ChatLink.Json.Lexer
import ChatLink.Proofs.Json.Span
import Mathlib.Data.FinEnum

/-!
# The tokens of a well-formed text

`tokenize` gives for the text of a document the nodes of its tree in document order
(`tokenize_bytes`), if the capacity allows for all of them, and else runs out of room.

The run is followed with more text behind (`Lexer.result`), since a number ends only where other
text begins. What a value does to the state is `Lexer.hang` : its nodes are appended, the token from
which it hangs counts one more below it, and the anchor is what it was. `hang` after `hang` is
`hang` of both (`Lexer.hang_hang`), so the elements of an array, and the members of an object, add
up from left to right under an anchor that each of them leaves in place.
-/

namespace ChatLink.Json

open ChatLink.Text

/-! ## Bytes by class -/

theorem sign_of_isBlank {b : UInt8} (h : IsBlank b) : Sign.of b = .blank := by
  rcases h with rfl | rfl | rfl | rfl <;> rfl

theorem endsPrimitive_of_isBlank {b : UInt8} (h : IsBlank b) : endsPrimitive b := by
  rcases h with rfl | rfl | rfl | rfl <;> rfl

theorem isShortEscape_of_mem : ∀ e : UInt8,
    e ∈ [0x22, 0x5c, 0x2f, 0x62, 0x66, 0x6e, 0x72, 0x74] → isShortEscape e ∧ e ≠ 0x75 := by
  decide +kernel

/-- The bytes of numbers and names do not end them. -/
def goesOn (b : UInt8) : Bool := isPrintable b && !endsPrimitive b

theorem sign_of_isDigit : ∀ b : UInt8, isDigit b → Sign.of b = .primitive ∧ goesOn b := by
  decide +kernel

theorem IsDigits.goesOn {ds : List UInt8} (h : IsDigits ds) : ∀ b ∈ ds, goesOn b :=
  fun b hb => (sign_of_isDigit b (h.2 b hb)).2

theorem IsFraction.goesOn {l : List UInt8} (h : IsFraction l) : ∀ b ∈ l, goesOn b := by
  rcases h with rfl | ⟨ds, hds, rfl⟩
  · simp
  · exact List.forall_mem_cons.2 ⟨rfl, hds.goesOn⟩

theorem IsExponent.goesOn {l : List UInt8} (h : IsExponent l) : ∀ b ∈ l, goesOn b := by
  rcases h with rfl | ⟨e, sign, ds, he, hs, hds, rfl⟩
  · simp
  · refine List.forall_mem_cons.2 ⟨by rcases he with rfl | rfl <;> rfl, ?_⟩
    refine List.forall_mem_append.2 ⟨?_, hds.goesOn⟩
    rcases hs with rfl | rfl | rfl <;> decide +kernel

/-- A literal has a first byte that tells it, and no byte that ends it. -/
theorem IsLiteral.lexes {l : List UInt8} (h : IsLiteral l) :
    ∃ b rest, l = b :: rest ∧ Sign.of b = .primitive ∧ ∀ b ∈ rest, Json.goesOn b := by
  cases h with
  | true => exact ⟨_, _, rfl, rfl, by decide +kernel⟩
  | false => exact ⟨_, _, rfl, rfl, by decide +kernel⟩
  | null => exact ⟨_, _, rfl, rfl, by decide +kernel⟩
  | @number minus whole fraction exponent hm hw hf he =>
    have hall : ∀ b ∈ whole ++ fraction ++ exponent, Json.goesOn b :=
      List.forall_mem_append.2 ⟨List.forall_mem_append.2 ⟨hw.1.goesOn, hf.goesOn⟩, he.goesOn⟩
    rcases hm with rfl | rfl
    · obtain ⟨d, ds, rfl⟩ := List.exists_cons_of_ne_nil hw.1.1
      exact ⟨d, ds ++ fraction ++ exponent, rfl, (sign_of_isDigit d (hw.1.2 d (by simp))).1,
        (List.forall_mem_cons.1 hall).2⟩
    · exact ⟨0x2d, whole ++ fraction ++ exponent, by simp, rfl, hall⟩

/-! ## Counting below the anchor -/

/-- Counts `n` more tokens below the one at the anchor. -/
def growBelow (tokens : Array Token) (anchor : Option Nat) (n : Nat) : Array Token :=
  match anchor with
  | none => tokens
  | some i => tokens.modify i fun t => { t with size := t.size + n }

@[simp] theorem size_growBelow (tokens : Array Token) (anchor : Option Nat) (n : Nat) :
    (growBelow tokens anchor n).size = tokens.size := by
  cases anchor <;> simp [growBelow]

theorem growBelow_zero (tokens : Array Token) (anchor : Option Nat) :
    growBelow tokens anchor 0 = tokens := by
  cases anchor with
  | none => rfl
  | some i => apply Array.ext <;> simp [growBelow, Array.getElem_modify]

theorem growBelow_growBelow (tokens : Array Token) (anchor : Option Nat) (m n : Nat) :
    growBelow (growBelow tokens anchor m) anchor n = growBelow tokens anchor (m + n) := by
  cases anchor with
  | none => rfl
  | some i =>
    apply Array.ext
    · simp [growBelow]
    · intro j h₁ h₂
      simp only [growBelow, Array.getElem_modify]
      split <;> simp [Nat.add_assoc]

theorem growBelow_append {tokens : Array Token} {anchor : Option Nat}
    (h : ∀ i ∈ anchor, i < tokens.size) (more : Array Token) (n : Nat) :
    growBelow (tokens ++ more) anchor n = growBelow tokens anchor n ++ more := by
  cases anchor with
  | none => rfl
  | some i =>
    have hi : i < tokens.size := h i rfl
    apply Array.ext
    · simp [growBelow]
    · intro j h₁ h₂
      simp only [growBelow, Array.getElem_modify, Array.getElem_append, Array.size_modify]
      by_cases hj : j < tokens.size
      · simp [hj]
      · have hne : i ≠ j := by omega
        simp [hj, hne]

theorem modify_append_cons (tokens : Array Token) (t : Token) (more : List Token)
    (f : Token → Token) :
    (tokens ++ (t :: more).toArray).modify tokens.size f = tokens ++ (f t :: more).toArray := by
  apply Array.ext'
  simp only [Array.toList_modify, Array.toList_append]
  exact List.modifyTailIdx_add (List.modifyHead f) 0 tokens.toList (t :: more)

/-- What hangs from a new token is counted there. -/
theorem growBelow_new (tokens : Array Token) (anchor : Option Nat) (t : Token)
    (more : List Token) (n : Nat) :
    growBelow (growBelow tokens anchor 1 ++ [t].toArray) (some tokens.size) n ++ more.toArray =
      growBelow tokens anchor 1 ++ ({ t with size := t.size + n } :: more).toArray := by
  have hm := modify_append_cons (growBelow tokens anchor 1) t []
    fun t => { t with size := t.size + n }
  rw [size_growBelow] at hm
  rw [growBelow.eq_2, hm, Array.append_assoc]
  simp

namespace Lexer

variable {capacity : Nat} {s : Lexer}

/-! ## Runs with more text behind -/

/-- What comes of a text from here on. -/
def result (capacity : Nat) (s : Lexer) (bytes : List UInt8) : Except LexFault (Array Token) := do
  (← s.run capacity bytes).finish capacity

theorem result_cons (b : UInt8) (rest : List UInt8) :
    s.result capacity (b :: rest) = (s.step capacity b).bind (·.result capacity rest) := by
  simp only [result, run, List.foldlM_cons, bind_assoc]
  rfl

theorem result_of_step {s' : Lexer} {b : UInt8} (h : s.step capacity b = .ok s')
    (rest : List UInt8) : s.result capacity (b :: rest) = s'.result capacity rest := by
  rw [result_cons, h]
  rfl

/-- So many bytes further. -/
def moved (s : Lexer) (n : Nat) : Lexer := { s with position := s.position + n }

/-- A value that hangs from the anchor has been read : so many bytes further, `n` more tokens below
the anchor, and these nodes appended. -/
def hang (s : Lexer) (length n : Nat) (nodes : List Token) : Lexer :=
  { s with
    position := s.position + length
    tokens := growBelow s.tokens s.anchor n ++ nodes.toArray }

/-- The anchor is a token. -/
def Anchored (s : Lexer) : Prop := ∀ i ∈ s.anchor, i < s.tokens.size

theorem hang_hang (h : s.Anchored) (l₁ l₂ n₁ n₂ : Nat) (ts₁ ts₂ : List Token) :
    (s.hang l₁ n₁ ts₁).hang l₂ n₂ ts₂ = s.hang (l₁ + l₂) (n₁ + n₂) (ts₁ ++ ts₂) := by
  have hs : ∀ i ∈ s.anchor, i < (growBelow s.tokens s.anchor n₁).size := by
    simpa [Anchored] using h
  simp [hang, growBelow_append hs, growBelow_growBelow, Nat.add_assoc, Array.append_assoc]

/-! ## Blanks, strings and literals -/

theorem step_between (h : s.mode = .between) (b : UInt8) :
    s.step capacity b = s.stepBetween capacity b := by
  simp [step, h]

theorem result_blanks (h : s.mode = .between) {bs : List UInt8} (hb : ∀ b ∈ bs, IsBlank b)
    (rest : List UInt8) :
    s.result capacity (bs ++ rest) = (s.moved bs.length).result capacity rest := by
  induction bs generalizing s with
  | nil => rfl
  | cons b bs ih =>
    have hs : s.step capacity b = .ok (s.moved 1) := by
      rw [step_between h, stepBetween, sign_of_isBlank (hb b (by simp))]
      simp [advance, moved, ← h]
    rw [List.cons_append, result_of_step hs, ih (s := s.moved 1) h fun b h => hb b (by simp [h])]
    simp [moved, Nat.add_assoc, Nat.add_comm 1]

/-- Inside a string, its body is passed over. -/
theorem result_body {start : Nat} (h : s.mode = .string start) {body : List UInt8}
    (hb : IsBody body) (rest : List UInt8) :
    s.result capacity (body ++ rest) = (s.moved body.length).result capacity rest := by
  obtain ⟨p, ts, anchor, opened, mode⟩ := s
  obtain rfl : mode = .string start := h
  induction hb generalizing p with
  | nil => rfl
  | plain hq hs _ ih =>
    rw [List.cons_append, result_of_step (by simp only [step, if_neg hq, if_neg hs]; rfl)]
    exact (ih (p + 1)).trans (by simp [moved, Nat.add_assoc, Nat.add_comm 1])
  | short he _ ih =>
    obtain ⟨he, hu⟩ := isShortEscape_of_mem _ he
    rw [List.cons_append, List.cons_append, result_of_step rfl,
      result_of_step (by simp only [step, advance, if_neg hu, if_pos he]; rfl)]
    exact (ih (p + 1 + 1)).trans (by simp [moved]; grind)
  | unicode ha hb hc hd _ ih =>
    simp only [List.cons_append]
    rw [result_of_step rfl, result_of_step rfl,
      result_of_step (by simp only [step, advance, if_pos ha]; rfl),
      result_of_step (by simp only [step, advance, if_pos hb]; rfl),
      result_of_step (by simp only [step, advance, if_pos hc]; rfl),
      result_of_step (by simp only [step, advance, if_pos hd]; rfl)]
    exact (ih (p + 1 + 1 + 1 + 1 + 1 + 1)).trans (by simp [moved]; grind)

/-- A new node where there is room. -/
theorem add_of_lt (hc : s.tokens.size < capacity) (ha : s.Anchored) (kind : Kind)
    (start stop : Nat) :
    s.add capacity kind start stop = .ok (s.hang 0 1 [⟨kind, start, stop, 0, s.anchor⟩]) := by
  have hb : ∀ (ts : Array Token) (a : Option Nat), countBelow ts a = growBelow ts a 1 := by
    rintro ts (_ | i) <;> rfl
  simp only [add, hang, if_pos hc, hb]
  rw [← Array.append_singleton, growBelow_append ha]
  rfl

theorem add_of_not_lt (hc : ¬s.tokens.size < capacity) (kind : Kind) (start stop : Nat) :
    s.add capacity kind start stop = .error .tooMany :=
  if_neg hc

/-- A string is one node. -/
theorem result_string (h : s.mode = .between) (ha : s.Anchored) (body : Body)
    (rest : List UInt8) :
    s.result capacity (0x22 :: (body.bytes ++ 0x22 :: rest)) =
      if s.tokens.size < capacity then
        (s.hang (body.bytes.length + 2) 1 [⟨.string, s.position + 1,
          s.position + 1 + body.bytes.length, 0, s.anchor⟩]).result capacity rest
      else .error .tooMany := by
  have hq : s.step capacity 0x22 = .ok (s.advance (.string (s.position + 1))) :=
    step_between h _
  rw [result_of_step hq, result_body (by rfl) body.valid, result_cons]
  have hs : ∀ t : Lexer, t = (s.advance (.string (s.position + 1))).moved body.bytes.length →
      t.step capacity 0x22 = (t.add capacity .string (s.position + 1) t.position).bind
        fun t => .ok (t.advance .between) := by
    rintro t rfl
    rfl
  rw [hs _ rfl]
  split
  · next hc =>
    rw [add_of_lt (by exact hc) (by exact ha)]
    simp only [Except.bind, hang, moved, advance, h]
    congr 2
    omega
  · next hc =>
    rw [add_of_not_lt (by exact hc)]
    rfl

/-- The text goes on with a byte that ends a literal, or not at all. -/
def Stops (rest : List UInt8) : Prop := ∀ b ∈ rest.head?, endsPrimitive b

theorem stops_cons {b : UInt8} (h : endsPrimitive b) (rest : List UInt8) : Stops (b :: rest) := by
  simpa [Stops] using h

theorem stops_blanks {bs : List UInt8} (hb : ∀ b ∈ bs, IsBlank b) {rest : List UInt8}
    (h : Stops rest) : Stops (bs ++ rest) := by
  cases bs with
  | nil => exact h
  | cons b bs => exact stops_cons (endsPrimitive_of_isBlank (hb b (by simp))) _

/-- Inside a literal, its bytes are passed over. -/
theorem result_goesOn {start : Nat} (h : s.mode = .primitive start) {bs : List UInt8}
    (hb : ∀ b ∈ bs, goesOn b) (rest : List UInt8) :
    s.result capacity (bs ++ rest) = (s.moved bs.length).result capacity rest := by
  induction bs generalizing s with
  | nil => rfl
  | cons b bs ih =>
    obtain ⟨hp, he⟩ : isPrintable b = true ∧ endsPrimitive b = false := by
      simpa [goesOn] using hb b (by simp)
    have hs : s.step capacity b = .ok (s.moved 1) := by
      simp only [step, h, he, hp, if_true, Bool.false_eq_true, if_false]
      simp only [advance, moved, h]
    rw [List.cons_append, result_of_step hs, ih (s := s.moved 1) h fun b h => hb b (by simp [h])]
    simp [moved, Nat.add_assoc, Nat.add_comm 1]

/-- A literal is one node as soon as the text does not go on with it. -/
theorem result_endPrimitive {start : Nat} (h : s.mode = .primitive start) {rest : List UInt8}
    (hr : Stops rest) :
    s.result capacity rest =
      (s.endPrimitive capacity start).bind (·.result capacity rest) := by
  cases rest with
  | nil =>
    have hf : s.result capacity [] = (s.endPrimitive capacity start).bind (·.complete) := by
      simp only [result, run, List.foldlM_nil, pure_bind, finish, h]
      rfl
    rw [hf, endPrimitive]
    cases s.add capacity .primitive start s.position <;> rfl
  | cons b rest =>
    have hb : endsPrimitive b := hr b rfl
    rw [result_cons]
    simp only [step, h, hb, if_true, endPrimitive]
    cases s.add capacity .primitive start s.position with
    | error fault => rfl
    | ok t => exact (result_cons (s := { t with mode := .between }) b rest).symm

/-- A literal is one node. -/
theorem result_literal (h : s.mode = .between) (ha : s.Anchored) (ht : s.takesValue)
    (literal : Literal) {rest : List UInt8} (hr : Stops rest) :
    s.result capacity (literal.bytes ++ rest) =
      if s.tokens.size < capacity then
        (s.hang literal.bytes.length 1 [⟨.primitive, s.position,
          s.position + literal.bytes.length, 0, s.anchor⟩]).result capacity rest
      else .error .tooMany := by
  obtain ⟨b, bs, hl, hsign, hbs⟩ := literal.valid.lexes
  have hs : s.step capacity b = .ok (s.advance (.primitive s.position)) := by
    rw [step_between h, stepBetween, hsign]
    exact if_pos ht
  rw [hl, List.cons_append, result_of_step hs, result_goesOn (by rfl) hbs,
    result_endPrimitive (by rfl) hr, endPrimitive]
  split
  · next hc =>
    rw [add_of_lt (by exact hc) (by exact ha)]
    have hl : s.position + 1 + bs.length = s.position + (b :: bs).length := by
      rw [List.length_cons]; omega
    simp only [moved, advance, hang, hl, h]
    rfl
  · next hc =>
    rw [add_of_not_lt (by exact hc)]
    rfl

/-! ## Separators and brackets -/

/-- The next token hangs from the one at `i`. -/
def under (s : Lexer) (i : Nat) : Lexer := { s with anchor := some i }

@[simp] theorem position_moved (s : Lexer) (n : Nat) : (s.moved n).position = s.position + n := rfl

@[simp] theorem tokens_moved (s : Lexer) (n : Nat) : (s.moved n).tokens = s.tokens := rfl

theorem position_hang (s : Lexer) (l n : Nat) (ts : List Token) :
    (s.hang l n ts).position = s.position + l := rfl

@[simp] theorem anchor_moved (s : Lexer) (n : Nat) : (s.moved n).anchor = s.anchor := rfl

theorem moved_hang (s : Lexer) (m l n : Nat) (ts : List Token) :
    (s.moved m).hang l n ts = s.hang (m + l) n ts := by
  simp [moved, hang, Nat.add_assoc]

theorem hang_moved (s : Lexer) (l n m : Nat) (ts : List Token) :
    (s.hang l n ts).moved m = s.hang (l + m) n ts := by
  simp [moved, hang, Nat.add_assoc]

/-- What hangs from a new node is counted there. -/
theorem hang_under (s : Lexer) (l₁ l₂ n : Nat) (t : Token) (ts : List Token) :
    ((s.hang l₁ 1 [t]).under s.tokens.size).hang l₂ n ts =
      (s.hang (l₁ + l₂) 1 ({ t with size := t.size + n } :: ts)).under s.tokens.size := by
  simp only [hang, under, growBelow_new, Nat.add_assoc]

theorem result_comma (h : s.mode = .between) (rest : List UInt8) :
    s.result capacity (0x2c :: rest) = (s.nextMember.moved 1).result capacity rest := by
  have hm : s.nextMember.mode = .between := by
    unfold nextMember
    split
    · split <;> exact h
    · exact h
  have hs : s.step capacity 0x2c = .ok (s.nextMember.advance .between) := step_between h _
  rw [result_of_step hs, advance, moved, ← hm]

theorem result_colon (h : s.mode = .between) (hs : 0 < s.tokens.size) (rest : List UInt8) :
    s.result capacity (0x3a :: rest) =
      ((s.under (s.tokens.size - 1)).moved 1).result capacity rest := by
  have ha : s.awaitValue.advance .between = (s.under (s.tokens.size - 1)).moved 1 := by
    have : s.tokens.isEmpty = false := by simpa using Array.size_pos_iff.1 hs
    simp [awaitValue, advance, moved, under, this, h]
  have hc : s.step capacity 0x3a = .ok (s.awaitValue.advance .between) := step_between h _
  rw [result_of_step hc, ha]

/-- An opening bracket has been read : a container without contents, from which the next token
hangs. -/
def entered (s : Lexer) (kind : Kind) : Lexer :=
  { s with
    position := s.position + 1
    tokens := growBelow s.tokens s.anchor 1 ++ [⟨kind, s.position, s.position, 0, s.anchor⟩].toArray
    anchor := some s.tokens.size
    opened := s.tokens.size :: s.opened }

theorem result_opening (h : s.mode = .between) (ha : s.Anchored) (ht : s.takesValue) {b : UInt8}
    {kind : Kind} (hb : Sign.of b = .opening kind) (rest : List UInt8) :
    s.result capacity (b :: rest) =
      if s.tokens.size < capacity then (s.entered kind).result capacity rest
      else .error .tooMany := by
  rw [result_cons, step_between h, stepBetween, hb]
  simp only [openContainer, if_pos ht]
  split
  · next hc =>
    rw [add_of_lt hc ha]
    simp only [entered, hang, h]
    rfl
  · next hc =>
    rw [add_of_not_lt hc]
    rfl

theorem result_closing (h : s.mode = .between) {b : UInt8} {kind : Kind}
    (hb : Sign.of b = .closing kind) {i : Nat} {outer : List Nat} (ho : s.opened = i :: outer)
    {t : Token} (ht : s.tokens[i]? = some t) (hk : t.kind = kind) (rest : List UInt8) :
    s.result capacity (b :: rest) =
      result capacity ⟨s.position + 1, s.tokens.modify i fun t => { t with stop := s.position + 1 },
        t.parent, outer, .between⟩ rest := by
  refine result_of_step ?_ rest
  rw [step_between h, stepBetween, hb]
  simp only [closeContainer, ho, ht, if_pos hk]
  rfl

/-- A closing bracket takes no notice of the anchor. -/
theorem result_under_closing (h : s.mode = .between) {b : UInt8} {kind : Kind}
    (hb : Sign.of b = .closing kind) (i : Nat) (rest : List UInt8) :
    (s.under i).result capacity (b :: rest) = s.result capacity (b :: rest) := by
  rw [result_cons, result_cons, step_between h, step_between (s := s.under i) h]
  simp only [stepBetween, hb]
  simp only [closeContainer, under]

/-- A container is one node with its contents behind it, if what stands between its brackets hangs
from it. -/
theorem result_container (h : s.mode = .between) (ha : s.Anchored) (ht : s.takesValue)
    {b e : UInt8} {kind : Kind} (hb : Sign.of b = .opening kind) (he : Sign.of e = .closing kind)
    {inner rest : List UInt8} {m n : Nat} {ts : List Token}
    (hin : s.tokens.size < capacity → (s.entered kind).result capacity (inner ++ e :: rest) =
      if s.tokens.size + 1 + m ≤ capacity then
        ((s.entered kind).hang inner.length n ts).result capacity (e :: rest)
      else .error .tooMany) :
    s.result capacity (b :: (inner ++ e :: rest)) =
      if s.tokens.size + (1 + m) ≤ capacity then
        (s.hang (inner.length + 2) 1 (⟨kind, s.position, s.position + (inner.length + 2), n,
          s.anchor⟩ :: ts)).result capacity rest
      else .error .tooMany := by
  rw [result_opening h ha ht hb]
  by_cases hc : s.tokens.size < capacity
  · rw [if_pos hc, hin hc, Nat.add_assoc]
    split
    · have hl : s.position + 1 + inner.length + 1 = s.position + (inner.length + 2) := by omega
      have hm := modify_append_cons (growBelow s.tokens s.anchor 1)
        ⟨kind, s.position, s.position, n, s.anchor⟩ ts
        fun t => { t with stop := s.position + (inner.length + 2) }
      rw [size_growBelow] at hm
      simp only [entered, hang, growBelow_new, Nat.zero_add]
      rw [result_closing (t := ⟨kind, s.position, s.position, n, s.anchor⟩) (by exact h) he rfl
        (by simp) rfl]
      simp only [hl, hm, h]
    · rfl
  · rw [if_neg hc, if_neg (by omega)]

/-! ## Values -/

theorem size_hang (s : Lexer) (l n : Nat) (ts : List Token) :
    (s.hang l n ts).tokens.size = s.tokens.size + ts.length := by
  simp [hang]

theorem kind_hang {i : Nat} (hi : i < s.tokens.size) (l n : Nat) (ts : List Token) :
    (s.hang l n ts).tokens[i]?.map (·.kind) = s.tokens[i]?.map (·.kind) := by
  have hg : i < (growBelow s.tokens s.anchor n).size := by simpa using hi
  rw [hang, Array.getElem?_append_left hg]
  cases s.anchor with
  | none => rfl
  | some j =>
    simp only [growBelow, Array.getElem?_modify]
    split
    · simp [Option.map_map, Function.comp_def]
    · rfl

/-- The next token hangs from the container of this kind at `i`. -/
def Within (s : Lexer) (kind : Kind) (i : Nat) : Prop :=
  s.mode = .between ∧ s.anchor = some i ∧ s.tokens[i]?.map (·.kind) = some kind

theorem within_entered (h : s.mode = .between) (kind : Kind) :
    (s.entered kind).Within kind s.tokens.size := by
  refine ⟨h, rfl, ?_⟩
  rw [entered, Array.getElem?_append_right (by simp)]
  simp

namespace Within

variable {kind : Kind} {i : Nat}

theorem holder (h : s.Within kind i) : ∃ t, s.holder = some t ∧ t.kind = kind := by
  obtain ⟨t, ht, hk⟩ := Option.map_eq_some_iff.1 h.2.2
  exact ⟨t, by simp [Lexer.holder, h.2.1, ht], hk⟩

theorem lt (h : s.Within kind i) : i < s.tokens.size := by
  obtain ⟨t, ht, -⟩ := Option.map_eq_some_iff.1 h.2.2
  exact (Array.getElem?_eq_some_iff.1 ht).1

theorem anchored (h : s.Within kind i) : s.Anchored := by
  intro j hj
  rw [h.2.1] at hj
  exact Option.some.inj hj ▸ h.lt

theorem takesValue (h : s.Within .array i) : s.takesValue := by
  obtain ⟨t, ht, hk⟩ := h.holder
  simp [Lexer.takesValue, ht, hk]

theorem nextMember (h : s.Within .array i) : s.nextMember = s := by
  obtain ⟨t, ht, hk⟩ := h.holder
  simp [Lexer.nextMember, ht, hk, Kind.isContainer]

theorem moved (h : s.Within kind i) (m : Nat) : (s.moved m).Within kind i := h

theorem hang (h : s.Within kind i) (l n : Nat) (ts : List Token) :
    (s.hang l n ts).Within kind i :=
  ⟨h.1, h.2.1, (kind_hang h.lt l n ts).trans h.2.2⟩

end Within

theorem holder_under (s : Lexer) (l n : Nat) (t : Token) (ts : List Token) :
    ((s.hang l n (t :: ts)).under s.tokens.size).holder = some t := by
  simp [holder, under, hang]

/-- After a member the anchor is its key, and a comma goes back to the object. -/
theorem nextMember_under {l : Nat} {t : Token} {ts : List Token} (hk : t.kind = .string)
    (hp : t.parent = s.anchor) :
    ((s.hang l 1 (t :: ts)).under s.tokens.size).nextMember = s.hang l 1 (t :: ts) := by
  simp only [nextMember, holder_under, hk, Kind.isContainer, hp]
  rfl

theorem anchored_under (s : Lexer) (l : Nat) (t : Token) (ts : List Token) :
    ((s.hang l 1 (t :: ts)).under s.tokens.size).Anchored := by
  intro j hj
  obtain rfl : s.tokens.size = j := Option.some.inj hj
  simp [under, size_hang]

/-- A key takes one value. -/
theorem takesValue_under {l : Nat} {t : Token} (hk : t.kind = .string) (hz : t.size = 0) :
    ((s.hang l 1 [t]).under s.tokens.size).takesValue := by
  simp [takesValue, holder_under, hk, hz]

/-- A key, the colon and the blanks before the value. -/
theorem result_key (h : s.mode = .between) (ha : s.Anchored) (key : Body)
    (afterKey beforeValue : Blanks) (rest : List UInt8) :
    s.result capacity (0x22 :: (key.bytes ++ 0x22 :: (afterKey.bytes ++ 0x3a ::
        (beforeValue.bytes ++ rest)))) =
      if s.tokens.size < capacity then
        ((s.hang (key.bytes.length + afterKey.bytes.length + beforeValue.bytes.length + 3) 1
          [⟨.string, s.position + 1, s.position + 1 + key.bytes.length, 0, s.anchor⟩]).under
            s.tokens.size).result capacity rest
      else .error .tooMany := by
  rw [result_string h ha]
  split
  · rw [result_blanks (by exact h) afterKey.blank, hang_moved,
      result_colon (by exact h) (by simp [size_hang]), result_blanks (by exact h) beforeValue.blank,
      size_hang]
    simp only [under, moved, hang, List.length_singleton, Nat.add_sub_cancel]
    congr 2
    omega
  · rfl

/-- A member is its key and the nodes of its value, if the value is its nodes. -/
theorem result_member {i : Nat} (h : s.Within .object i) (before : Blanks) (key : Body)
    (afterKey beforeValue : Blanks) (value : Tree) (after : Blanks) {rest : List UInt8}
    (hv : ∀ u : Lexer, u.mode = .between → u.Anchored → u.takesValue →
      u.result capacity (value.bytes ++ (after.bytes ++ rest)) =
        if u.tokens.size + value.count ≤ capacity then
          (u.hang value.bytes.length 1
            (value.tokens u.position u.tokens.size u.anchor)).result capacity (after.bytes ++ rest)
        else .error .tooMany) :
    s.result capacity (before.bytes ++ 0x22 :: (key.bytes ++ 0x22 :: (afterKey.bytes ++ 0x3a ::
        (beforeValue.bytes ++ (value.bytes ++ (after.bytes ++ rest)))))) =
      if s.tokens.size + (1 + value.count) ≤ capacity then
        ((s.hang (before.bytes.length + key.bytes.length + afterKey.bytes.length +
            beforeValue.bytes.length + 3 + value.bytes.length + after.bytes.length) 1
          (⟨.string, s.position + before.bytes.length + 1,
              s.position + before.bytes.length + 1 + key.bytes.length, 1, some i⟩ ::
            value.tokens (s.position + (before.bytes.length + key.bytes.length +
              afterKey.bytes.length + beforeValue.bytes.length + 3)) (s.tokens.size + 1)
                (some s.tokens.size))).under s.tokens.size).result capacity rest
      else .error .tooMany := by
  rw [result_blanks h.1 before.blank, result_key (by exact h.1) (by exact h.anchored), moved_hang]
  simp only [tokens_moved, anchor_moved, position_moved, h.2.1]
  by_cases hk : s.tokens.size < capacity
  · rw [if_pos hk, hv _ (by exact h.1) (anchored_under _ _ _ _) (takesValue_under rfl rfl),
      result_blanks (by exact h.1) after.blank, hang_moved]
    simp only [hang_under]
    simp [under, size_hang, position_hang, Nat.add_assoc]
  · rw [if_neg hk, if_neg (by omega)]

/-- A comma goes on to the next element. -/
theorem result_nextElement {i : Nat} (es : Elements) (h : s.Within .array i)
    (hc : s.tokens.size ≤ capacity) {rest : List UInt8}
    (hes : (s.moved 1).result capacity (es.listed.tail ++ rest) =
      if s.tokens.size + es.count ≤ capacity then
        ((s.moved 1).hang es.listed.tail.length es.length
          (es.tokens (s.position + 1) s.tokens.size i)).result capacity rest
      else .error .tooMany) :
    s.result capacity (es.listed ++ rest) =
      if s.tokens.size + es.count ≤ capacity then
        (s.hang es.listed.length es.length
          (es.tokens (s.position + 1) s.tokens.size i)).result capacity rest
      else .error .tooMany := by
  cases es with
  | nil =>
    rw [Elements.count, if_pos (by exact hc)]
    simp [Elements.listed, Elements.length, Elements.tokens, hang, growBelow_zero]
  | cons before value after es =>
    have hl : (Elements.cons before value after es).listed =
        0x2c :: (Elements.cons before value after es).listed.tail := rfl
    rw [hl, List.cons_append, result_comma h.1, h.nextMember, hes, moved_hang, List.length_cons,
      Nat.add_comm 1]

/-- A comma goes on to the next member, from the key of the last one. -/
theorem result_followingMember {i k : Nat} (ms : Members) (h : s.Within .object i)
    (hk : (s.under k).nextMember = s) (hc : s.tokens.size ≤ capacity) {rest : List UInt8}
    (hms : (s.moved 1).result capacity (ms.listed.tail ++ 0x7d :: rest) =
      if s.tokens.size + ms.count ≤ capacity then
        ((s.moved 1).hang ms.listed.tail.length ms.length
          (ms.tokens (s.position + 1) s.tokens.size i)).result capacity (0x7d :: rest)
      else .error .tooMany) :
    (s.under k).result capacity (ms.listed ++ 0x7d :: rest) =
      if s.tokens.size + ms.count ≤ capacity then
        (s.hang ms.listed.length ms.length
          (ms.tokens (s.position + 1) s.tokens.size i)).result capacity (0x7d :: rest)
      else .error .tooMany := by
  cases ms with
  | nil =>
    rw [Members.count, if_pos (by exact hc), Members.listed, List.nil_append,
      result_under_closing h.1 rfl]
    simp [Members.length, Members.tokens, hang, growBelow_zero]
  | cons before key afterKey beforeValue value after ms =>
    have hl : (Members.cons before key afterKey beforeValue value after ms).listed =
        0x2c :: (Members.cons before key afterKey beforeValue value after ms).listed.tail := rfl
    rw [hl, List.cons_append, result_comma (by exact h.1), hk, hms, moved_hang, List.length_cons,
      Nat.add_comm 1]

mutual

/-- A value is its nodes in document order. -/
theorem result_tree : ∀ (v : Tree) {s : Lexer} (_ : s.mode = .between) (_ : s.Anchored)
    (_ : s.takesValue) {rest : List UInt8} (_ : Stops rest),
    s.result capacity (v.bytes ++ rest) =
      if s.tokens.size + v.count ≤ capacity then
        (s.hang v.bytes.length 1 (v.tokens s.position s.tokens.size s.anchor)).result capacity rest
      else .error .tooMany
  | .string body, s, h, ha, _, rest, _ => by
    have hs : s.result capacity (0x22 :: (body.bytes ++ 0x22 :: rest)) = _ :=
      result_string h ha body rest
    simpa only [Tree.bytes, List.cons_append, List.append_assoc, List.nil_append, Tree.count,
      List.length_cons, List.length_append, List.length_nil, Nat.zero_add, Tree.tokens,
      Nat.lt_iff_add_one_le] using hs
  | .primitive literal, s, h, ha, ht, rest, hr => result_literal h ha ht literal hr
  | .array inside elements, s, h, ha, ht, rest, hr => by
    have hin : s.tokens.size < capacity → (s.entered .array).result capacity
        ((inside.bytes ++ elements.listed.tail) ++ 0x5d :: rest) =
        if s.tokens.size + 1 + elements.count ≤ capacity then
          ((s.entered .array).hang (inside.bytes ++ elements.listed.tail).length elements.length
            (elements.tokens (s.position + 1 + inside.bytes.length) (s.tokens.size + 1)
              s.tokens.size)).result capacity (0x5d :: rest)
        else .error .tooMany := by
      intro hlt
      have hw := within_entered h .array
      rw [List.append_assoc, result_blanks hw.1 inside.blank,
        result_elements elements (hw.moved _)
          (by simpa [moved, entered] using Nat.succ_le_of_lt hlt) (stops_cons rfl _),
        moved_hang, List.length_append]
      simp [moved, entered]
    simpa [Tree.bytes, Tree.count, Tree.tokens, Nat.add_assoc] using
      result_container h ha ht (b := 0x5b) rfl rfl hin
  | .object inside members, s, h, ha, ht, rest, hr => by
    have hin : s.tokens.size < capacity → (s.entered .object).result capacity
        ((inside.bytes ++ members.listed.tail) ++ 0x7d :: rest) =
        if s.tokens.size + 1 + members.count ≤ capacity then
          ((s.entered .object).hang (inside.bytes ++ members.listed.tail).length members.length
            (members.tokens (s.position + 1 + inside.bytes.length) (s.tokens.size + 1)
              s.tokens.size)).result capacity (0x7d :: rest)
        else .error .tooMany := by
      intro hlt
      have hw := within_entered h .object
      rw [List.append_assoc, result_blanks hw.1 inside.blank,
        result_members members (hw.moved _)
          (by simpa [moved, entered] using Nat.succ_le_of_lt hlt), moved_hang, List.length_append]
      simp [moved, entered]
    simpa [Tree.bytes, Tree.count, Tree.tokens, Nat.add_assoc] using
      result_container h ha ht (b := 0x7b) rfl rfl hin

/-- Elements are their nodes in document order, one after the other below the array. -/
theorem result_elements : ∀ (es : Elements) {s : Lexer} {i : Nat} (_ : s.Within .array i)
    (_ : s.tokens.size ≤ capacity) {rest : List UInt8} (_ : Stops rest),
    s.result capacity (es.listed.tail ++ rest) =
      if s.tokens.size + es.count ≤ capacity then
        (s.hang es.listed.tail.length es.length
          (es.tokens s.position s.tokens.size i)).result capacity rest
      else .error .tooMany
  | .nil, s, i, h, hc, rest, hr => by
    rw [Elements.count, if_pos (by exact hc)]
    simp [Elements.listed, Elements.length, Elements.tokens, hang, growBelow_zero]
  | .cons before value after es, s, i, h, hc, rest, hr => by
    have hstop : Stops (after.bytes ++ (es.listed ++ rest)) := by
      refine stops_blanks after.blank ?_
      cases es with
      | nil => exact hr
      | cons => exact stops_cons rfl _
    have hv := h.moved before.bytes.length
    simp only [Elements.listed, List.tail_cons, List.append_assoc]
    rw [result_blanks h.1 before.blank, result_tree value hv.1 hv.anchored hv.takesValue hstop]
    by_cases hcv : s.tokens.size + value.count ≤ capacity
    · rw [if_pos (by exact hcv), result_blanks (by exact h.1) after.blank, moved_hang, hang_moved]
      simp only [moved, h.2.1]
      have hn := h.hang (before.bytes.length + value.bytes.length + after.bytes.length) 1
        (value.tokens (s.position + before.bytes.length) s.tokens.size (some i))
      have hcn := hcv
      rw [← value.length_tokens (s.position + before.bytes.length) s.tokens.size (some i),
        ← size_hang] at hcn
      rw [result_nextElement es hn hcn (result_elements es (hn.moved 1) hcn hr),
        hang_hang h.anchored, size_hang, position_hang, Tree.length_tokens]
      simp only [Elements.count, Elements.length, Elements.tokens, List.length_append,
        Nat.add_assoc, Nat.add_comm 1]
    · rw [if_neg (by exact hcv), if_neg (by rw [Elements.count]; omega)]

/-- Members are their nodes in document order, one after the other below the object. -/
theorem result_members : ∀ (ms : Members) {s : Lexer} {i : Nat} (_ : s.Within .object i)
    (_ : s.tokens.size ≤ capacity) {rest : List UInt8},
    s.result capacity (ms.listed.tail ++ 0x7d :: rest) =
      if s.tokens.size + ms.count ≤ capacity then
        (s.hang ms.listed.tail.length ms.length
          (ms.tokens s.position s.tokens.size i)).result capacity (0x7d :: rest)
      else .error .tooMany
  | .nil, s, i, h, hc, rest => by
    rw [Members.count, if_pos (by exact hc)]
    simp [Members.listed, Members.length, Members.tokens, hang, growBelow_zero]
  | .cons before key afterKey beforeValue value after ms, s, i, h, hc, rest => by
    have hstop : Stops (after.bytes ++ (ms.listed ++ 0x7d :: rest)) := by
      refine stops_blanks after.blank ?_
      cases ms with
      | nil => exact stops_cons rfl _
      | cons => exact stops_cons rfl _
    simp only [Members.listed, List.tail_cons, List.append_assoc, List.cons_append]
    rw [result_member h before key afterKey beforeValue value after
      fun u hu ha ht => result_tree value hu ha ht hstop]
    by_cases hcv : s.tokens.size + (1 + value.count) ≤ capacity
    · have hnext : ∀ l t start parent, t.kind = .string → t.parent = s.anchor →
          ((s.hang l 1 (t :: value.tokens start (s.tokens.size + 1) parent)).under
              s.tokens.size).result capacity (ms.listed ++ 0x7d :: rest) =
            if s.tokens.size + (1 + value.count) + ms.count ≤ capacity then
              (s.hang (l + ms.listed.length) (1 + ms.length)
                (t :: (value.tokens start (s.tokens.size + 1) parent ++ ms.tokens
                  (s.position + l + 1) (s.tokens.size + (1 + value.count)) i))).result capacity
                    (0x7d :: rest)
            else .error .tooMany := by
        intro l t start parent hk hp
        have hn := h.hang l 1 (t :: value.tokens start (s.tokens.size + 1) parent)
        have hsize := s.size_hang l 1 (t :: value.tokens start (s.tokens.size + 1) parent)
        rw [List.length_cons, Tree.length_tokens, Nat.add_comm value.count] at hsize
        rw [result_followingMember ms hn (nextMember_under hk hp) (hsize ▸ hcv)
          (result_members ms (hn.moved 1) (hsize ▸ hcv)), hang_hang h.anchored, hsize,
          position_hang, List.cons_append]
      rw [if_pos hcv, hnext _ _ _ _ rfl h.2.1.symm]
      have hlength : (before.bytes ++ 0x22 :: (key.bytes ++ 0x22 :: (afterKey.bytes ++ 0x3a ::
            (beforeValue.bytes ++ (value.bytes ++ (after.bytes ++ ms.listed)))))).length =
          before.bytes.length + key.bytes.length + afterKey.bytes.length +
            beforeValue.bytes.length + 3 + value.bytes.length + after.bytes.length +
              ms.listed.length := by
        simp only [List.length_append, List.length_cons]; omega
      rw [hlength, Members.count, Members.length, Members.tokens, Nat.add_comm ms.length,
        ← Nat.add_assoc s.tokens.size (1 + value.count), ← Nat.add_assoc s.tokens.size 1]
    · rw [if_neg hcv, if_neg (by rw [Members.count]; omega)]

end

end Lexer

/-! ## Texts -/

/-- A text is its nodes in document order, if there is room for them. -/
theorem tokenize_bytes (capacity : Nat) (d : Document) :
    tokenize capacity d.bytes =
      if d.count ≤ capacity then .ok d.tokens.toArray else .error .tooMany := by
  have hb : Lexer.initial.mode = .between := rfl
  have hr : Lexer.Stops (d.after.bytes ++ []) :=
    Lexer.stops_blanks d.after.blank (by simp [Lexer.Stops])
  rw [List.append_nil] at hr
  have ht : tokenize capacity d.bytes = Lexer.initial.result capacity d.bytes := rfl
  rw [ht, Document.bytes, Lexer.result_blanks hb d.before.blank,
    Lexer.result_tree d.root (by rfl) (by simp [Lexer.Anchored, Lexer.initial]) (by rfl) hr,
    ← List.append_nil d.after.bytes, Lexer.result_blanks (by rfl) d.after.blank]
  simp only [Lexer.initial, Lexer.moved, Lexer.hang, growBelow, Document.count, Document.tokens,
    Array.size_empty, Nat.zero_add, Array.empty_append]
  rfl

/-- The tokens of a text are the nodes of its tree in document order, one for each, and their spans
hold what the nodes stand on. -/
theorem tokenize_document {capacity : Nat} {d : Document} (h : d.count ≤ capacity) :
    tokenize capacity d.bytes = .ok d.tokens.toArray ∧ d.tokens.length = d.count ∧
      d.tokens.map (·.text d.bytes) = d.root.covered := by
  refine ⟨?_, d.root.length_tokens _ _ _, d.root.map_text_tokens _ _ d.standsAt_root⟩
  rw [tokenize_bytes, if_pos h]

/-- The text `[{"a":[true]},null]`. -/
def Document.nested : Document where
  before := .none
  root := .array .none
    (.cons .none
      (.object .none (.cons .none (.plain [0x61] (by simp)) .none .none
        (.array .none (.cons .none (.primitive ⟨_, .true⟩) .none .nil)) .none .nil))
      .none (.cons .none (.primitive ⟨_, .null⟩) .none .nil))
  after := .none

theorem tokenize_document_nested :
    Document.nested.count ≤ 6 ∧
      tokenize 6 Document.nested.bytes = .ok #[
        ⟨.array, 0, 19, 2, none⟩, ⟨.object, 1, 13, 1, some 0⟩, ⟨.string, 3, 4, 1, some 1⟩,
        ⟨.array, 6, 12, 1, some 2⟩, ⟨.primitive, 7, 11, 0, some 3⟩,
        ⟨.primitive, 14, 18, 0, some 0⟩] := by
  have hc : Document.nested.count ≤ 6 := by decide
  exact ⟨hc, (tokenize_document hc).1⟩

end ChatLink.Json
