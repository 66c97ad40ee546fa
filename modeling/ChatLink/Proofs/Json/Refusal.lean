import ChatLink.Proofs.Json.Nesting

/-!
# Why texts are refused

A text has no more tokens than bytes (`Lexer.Roomy`), so a capacity of its length never runs out and
any larger one gives the same (`reading`). Then an error says exactly what can still come. Whatever
state is reached can be completed (`Lexer.completes`) : the string or the literal that has begun is
ended, and the open containers are closed. So a text that is refused is truncated if some longer one
is accepted, and otherwise invalid at the first byte behind which no text goes on (`exact_reading`).
-/

namespace ChatLink.Json

/-- The tokens of a text, where as many are allowed as can come. -/
def reading (text : List UInt8) : Except LexFault (Array Token) := tokenize text.length text

/-- The text has tokens. -/
def IsAccepted (text : List UInt8) : Prop := ∃ tokens, reading text = .ok tokens

/-- Some text that begins with this one has tokens. -/
def IsViable (text : List UInt8) : Prop := ∃ more, IsAccepted (text ++ more)

/-! ## Capacity -/

/-- With more capacity the outcome is the same, unless capacity was what was missing. -/
def Agrees {α : Type} (x y : Except LexFault α) : Prop := x = .error .tooMany ∨ y = x

theorem Agrees.rfl {α : Type} {x : Except LexFault α} : Agrees x x := .inr (Eq.refl x)

theorem Agrees.bind {α β : Type} {x y : Except LexFault α} {f g : α → Except LexFault β}
    (h : Agrees x y) (hf : ∀ a, Agrees (f a) (g a)) : Agrees (x >>= f) (y >>= g) := by
  rcases h with hx | hy
  · rw [hx]
    exact .inl (Eq.refl _)
  · rw [hy]
    cases x with
    | error fault => exact .rfl
    | ok a => exact hf a

namespace Lexer

variable {capacity capacity' : Nat} {s s' : Lexer} {text : List UInt8} {fault : LexFault}

section Agrees

variable (h : capacity ≤ capacity')
include h

theorem agrees_add (s : Lexer) (kind : Kind) (start stop : Nat) :
    Agrees (s.add capacity kind start stop) (s.add capacity' kind start stop) := by
  unfold add
  by_cases hc : s.tokens.size < capacity
  · rw [if_pos hc, if_pos (Nat.lt_of_lt_of_le hc h)]
    exact .rfl
  · rw [if_neg hc]
    exact .inl rfl

theorem agrees_endPrimitive (s : Lexer) (start : Nat) :
    Agrees (s.endPrimitive capacity start) (s.endPrimitive capacity' start) :=
  (agrees_add h s _ _ _).bind fun _ => .rfl

theorem agrees_stepBetween (s : Lexer) (b : UInt8) :
    Agrees (s.stepBetween capacity b) (s.stepBetween capacity' b) := by
  unfold stepBetween
  split
  case h_1 kind hb =>
    refine Agrees.bind ?_ fun _ => .rfl
    unfold openContainer
    split
    · exact (agrees_add h s _ _ _).bind fun _ => .rfl
    · exact .rfl
  all_goals exact .rfl

theorem agrees_step (s : Lexer) (b : UInt8) : Agrees (s.step capacity b) (s.step capacity' b) := by
  unfold step
  split
  case h_1 => exact agrees_stepBetween h s b
  case h_2 start hm =>
    split
    · exact (agrees_add h s _ _ _).bind fun _ => .rfl
    · exact .rfl
  case h_5 start hm =>
    split
    · exact (agrees_endPrimitive h s start).bind fun m => agrees_stepBetween h m b
    · exact .rfl
  all_goals exact .rfl

theorem agrees_run (s : Lexer) (text : List UInt8) :
    Agrees (s.run capacity text) (s.run capacity' text) := by
  induction text generalizing s with
  | nil => exact .rfl
  | cons b text ih =>
    rw [run, run, List.foldlM_cons, List.foldlM_cons]
    exact (agrees_step h s b).bind ih

theorem agrees_finish (s : Lexer) : Agrees (s.finish capacity) (s.finish capacity') := by
  unfold finish
  split
  case h_2 start hm => exact (agrees_endPrimitive h s start).bind fun _ => .rfl
  all_goals exact .rfl

theorem agrees_tokenize (text : List UInt8) :
    Agrees (tokenize capacity text) (tokenize capacity' text) :=
  (agrees_run h initial text).bind (agrees_finish h)

end Agrees

/-- A string or a literal that has begun becomes one more token. -/
def owed (s : Lexer) : Nat :=
  match s.mode with
  | .between => 0
  | .string _ | .escape _ | .digits _ _ | .primitive _ => 1

/-- There are no more tokens than bytes that were read. -/
def Roomy (s : Lexer) : Prop := s.tokens.size + s.owed ≤ s.position

theorem roomy_initial : initial.Roomy := Nat.le_refl 0

theorem Roomy.size_lt (h : s.Roomy) (ho : s.owed = 1) : s.tokens.size < s.position := by
  rw [Roomy, ho] at h
  exact h

theorem Roomy.reads {bytes : List UInt8} (h : s.Roomy) (hr : Reads capacity s bytes s') :
    s'.Roomy := by
  cases hr with
  | comma hm =>
    rw [nextMember_eq]
    simp only [Roomy, owed, Lexer.advance, hm] at h ⊢
    omega
  | digit hm =>
    simp only [Roomy, owed, Lexer.advance, hm] at h ⊢
    split <;> omega
  | blank hm | colon hm | opening hm | closing hm | quote hm | plain hm | backslash hm | short hm
  | unicode hm | unquote hm | literal hm | more hm | ended hm =>
    simp only [Roomy, owed, Lexer.advance, awaitValue, size_hung, Array.size_modify, hm] at h ⊢
    omega

theorem error_of_bind_eq_error {α β : Type} {x : Except LexFault α} {f : α → Except LexFault β}
    (h : x >>= f = .error fault) : x = .error fault ∨ ∃ a, x = .ok a ∧ f a = .error fault := by
  cases x with
  | error e =>
    cases h
    exact .inl rfl
  | ok a => exact .inr ⟨a, rfl, h⟩

theorem add_eq_error {kind : Kind} {start stop : Nat}
    (h : s.add capacity kind start stop = .error fault) : capacity ≤ s.tokens.size := by
  unfold add at h
  split at h
  · cases h
  · next hc => exact Nat.le_of_not_lt hc

theorem stepBetween_eq_error {b : UInt8} (h : s.stepBetween capacity b = .error fault) :
    fault = .invalid s.position ∨ capacity ≤ s.tokens.size := by
  unfold stepBetween at h
  split at h
  case h_1 kind hb =>
    rcases error_of_bind_eq_error h with h | ⟨m, -, h⟩
    · unfold openContainer at h
      split at h
      · rcases error_of_bind_eq_error h with h | ⟨m, -, h⟩
        · exact .inr (add_eq_error h)
        · cases h
      · cases h
        exact .inl rfl
    · cases h
  case h_2 kind hb =>
    left
    rcases error_of_bind_eq_error h with h | ⟨m, -, h⟩
    · unfold closeContainer at h
      split at h
      · cases h
        rfl
      · split at h
        · cases h
          rfl
        · split at h <;> cases h
          rfl
    · cases h
  case h_7 hb =>
    left
    split at h <;> cases h
    rfl
  case h_8 =>
    left
    cases h
    rfl
  all_goals cases h

theorem endPrimitive_eq_error {start : Nat} (h : s.endPrimitive capacity start = .error fault) :
    capacity ≤ s.tokens.size := by
  rcases error_of_bind_eq_error h with h | ⟨m, -, h⟩
  · exact add_eq_error h
  · cases h

/-- Without a lack of capacity, a byte is refused at its own offset. -/
theorem step_eq_error {b : UInt8} (h : s.step capacity b = .error fault) :
    fault = .invalid s.position ∨ capacity ≤ s.tokens.size + s.owed := by
  unfold step at h
  split at h
  case h_1 hm => exact (stepBetween_eq_error h).imp_right (Nat.le_trans · (Nat.le_add_right _ _))
  case h_2 start hm =>
    right
    split at h
    · rcases error_of_bind_eq_error h with h | ⟨m, -, h⟩
      · exact Nat.le_trans (add_eq_error h) (Nat.le_add_right _ _)
      · cases h
    · split at h <;> cases h
  case h_3 start hm =>
    left
    split at h
    · cases h
    · split at h <;> cases h
      rfl
  case h_4 start left hm =>
    left
    split at h <;> cases h
    rfl
  case h_5 start hm =>
    split at h
    · rcases error_of_bind_eq_error h with h | ⟨m, he, h⟩
      · exact .inr (Nat.le_trans (endPrimitive_eq_error h) (Nat.le_add_right _ _))
      · obtain ⟨-, hc⟩ := endPrimitive_eq_ok hm he
        obtain ⟨m', ha, he⟩ := exists_of_bind_eq_ok he
        obtain ⟨-, rfl⟩ := add_eq_ok ha
        cases he
        have howed : s.owed = 1 := by rw [owed, hm]
        simpa only [size_hung, howed] using stepBetween_eq_error h
    · left
      split at h <;> cases h
      rfl

theorem finish_eq_error (h : s.finish capacity = .error fault) :
    fault = .truncated ∨ capacity < s.tokens.size + s.owed := by
  have hcomplete : ∀ m : Lexer, m.complete = .error fault → fault = .truncated := by
    intro m h
    unfold complete at h
    split at h <;> cases h
    rfl
  unfold finish at h
  split at h
  case h_1 hm => exact .inl (hcomplete s h)
  case h_2 start hm =>
    rcases error_of_bind_eq_error h with h | ⟨m, -, h⟩
    · right
      rw [owed, hm]
      exact Nat.lt_succ_of_le (endPrimitive_eq_error h)
    · exact .inl (hcomplete m h)
  all_goals
    left
    cases h
    rfl

/-! ## Reaching a state -/

/-- What holds of a state that was reached by this text. -/
structure IsReached (text : List UInt8) (s : Lexer) : Prop where
  nested : s.Nested
  roomy : s.Roomy
  position_eq : s.position = text.length

theorem isReached_initial : IsReached [] initial := ⟨nested_initial, roomy_initial, rfl⟩

theorem IsReached.reads {bytes : List UInt8} (h : IsReached text s)
    (hr : Reads capacity s bytes s') : IsReached (text ++ bytes) s' :=
  ⟨h.nested.reads hr, h.roomy.reads hr, by rw [hr.position_eq, h.position_eq, List.length_append]⟩

theorem run_append (s : Lexer) (text more : List UInt8) :
    s.run capacity (text ++ more) = s.run capacity text >>= (·.run capacity more) :=
  List.foldlM_append

/-- The text is read and leads to this state, if capacity allows it. -/
def Runs (text : List UInt8) (s : Lexer) : Prop :=
  ∀ capacity, text.length ≤ capacity → initial.run capacity text = .ok s

/-- The text is read, and the byte behind it is refused. -/
def Fails (text : List UInt8) (b : UInt8) : Prop :=
  ∃ s, Runs text s ∧ ∀ capacity, text.length < capacity →
    s.step capacity b = .error (.invalid text.length)

theorem Runs.isReached (h : Runs text s) : IsReached text s :=
  run_induction IsReached.reads isReached_initial (h _ (Nat.le_refl _))

/-- One more byte. -/
theorem Runs.snoc (h : Runs text s) (b : UInt8) : (∃ s', Runs (text ++ [b]) s') ∨ Fails text b := by
  have hroomy := h.isReached.roomy
  have hposition := h.isReached.position_eq
  rw [Roomy] at hroomy
  have hagrees : ∀ {capacity}, text.length < capacity →
      Agrees (s.step (text.length + 1) b) (s.step capacity b) :=
    fun hc => agrees_step hc s b
  cases hb : s.step (text.length + 1) b with
  | ok s' =>
    refine .inl ⟨s', fun capacity hc => ?_⟩
    rw [List.length_append, List.length_singleton] at hc
    have hstep := (hagrees hc).resolve_left (by simp [hb])
    rw [run_append, h capacity (Nat.le_of_succ_le hc), ← hb, ← hstep]
    exact bind_pure (s.step capacity b)
  | error fault =>
    obtain rfl := (step_eq_error hb).resolve_right (by omega)
    refine .inr ⟨s, h, fun capacity hc => ?_⟩
    rw [← hposition, ← hb]
    exact (hagrees hc).resolve_left (by simp [hb])

/-- A text is read, or refused at one of its bytes. -/
theorem runs_or_fails (text : List UInt8) :
    (∃ s, Runs text s) ∨ ∃ before b after, text = before ++ b :: after ∧ Fails before b := by
  induction text using List.reverseRecOn with
  | nil => exact .inl ⟨initial, fun _ _ => rfl⟩
  | append_singleton text b ih =>
    rcases ih with ⟨s, hs⟩ | ⟨before, c, after, rfl, hc⟩
    · exact (hs.snoc b).imp_right fun hb => ⟨text, b, [], rfl, hb⟩
    · exact .inr ⟨before, c, after ++ [b], by simp, hc⟩

/-- Behind a byte that is refused nothing is read. -/
theorem Fails.run_eq {b : UInt8} {after : List UInt8} (h : Fails text b)
    (hc : text.length < capacity) :
    initial.run capacity (text ++ b :: after) = .error (.invalid text.length) := by
  obtain ⟨s, hs, hb⟩ := h
  rw [run_append, hs capacity (Nat.le_of_lt hc)]
  show s.run capacity (b :: after) = _
  rw [run, List.foldlM_cons, hb capacity hc]
  rfl

theorem runs_of_run (h : initial.run capacity text = .ok s) : Runs text s := by
  have hmax : initial.run (max capacity text.length) text = .ok s := by
    rw [← h]
    exact (agrees_run (Nat.le_max_left _ _) initial text).resolve_left (by simp [h])
  rcases runs_or_fails text with ⟨s', hs'⟩ | ⟨before, b, after, rfl, hb⟩
  · obtain rfl := Except.ok.inj (hmax.symm.trans (hs' _ (Nat.le_max_right _ _)))
    exact hs'
  · rw [hb.run_eq (by simp)] at hmax
    cases hmax

theorem Runs.tokenize_eq (h : Runs text s) (hc : text.length ≤ capacity) :
    tokenize capacity text = s.finish capacity := by
  rw [tokenize, h capacity hc]
  rfl

theorem Fails.reading_eq {b : UInt8} (h : Fails text b) (after : List UInt8) :
    reading (text ++ b :: after) = .error (.invalid text.length) := by
  rw [reading, tokenize, h.run_eq (by simp)]
  rfl

/-- A text that is read has tokens or is truncated. -/
theorem Runs.reading_cases (h : Runs text s) :
    IsAccepted text ∨ reading text = .error .truncated := by
  rw [IsAccepted, reading, h.tokenize_eq (Nat.le_refl _)]
  cases hf : s.finish text.length with
  | ok tokens => exact .inl ⟨tokens, rfl⟩
  | error fault =>
    have hroomy := h.isReached.roomy
    rw [Roomy, h.isReached.position_eq] at hroomy
    obtain rfl := (finish_eq_error hf).resolve_right (by omega)
    exact .inr rfl

/-! ## Completing a text -/

/-- Some bytes lead from the state to the end of a text that has tokens. -/
def Completes (s : Lexer) : Prop :=
  ∃ more, ∀ capacity, s.position + more.length ≤ capacity →
    ∃ m tokens, s.run capacity more = .ok m ∧ m.finish capacity = .ok tokens

theorem Completes.of_step (b : UInt8) (h : s'.Completes) (hp : s'.position = s.position + 1)
    (hs : ∀ capacity, s.position < capacity → s.step capacity b = .ok s') : s.Completes := by
  obtain ⟨more, hmore⟩ := h
  refine ⟨b :: more, fun capacity hc => ?_⟩
  rw [List.length_cons] at hc
  rw [run, List.foldlM_cons, hs capacity (by omega)]
  exact hmore capacity (by omega)

/-- Open containers are closed one after the other. -/
theorem completes_of_between (h : s.Nested) (hm : s.mode = .between) : s.Completes := by
  generalize ho : s.opened = opened
  induction opened generalizing s with
  | nil =>
    refine ⟨[], fun capacity _ => ⟨s, s.tokens, rfl, ?_⟩⟩
    simp [finish, hm, complete, ho]
  | cons i outer ih =>
    have hi := h.listed i (by simp [ho])
    obtain ⟨t, ht⟩ : ∃ t, s.tokens[i]? = some t := ⟨_, Array.getElem?_eq_getElem hi⟩
    obtain ⟨b, hb⟩ : ∃ b, Sign.of b = .closing t.kind := by
      have hk := h.container i t (by simp [ho]) ht
      cases hkind : t.kind with
      | object => exact ⟨0x7d, rfl⟩
      | array => exact ⟨0x5d, rfl⟩
      | string | primitive =>
        rw [hkind] at hk
        cases hk
    refine (ih (h.close hm ho ht) rfl rfl).of_step b rfl fun capacity _ => ?_
    rw [step, hm]
    simp [stepBetween, hb, closeContainer, ho, ht, Lexer.advance]

theorem add_eq {kind : Kind} {start stop : Nat} (h : s.tokens.size < capacity) :
    s.add capacity kind start stop = .ok { s with tokens := s.hung kind start stop } :=
  if_pos h

/-- A quote ends a string. -/
theorem completes_of_string {start : Nat} (h : s.Nested) (hroomy : s.Roomy)
    (hm : s.mode = .string start) : s.Completes := by
  have hsize := hroomy.size_lt (by rw [owed, hm])
  have hnested := h.reads (.unquote hm hsize)
  refine (completes_of_between hnested rfl).of_step 0x22 rfl fun capacity hc => ?_
  rw [step, hm]
  dsimp only
  rw [if_pos rfl, add_eq (Nat.lt_trans hsize hc)]
  rfl

/-- Digits that are missing are filled up. -/
theorem completes_of_digits {start left : Nat} (h : s.Nested) (hroomy : s.Roomy)
    (hm : s.mode = .digits start left) : s.Completes := by
  induction left using Nat.strong_induction_on generalizing s with
  | h left ih =>
    have hr : Reads 0 s [0x30]
      (s.advance (if left ≤ 1 then .string start else .digits start (left - 1))) := .digit hm rfl
    refine Completes.of_step 0x30 ?_ rfl fun capacity _ => by rw [step, hm]; rfl
    by_cases hlast : left ≤ 1
    · exact completes_of_string (h.reads hr) (hroomy.reads hr) (if_pos hlast)
    · exact ih (left - 1) (by omega) (h.reads hr) (hroomy.reads hr) (if_neg hlast)

/-- Whatever was read, something can follow. -/
theorem completes (h : IsReached text s) : s.Completes := by
  cases hm : s.mode with
  | between => exact completes_of_between h.nested hm
  | string start => exact completes_of_string h.nested h.roomy hm
  | digits start left => exact completes_of_digits h.nested h.roomy hm
  | escape start =>
    have hr : Reads 0 s [0x6e] (s.advance (.string start)) := .short hm rfl
    refine (completes_of_string (h.nested.reads hr) (h.roomy.reads hr) rfl).of_step 0x6e rfl
      fun capacity _ => ?_
    rw [step, hm]
    rfl
  | primitive start =>
    have hsize := h.roomy.size_lt (by rw [owed, hm])
    let m : Lexer := ⟨s.position, s.hung .primitive start s.position, s.anchor, s.opened, .between⟩
    have hended : Reads s.position s [] m := .ended hm hsize
    have hnested : (m.advance .between).Nested :=
      (h.nested.reads hended).between rfl rfl rfl rfl rfl
    refine (completes_of_between hnested rfl).of_step 0x20 rfl fun capacity hc => ?_
    rw [step, hm]
    dsimp only
    rw [if_pos (show endsPrimitive 0x20 = true from rfl), endPrimitive,
      add_eq (Nat.lt_trans hsize hc)]
    rfl

end Lexer

/-! ## Errors -/

/-- A text can go on as long as it is read. -/
theorem isViable_iff {text : List UInt8} : IsViable text ↔ ∃ s, Lexer.Runs text s := by
  constructor
  · rintro ⟨more, tokens, h⟩
    obtain ⟨m, hm, -⟩ := Lexer.exists_of_bind_eq_ok h
    rw [Lexer.run_append] at hm
    obtain ⟨s, hs, -⟩ := Lexer.exists_of_bind_eq_ok hm
    exact ⟨s, Lexer.runs_of_run hs⟩
  · rintro ⟨s, hs⟩
    obtain ⟨more, hmore⟩ := Lexer.completes hs.isReached
    obtain ⟨m, tokens, hm, hf⟩ := hmore (text ++ more).length
      (by rw [hs.isReached.position_eq, List.length_append])
    refine ⟨more, tokens, ?_⟩
    rw [reading, tokenize, Lexer.run_append, hs _ (by simp)]
    show (do (← s.run _ more).finish _) = _
    rw [hm]
    exact hf

theorem IsViable.take {text : List UInt8} (h : IsViable text) (n : Nat) :
    IsViable (text.take n) := by
  obtain ⟨more, h⟩ := h
  refine ⟨text.drop n ++ more, ?_⟩
  rwa [← List.append_assoc, List.take_append_drop]

theorem IsAccepted.isViable {text : List UInt8} (h : IsAccepted text) : IsViable text :=
  ⟨[], by rwa [List.append_nil]⟩

theorem IsViable.reading_cases {text : List UInt8} (h : IsViable text) :
    IsAccepted text ∨ reading text = .error .truncated := by
  obtain ⟨s, hs⟩ := isViable_iff.1 h
  exact hs.reading_cases

/-- Nothing goes on behind a byte that is refused. -/
theorem Lexer.Fails.not_isViable {text : List UInt8} {b : UInt8} (h : Fails text b) :
    ¬ IsViable (text ++ [b]) := by
  rintro ⟨more, tokens, hmore⟩
  rw [List.append_assoc, List.singleton_append, h.reading_eq] at hmore
  cases hmore

/-- Where the first byte is behind which a text cannot go on. -/
structure IsRefusedAt (text : List UInt8) (offset : Nat) : Prop where
  lt_length : offset < text.length
  not_isViable : ¬ IsViable (text.take (offset + 1))
  isViable : ∀ n < offset, IsViable (text.take (n + 1))

theorem exists_of_not_isViable {text : List UInt8} (h : ¬ IsViable text) :
    ∃ before b after, text = before ++ b :: after ∧ Lexer.Fails before b :=
  (Lexer.runs_or_fails text).resolve_left fun hs => h (isViable_iff.2 hs)

theorem reading_ne_tooMany (text : List UInt8) : reading text ≠ .error .tooMany := by
  by_cases h : IsViable text
  · rcases h.reading_cases with ⟨tokens, h⟩ | h <;> simp [h]
  · obtain ⟨before, b, after, rfl, hb⟩ := exists_of_not_isViable h
    simp [hb.reading_eq]

/-- What the outcome says about the text, what it begins with, and what begins with it. -/
structure Exact (text : List UInt8) : Prop where
  /-- More capacity changes nothing. -/
  capacity {capacity : Nat} (h : text.length ≤ capacity) : tokenize capacity text = reading text
  invalid_iff {offset : Nat} :
    reading text = .error (.invalid offset) ↔ IsRefusedAt text offset
  /-- Up to the byte that is refused nothing is wrong, -/
  before {offset : Nat} (h : reading text = .error (.invalid offset)) :
    IsAccepted (text.take offset) ∨ reading (text.take offset) = .error .truncated
  /-- and whatever comes behind it, that byte is refused. -/
  final {offset : Nat} (h : reading text = .error (.invalid offset)) (more : List UInt8) :
    reading (text.take (offset + 1) ++ more) = .error (.invalid offset)
  truncated_iff : reading text = .error .truncated ↔ ¬ IsAccepted text ∧ IsViable text
  begun (h : IsAccepted text) (n : Nat) :
    IsAccepted (text.take n) ∨ reading (text.take n) = .error .truncated

/-- The first byte behind which no text goes on is the one that is refused. -/
theorem Lexer.Fails.isRefusedAt_iff {text after : List UInt8} {b : UInt8} {offset : Nat}
    (h : Fails text b) : IsRefusedAt (text ++ b :: after) offset ↔ offset = text.length := by
  have hviable : ∀ n < text.length, IsViable ((text ++ b :: after).take (n + 1)) := by
    obtain ⟨s, hs, -⟩ := h
    intro n hn
    rw [List.take_append_of_le_length hn]
    exact (isViable_iff.2 ⟨s, hs⟩).take (n + 1)
  have hnot : ¬ IsViable ((text ++ b :: after).take (text.length + 1)) := by
    rw [List.take_length_add_append, List.take_succ_cons, List.take_zero]
    exact h.not_isViable
  constructor
  · intro hr
    rcases Nat.lt_trichotomy offset text.length with hlt | heq | hgt
    · exact absurd (hviable offset hlt) hr.not_isViable
    · exact heq
    · exact absurd (hr.isViable _ hgt) hnot
  · rintro rfl
    exact ⟨by simp, hnot, hviable⟩

/-- A text is invalid at the first byte behind which no text goes on, and truncated if only longer
ones have tokens. -/
theorem exact_reading (text : List UInt8) : Exact text := by
  have hinvalid : ∀ {offset}, reading text = .error (.invalid offset) →
      ∃ before b after, text = before ++ b :: after ∧ Lexer.Fails before b ∧
        offset = before.length := by
    intro offset h
    have hviable : ¬ IsViable text := fun hv => by
      rcases hv.reading_cases with ⟨tokens, h'⟩ | h' <;> cases h.symm.trans h'
    obtain ⟨before, b, after, rfl, hb⟩ := exists_of_not_isViable hviable
    rw [hb.reading_eq] at h
    cases h
    exact ⟨before, b, after, rfl, hb, rfl⟩
  constructor
  case capacity =>
    intro capacity h
    exact (Lexer.agrees_tokenize h text).resolve_left (reading_ne_tooMany text)
  case invalid_iff =>
    intro offset
    constructor
    · intro h
      obtain ⟨before, b, after, rfl, hb, rfl⟩ := hinvalid h
      exact hb.isRefusedAt_iff.2 rfl
    · intro h
      have hviable : ¬ IsViable text := fun hv => h.not_isViable (hv.take _)
      obtain ⟨before, b, after, rfl, hb⟩ := exists_of_not_isViable hviable
      rw [hb.isRefusedAt_iff.1 h]
      exact hb.reading_eq after
  case before =>
    intro offset h
    obtain ⟨before, b, after, rfl, ⟨s, hs, -⟩, rfl⟩ := hinvalid h
    rw [List.take_left]
    exact hs.reading_cases
  case final =>
    intro offset h more
    obtain ⟨before, b, after, rfl, hb, rfl⟩ := hinvalid h
    rw [List.take_length_add_append, List.take_succ_cons, List.take_zero, List.append_assoc]
    exact hb.reading_eq more
  case truncated_iff =>
    constructor
    · intro h
      refine ⟨?_, ?_⟩
      · rintro ⟨tokens, h'⟩
        cases h.symm.trans h'
      · by_contra hviable
        obtain ⟨before, b, after, rfl, hb⟩ := exists_of_not_isViable hviable
        rw [hb.reading_eq] at h
        cases h
    · rintro ⟨hnot, hviable⟩
      exact hviable.reading_cases.resolve_left hnot
  case begun => exact fun h n => (h.isViable.take n).reading_cases

/-- In `[1}` the brace is refused, and without it the array can be closed. -/
example : reading [0x5b, 0x31, 0x7d] = .error (.invalid 2) ∧
    reading [0x5b, 0x31] = .error .truncated := by
  decide

end ChatLink.Json
