import ChatLink.Json.Turns
import ChatLink.Proofs.Json.Links

/-!
# Every turn gets on

A reader that takes turns comes to the same tokens and the same faults as the lexer that takes one
byte at a time (`tokenizeInTurns_eq`). A string that is read ahead is what the lexer reads in its
modes for strings, and a closing bracket finds the container that the lexer has in its list. In
particular no turn steps back from offset 0 and no link that is followed leads astray, each turn
moves the position on, and none moves it behind the end of the text (`Lexer.Comes.proceeds`).
-/

namespace ChatLink.Json

open ChatLink.Text

namespace Lexer

variable {capacity : Nat} {text : List UInt8} {s s' m : Lexer} {b : UInt8}

/-! ## The rest of a run -/

/-- What the run over the rest of the text comes to. -/
def outcome (capacity : Nat) (text : List UInt8) (s : Lexer) : Except LexFault (Array Token) := do
  (← s.run capacity (text.drop s.position)).finish capacity

/-- The second state comes later in the same run. -/
structure Onward (capacity : Nat) (text : List UInt8) (s s' : Lexer) : Prop where
  sound : s.Sound → s'.Sound
  inside : s.position ≤ text.length → s'.position ≤ text.length
  outcome_eq : s.outcome capacity text = s'.outcome capacity text

/-- The run goes on in this state, or it ends with this fault. -/
def Goes (capacity : Nat) (text : List UInt8) (s : Lexer) : Except LexFault Lexer → Prop
  | .ok s' => Onward capacity text s s'
  | .error fault => s.outcome capacity text = .error fault

theorem Onward.refl (s : Lexer) : Onward capacity text s s := ⟨id, id, rfl⟩

theorem Goes.trans {x : Except LexFault Lexer} (h : Goes capacity text s (.ok m))
    (hx : Goes capacity text m x) : Goes capacity text s x := by
  cases x with
  | error fault => exact h.outcome_eq.trans hx
  | ok s' => exact ⟨hx.sound ∘ h.sound, hx.inside ∘ h.inside, h.outcome_eq.trans hx.outcome_eq⟩

theorem Goes.bind {α : Type} {x : Except LexFault α} {put : α → Lexer}
    {f : α → Except LexFault Lexer} (h : Goes capacity text s (x.map put))
    (hf : ∀ a, x = .ok a → Goes capacity text (put a) (f a)) : Goes capacity text s (x >>= f) := by
  cases x with
  | error fault => exact h
  | ok a => exact Goes.trans h (hf a rfl)

theorem position_of_step (h : s.step capacity b = .ok s') : s'.position = s.position + 1 := by
  rcases reads_of_step h with hr | ⟨m, hm, hr⟩
  · exact hr.position_eq
  · rw [hr.position_eq, hm.position_eq]
    rfl

/-- At the end of the text nothing is left to be read. -/
theorem outcome_of_end (hb : text[s.position]? = none) :
    s.outcome capacity text = s.finish capacity := by
  rw [outcome, List.drop_eq_nil_of_le (List.getElem?_eq_none_iff.1 hb)]
  rfl

theorem bind_congr_ok {α β : Type} {x : Except LexFault α} {f g : α → Except LexFault β}
    (h : ∀ a, x = .ok a → f a = g a) : x >>= f = x >>= g := by
  cases x with
  | error fault => rfl
  | ok a => exact h a rfl

/-- The next byte is read. -/
theorem outcome_of_byte (hb : text[s.position]? = some b) :
    s.outcome capacity text = s.step capacity b >>= (·.outcome capacity text) := by
  obtain ⟨hlt, hget⟩ := List.getElem?_eq_some_iff.1 hb
  rw [outcome, List.drop_eq_getElem_cons hlt, hget, run, List.foldlM_cons, bind_assoc]
  refine bind_congr_ok fun m hm => ?_
  rw [outcome, position_of_step hm]
  rfl

theorem goes_step (hb : text[s.position]? = some b) :
    Goes capacity text s (s.step capacity b) := by
  have houtcome : s.outcome capacity text = _ := outcome_of_byte hb
  cases hs : s.step capacity b with
  | error fault =>
    rw [hs] at houtcome
    exact houtcome
  | ok s' =>
    rw [hs] at houtcome
    refine ⟨(·.step hs), fun _ => ?_, houtcome⟩
    rw [position_of_step hs]
    exact (List.getElem?_eq_some_iff.1 hb).1

/-! ## Looking ahead -/

/-- The state at another offset, in another mode. -/
def put (s : Lexer) (position : Nat) (mode : Mode) : Lexer :=
  { s with position := position, mode := mode }

theorem position_put (s : Lexer) (i : Nat) (mode : Mode) : (s.put i mode).position = i := rfl

section Ahead

variable (s) (start i : Nat)

theorem step_put_string (b : UInt8) : (s.put i (.string start)).step capacity b =
    if b = 0x22 then do
      return (← (s.put i (.string start)).add capacity .string start i).advance .between
    else if b = 0x5c then .ok (s.put (i + 1) (.escape start))
    else .ok (s.put (i + 1) (.string start)) := rfl

theorem step_put_escape (b : UInt8) : (s.put i (.escape start)).step capacity b =
    if b = 0x75 then .ok (s.put (i + 1) (.digits start 4))
    else if isShortEscape b then .ok (s.put (i + 1) (.string start))
    else .error (.invalid i) := rfl

theorem step_put_digits (left : Nat) (b : UInt8) :
    (s.put i (.digits start left)).step capacity b =
      if isHex b then
        .ok (s.put (i + 1) (if left ≤ 1 then .string start else .digits start (left - 1)))
      else .error (.invalid i) := rfl

theorem step_put_primitive {b : UInt8} (he : endsPrimitive b = false) :
    (s.put i (.primitive start)).step capacity b =
      if isPrintable b then .ok (s.put (i + 1) (.primitive start))
      else .error (.invalid i) := by
  show (if endsPrimitive b then _ else _) = _
  rw [if_neg (by simp [he])]
  rfl

theorem goes_put {mode : Mode} {x : Except LexFault Lexer} (hb : text[i]? = some b)
    (h : (s.put i mode).step capacity b = x) : Goes capacity text (s.put i mode) x :=
  h ▸ goes_step hb

theorem goes_hexEnd (left : Nat) :
    Goes capacity text (s.put i (.digits start (left + 1)))
      ((hexEnd text i (left + 1)).map (s.put · (.string start))) := by
  induction left generalizing i with
  | zero =>
    unfold hexEnd
    split
    · next hb => exact outcome_of_end hb
    · next b hb =>
      refine goes_put s i hb ?_
      rw [step_put_digits]
      split <;> rfl
  | succ left ih =>
    unfold hexEnd
    split
    · next hb => exact outcome_of_end hb
    · next b hb =>
      split
      · next hx =>
        refine (goes_put s i hb ?_).trans (ih (i + 1))
        rw [step_put_digits, if_pos hx, if_neg (by omega)]
        rfl
      · next hx => exact goes_put s i hb (by rw [step_put_digits, if_neg hx]; rfl)

theorem goes_escapeEnd :
    Goes capacity text (s.put i (.escape start))
      ((escapeEnd text i).map (s.put · (.string start))) := by
  unfold escapeEnd
  split
  · next hb => exact outcome_of_end hb
  · next b hb =>
    split
    · next hu =>
      exact (goes_put s i hb (by rw [step_put_escape, if_pos hu])).trans
        (goes_hexEnd s start (i + 1) 3)
    · next hu =>
      refine goes_put s i hb ?_
      rw [step_put_escape, if_neg hu]
      split <;> rfl

/-- A backslash and what it escapes. -/
theorem goes_backslash (hb : text[i]? = some 0x5c) :
    Goes capacity text (s.put i (.string start))
      ((escapeEnd text (i + 1)).map (s.put · (.string start))) := by
  refine (goes_put s i hb ?_).trans (goes_escapeEnd s start (i + 1))
  rw [step_put_string, if_neg (by decide), if_pos rfl]

/-- The lexer is in its modes for strings until it comes to the quote that ends the string. -/
theorem goes_quoteFrom :
    Goes capacity text (s.put i (.string start))
      ((quoteFrom text i).map (s.put · (.string start))) := by
  fun_induction quoteFrom text i with
  | case1 i hb => exact outcome_of_end hb
  | case2 i => exact Onward.refl _
  | case3 i fault he hb =>
    have hescape : Goes capacity text _ _ := goes_backslash s start i hb
    rw [he] at hescape
    exact hescape
  | case4 i j he _ hb _ _ ih =>
    have hescape : Goes capacity text _ _ := goes_backslash s start i hb
    rw [he] at hescape
    exact hescape.trans ih
  | case5 i b hb _ hq hs ih =>
    exact (goes_put s i hb (by rw [step_put_string, if_neg hq, if_neg hs])).trans ih

/-- The lexer stays in its mode for primitives until it comes to the end of the literal. -/
theorem goes_literalEnd :
    Goes capacity text (s.put i (.primitive start))
      ((literalEnd text i).map (s.put · (.primitive start))) := by
  fun_induction literalEnd text i with
  | case1 i | case2 i => exact Onward.refl _
  | case3 i b hb _ he hp ih =>
    refine (goes_put s i hb ?_).trans ih
    rw [step_put_primitive s start i (by simpa using he), if_pos hp]
  | case4 i b hb _ he hp =>
    refine goes_put s i hb ?_
    rw [step_put_primitive s start i (by simpa using he), if_neg hp]
    rfl

end Ahead

theorem getElem?_of_quoteFrom {i stop : Nat} (h : quoteFrom text i = .ok stop) :
    text[stop]? = some 0x22 := by
  fun_induction quoteFrom text i with
  | case2 i hb =>
    cases h
    exact hb
  | case4 i j he _ hb _ hq ih => exact ih h
  | case5 i b hb _ hq hs ih => exact ih h
  | case1 | case3 => cases h

theorem endsPrimitive_of_literalEnd {i stop : Nat} (h : literalEnd text i = .ok stop) :
    ∀ b ∈ text[stop]?, endsPrimitive b := by
  fun_induction literalEnd text i with
  | case1 i hb =>
    cases h
    simp [hb]
  | case2 i b hb _ he =>
    cases h
    simpa [hb] using he
  | case3 i b hb _ he hp ih => exact ih h
  | case4 => cases h

/-- Where a literal ends, its token is hung, before the next byte is looked at. -/
theorem goes_endPrimitive {start : Nat} (hm : s.mode = .primitive start)
    (h : ∀ b ∈ text[s.position]?, endsPrimitive b) :
    Goes capacity text s (s.endPrimitive capacity start) := by
  have hreads : ∀ m, s.endPrimitive capacity start = .ok m →
      Reads capacity s [] m ∧ m.mode = .between ∧ m.position = s.position := fun m he =>
    have ⟨hr, hmode⟩ := endPrimitive_eq_ok hm he
    ⟨hr, hmode, hr.position_eq⟩
  have houtcome : s.outcome capacity text =
      s.endPrimitive capacity start >>= (·.outcome capacity text) := by
    cases hb : text[s.position]? with
    | none =>
      have hfinish : s.finish capacity = s.endPrimitive capacity start >>= complete := by
        rw [finish, hm]
      rw [outcome_of_end hb, hfinish]
      refine bind_congr_ok fun m he => ?_
      obtain ⟨-, hmode, hposition⟩ := hreads m he
      rw [outcome_of_end (hposition ▸ hb), finish, hmode]
    | some b =>
      have hstep : s.step capacity b =
          s.endPrimitive capacity start >>= (·.stepBetween capacity b) := by
        rw [step, hm]
        exact if_pos (h b hb)
      rw [outcome_of_byte hb, hstep, bind_assoc]
      refine bind_congr_ok fun m he => ?_
      obtain ⟨-, hmode, hposition⟩ := hreads m he
      rw [outcome_of_byte (hposition ▸ hb), step, hmode]
  cases he : s.endPrimitive capacity start with
  | error fault =>
    rw [he] at houtcome
    exact houtcome
  | ok m =>
    rw [he] at houtcome
    obtain ⟨hr, -, hposition⟩ := hreads m he
    exact ⟨(·.reads hr), (hposition ▸ ·), houtcome⟩

/-! ## Closing brackets -/

/-- Where all links lead back, following them does not lead astray. -/
theorem climb_eq {tokens : Array Token} (hback : ∀ j i, Hangs tokens j i → i < j) (i : Nat) :
    climb tokens i = .ok (unclosed? tokens i) := by
  fun_induction climb tokens i with
  | case1 i ht => rw [unclosed?, ht]
  | case2 i t ht hu =>
    rw [unclosed?, ht]
    simp only [if_pos hu]
  | case3 i t ht hu hp =>
    rw [unclosed?, ht]
    simp only [if_neg hu, hp]
  | case4 i t ht hu j hp hj ih =>
    rw [ih, unclosed?.eq_def tokens i, ht]
    simp only [if_neg hu, hp, if_pos hj]
  | case5 i t ht hu j hp hj => exact absurd (hback i j ((hangs_iff ht).2 hp)) hj

theorem closeClimbing_eq (h : s.Sound) (kind : Kind) :
    s.closeClimbing kind = (s.closeContainer kind).mapError .fault := by
  rw [← closeLinked_eq h.2 h.1, closeClimbing, closeLinked]
  cases hsize : s.tokens.size with
  | zero =>
    rw [unclosed?, Array.getElem?_eq_none (by omega)]
    rfl
  | succ newest =>
    rw [Nat.add_sub_cancel]
    simp only [back?, climb_eq h.2.back]
    cases unclosed? s.tokens newest with
    | none => rfl
    | some i =>
      dsimp only
      cases s.tokens[i]? with
      | none => rfl
      | some t =>
        dsimp only
        split <;> rfl

/-! ## Turns -/

theorem eq_advance (hm : s.mode = .between) :
    { s with position := s.position + 1 } = s.advance .between := by
  rw [advance, ← hm]

theorem mode_of_add {kind : Kind} {start stop : Nat}
    (h : s.add capacity kind start stop = .ok s') : s'.mode = s.mode := by
  obtain ⟨-, rfl⟩ := add_eq_ok h
  rfl

theorem mode_of_closeContainer {kind : Kind} (h : s.closeContainer kind = .ok s') :
    s'.mode = s.mode := by
  unfold closeContainer at h
  repeat' split at h
  all_goals cases h
  rfl

theorem add_put (s : Lexer) (i : Nat) (mode : Mode) (kind : Kind) (start stop : Nat) :
    (s.put i mode).add capacity kind start stop =
      (s.add capacity kind start stop).map (·.put i mode) := by
  by_cases hc : s.tokens.size < capacity
  · simp [add, put, hc, Except.map]
  · simp [add, put, hc, Except.map]

/-- What a turn comes to, in the words of the lexer that takes one byte at a time. -/
structure Turns (capacity : Nat) (text : List UInt8) (s : Lexer) (b : UInt8)
    (x : Except LexFault Lexer) : Prop where
  turn_eq : s.turn capacity text b = x.mapError .fault
  goes : Goes capacity text s x
  mode_eq (s' : Lexer) (h : x = .ok s') : s'.mode = .between

/-- A turn that reads neither a string nor a literal reads one byte. -/
theorem turns_of_step {x : Except LexFault Lexer} (hb : text[s.position]? = some b)
    (hact : s.act capacity text b = x.mapError .fault)
    (hstep : s.step capacity b = do return (← x).advance .between)
    (hmode : ∀ m, x = .ok m → m.mode = .between) : s.Turns capacity text b (s.step capacity b) := by
  refine ⟨?_, goes_step hb, fun s' h => ?_⟩
  · rw [turn, hact, hstep]
    cases x with
    | error fault => rfl
    | ok m =>
      show Except.ok _ = Except.ok _
      rw [eq_advance (hmode m rfl)]
  · rw [hstep] at h
    obtain ⟨m, -, h⟩ := exists_of_bind_eq_ok h
    cases h
    rfl

/-- A string is read, and the quote that ends it. -/
theorem turns_string (hm : s.mode = .between) (hb : text[s.position]? = some b)
    (hs : Sign.of b = .quote) :
    s.Turns capacity text b (quoteFrom text (s.position + 1) >>= fun stop =>
      (s.put stop (.string (s.position + 1))).step capacity 0x22) := by
  have hquote : Goes capacity text s (.ok (s.put (s.position + 1) (.string (s.position + 1)))) := by
    have hstep : Goes capacity text s _ := goes_step hb
    rw [step, hm] at hstep
    dsimp only at hstep
    rw [stepBetween, hs] at hstep
    exact hstep
  constructor
  case turn_eq =>
    rw [turn, act, hs]
    dsimp only
    cases quoteFrom text (s.position + 1) with
    | error fault => rfl
    | ok stop =>
      simp only [Except.mapError, bind, Except.bind, step_put_string, if_true, add_put]
      cases ha : s.add capacity .string (s.position + 1) stop with
      | error fault => rfl
      | ok m =>
        show Except.ok _ = Except.ok (m.put (stop + 1) .between)
        rw [put, ← hm, ← mode_of_add ha]
  case goes =>
    refine hquote.trans ((goes_quoteFrom s _ _).bind fun stop hstop => ?_)
    exact goes_put s stop (getElem?_of_quoteFrom hstop) rfl
  case mode_eq =>
    intro s' h
    obtain ⟨stop, -, h⟩ := exists_of_bind_eq_ok h
    rw [step_put_string, if_pos rfl] at h
    obtain ⟨m, -, h⟩ := exists_of_bind_eq_ok h
    cases h
    rfl

/-- A literal is read, and the byte that ends it is left. -/
theorem turns_literal (hm : s.mode = .between) (hb : text[s.position]? = some b)
    (hs : Sign.of b = .primitive) (hv : s.takesValue) :
    s.Turns capacity text b (literalEnd text s.position >>= fun stop =>
      (s.put stop (.primitive s.position)).endPrimitive capacity s.position) := by
  have hfirst : Goes capacity text s (.ok (s.put (s.position + 1) (.primitive s.position))) := by
    have hstep : Goes capacity text s _ := goes_step hb
    rw [step, hm] at hstep
    dsimp only at hstep
    rw [stepBetween, hs] at hstep
    dsimp only at hstep
    rwa [if_pos hv] at hstep
  constructor
  case turn_eq =>
    rw [turn, act, hs]
    dsimp only
    rw [if_pos hv]
    cases hl : literalEnd text s.position with
    | error fault => rfl
    | ok stop =>
      obtain ⟨last, rfl⟩ : ∃ last, stop = last + 1 :=
        Nat.exists_eq_add_one.2 (Nat.zero_lt_of_lt (lt_of_literalEnd hb hs hl))
      simp only [Except.mapError, bind, Except.bind, endPrimitive, add_put, position_put]
      cases ha : s.add capacity .primitive s.position (last + 1) with
      | error fault => rfl
      | ok m =>
        show Except.ok _ = Except.ok (m.put (last + 1) .between)
        rw [put, ← hm, ← mode_of_add ha]
  case goes =>
    rw [literalEnd_eq hb hs]
    refine hfirst.trans ((goes_literalEnd s _ _).bind fun stop hstop => ?_)
    exact goes_endPrimitive rfl (endsPrimitive_of_literalEnd hstop)
  case mode_eq =>
    intro s' h
    obtain ⟨stop, -, h⟩ := exists_of_bind_eq_ok h
    exact (endPrimitive_eq_ok rfl h).2

/-- Every turn can be told in the words of the lexer that takes one byte at a time. -/
theorem exists_turns (h : s.Sound) (hm : s.mode = .between) (hb : text[s.position]? = some b) :
    ∃ x, s.Turns capacity text b x := by
  have hbetween : s.step capacity b = s.stepBetween capacity b := by rw [step, hm]
  cases hs : Sign.of b with
  | opening kind =>
    refine ⟨_, turns_of_step hb (x := s.openContainer capacity kind) (by rw [act, hs]) ?_
      fun m ho => (stays_of_openContainer ho).2.trans hm⟩
    rw [hbetween, stepBetween, hs]
  | closing kind =>
    refine ⟨_, turns_of_step hb (x := s.closeContainer kind) ?_ ?_
      fun m ho => (mode_of_closeContainer ho).trans hm⟩
    · rw [act, hs]
      exact closeClimbing_eq h kind
    · rw [hbetween, stepBetween, hs]
  | quote => exact ⟨_, turns_string hm hb hs⟩
  | colon =>
    refine ⟨_, turns_of_step hb (x := .ok s.awaitValue) (by rw [act, hs]; rfl) ?_ ?_⟩
    · rw [hbetween, stepBetween, hs]
      rfl
    · rintro m ⟨⟩
      exact hm
  | comma =>
    refine ⟨_, turns_of_step hb (x := .ok s.nextMember) (by rw [act, hs]; rfl) ?_ ?_⟩
    · rw [hbetween, stepBetween, hs]
      rfl
    · rintro m ⟨⟩
      rw [nextMember_eq]
      exact hm
  | blank =>
    refine ⟨_, turns_of_step hb (x := .ok s) (by rw [act, hs]; rfl) ?_ ?_⟩
    · rw [hbetween, stepBetween, hs]
      rfl
    · rintro m ⟨⟩
      exact hm
  | primitive =>
    by_cases hv : s.takesValue
    · exact ⟨_, turns_literal hm hb hs hv⟩
    · refine ⟨_, turns_of_step hb (x := .error (.invalid s.position)) ?_ ?_ fun m h => by cases h⟩
      · rw [act, hs]
        exact if_neg hv
      · rw [hbetween, stepBetween, hs]
        exact if_neg hv
  | other =>
    refine ⟨_, turns_of_step hb (x := .error (.invalid s.position)) (by rw [act, hs]; rfl) ?_
      fun m h => by cases h⟩
    rw [hbetween, stepBetween, hs]
    rfl

/-- The states in which a turn begins. -/
inductive Comes (capacity : Nat) (text : List UInt8) : Lexer → Prop where
  | initial : Comes capacity text initial
  | turn {s s' : Lexer} {b : UInt8} (h : Comes capacity text s) (hb : text[s.position]? = some b)
      (ht : s.turn capacity text b = .ok s') : Comes capacity text s'

/-- What holds where a turn begins. -/
structure Ready (text : List UInt8) (s : Lexer) : Prop where
  sound : s.Sound
  mode_eq : s.mode = .between
  position_le : s.position ≤ text.length

theorem ready_initial : Ready text initial := ⟨sound_initial, rfl, Nat.zero_le _⟩

theorem Ready.turn (h : Ready text s) (hb : text[s.position]? = some b)
    (ht : s.turn capacity text b = .ok s') :
    Ready text s' ∧ s.outcome capacity text = s'.outcome capacity text := by
  obtain ⟨x, hx⟩ := exists_turns h.sound h.mode_eq hb
  rw [hx.turn_eq] at ht
  obtain rfl := eq_ok_of_mapError ht
  exact ⟨⟨hx.goes.sound h.sound, hx.mode_eq s' rfl, hx.goes.inside h.position_le⟩,
    hx.goes.outcome_eq⟩

theorem Ready.halt {halt : Halt} (h : Ready text s) (hb : text[s.position]? = some b)
    (ht : s.turn capacity text b = .error halt) :
    ∃ fault, halt = .fault fault ∧ s.outcome capacity text = .error fault := by
  obtain ⟨x, hx⟩ := exists_turns h.sound h.mode_eq hb
  rw [hx.turn_eq] at ht
  cases x with
  | error fault =>
    cases ht
    exact ⟨fault, rfl, hx.goes⟩
  | ok m => cases ht

theorem Comes.ready (h : Comes capacity text s) : Ready text s := by
  induction h with
  | initial => exact ready_initial
  | turn _ hb ht ih => exact (ih.turn hb ht).1

/-- What a reader that takes turns relies on. -/
structure Proceeds (capacity : Nat) (text : List UInt8) (s : Lexer) : Prop where
  position_le : s.position ≤ text.length
  /-- A turn moves the position on. -/
  lt (b : UInt8) (s' : Lexer) (hb : text[s.position]? = some b)
    (ht : s.turn capacity text b = .ok s') : s.position < s'.position
  /-- It has a result unless something is wrong with the text. -/
  fault (b : UInt8) (halt : Halt) (hb : text[s.position]? = some b)
    (ht : s.turn capacity text b = .error halt) : ∃ fault, halt = .fault fault
  /-- Whoever follows links comes to ever earlier tokens. -/
  back (i j : Nat) (t : Token) (ht : s.tokens[i]? = some t) (hp : t.parent = some j) : j < i

theorem Comes.proceeds (h : Comes capacity text s) : Proceeds capacity text s where
  position_le := h.ready.position_le
  lt _ _ hb ht := position_lt_of_turn hb ht
  fault _ _ hb ht := (h.ready.halt hb ht).imp fun _ => And.left
  back i j _ ht hp := h.ready.sound.2.back i j ((hangs_iff ht).2 hp)

theorem turns_eq (h : Ready text s) :
    s.turns capacity text = (s.outcome capacity text).mapError .fault := by
  fun_induction turns capacity text s with
  | case1 s hb =>
    rw [completeLinked_eq h.sound.2 h.sound.1, outcome_of_end hb, finish, h.mode_eq]
  | case2 s b hb halt ht =>
    obtain ⟨fault, rfl, houtcome⟩ := h.halt hb ht
    rw [houtcome]
    rfl
  | case3 s b hb s' ht _ _ ih =>
    obtain ⟨hready, houtcome⟩ := h.turn hb ht
    rw [houtcome, ih hready]

end Lexer

/-- Reading in turns comes to the same, and has no mishaps. -/
theorem tokenizeInTurns_eq (capacity : Nat) (text : List UInt8) :
    tokenizeInTurns capacity text = (tokenize capacity text).mapError .fault :=
  Lexer.turns_eq Lexer.ready_initial

end ChatLink.Json
