import ChatLink.Proofs.Json.Listing

/-!
# What one byte does

`Lexer.Reads` lists everything that can happen between two states, with the bytes that are read by
it. A byte that is accepted does one of these things, or it ends a primitive first, which reads
nothing (`Lexer.reads_of_step`). So what each of them preserves, of the state and of the bytes that
were read, holds of every accepted text, well-formed or not (`Lexer.tokenize_induction`).
-/

namespace ChatLink.Json.Lexer

open ChatLink.Text

/-- The tokens with a new one that hangs from the anchor. -/
def hung (s : Lexer) (kind : Kind) (start stop : Nat) : Array Token :=
  countBelow (s.tokens.push ⟨kind, start, stop, 0, s.anchor⟩) s.anchor

/-- A token that is hung counts below the anchor and changes nothing else. -/
theorem getElem?_hung (s : Lexer) (kind : Kind) (start stop i : Nat) :
    (s.hung kind start stop)[i]? = (s.tokens.push ⟨kind, start, stop, 0, s.anchor⟩)[i]?.map fun t =>
      if s.anchor = some i then { t with size := t.size + 1 } else t := by
  unfold hung countBelow
  cases s.anchor with
  | none => simp
  | some j =>
    dsimp only
    rw [Array.getElem?_modify]
    by_cases hij : j = i
    · rw [if_pos hij]
      simp only [hij, if_true]
    · rw [if_neg hij]
      simp [hij]

@[simp] theorem size_hung (s : Lexer) (kind : Kind) (start stop : Nat) :
    (s.hung kind start stop).size = s.tokens.size + 1 := by
  unfold hung countBelow
  split <;> simp

/-- What can happen to a state, and the bytes that are read by it. -/
inductive Reads (capacity : Nat) (s : Lexer) : List UInt8 → Lexer → Prop where
  | blank {b : UInt8} : s.mode = .between → Sign.of b = .blank →
      Reads capacity s [b] (s.advance .between)
  | colon {b : UInt8} : s.mode = .between → Sign.of b = .colon →
      Reads capacity s [b] (s.awaitValue.advance .between)
  | comma {b : UInt8} : s.mode = .between → Sign.of b = .comma →
      Reads capacity s [b] (s.nextMember.advance .between)
  | opening {b : UInt8} {kind : Kind} : s.mode = .between → Sign.of b = .opening kind →
      s.takesValue → s.tokens.size < capacity →
        Reads capacity s [b] ⟨s.position + 1, s.hung kind s.position s.position,
          some s.tokens.size, s.tokens.size :: s.opened, .between⟩
  | closing {b : UInt8} {i : Nat} {outer : List Nat} {t : Token} : s.mode = .between →
      Sign.of b = .closing t.kind → s.opened = i :: outer → s.tokens[i]? = some t →
        Reads capacity s [b] ⟨s.position + 1,
          s.tokens.modify i fun t => { t with stop := s.position + 1 }, t.parent, outer, .between⟩
  | quote {b : UInt8} : s.mode = .between → Sign.of b = .quote →
      Reads capacity s [b] (s.advance (.string (s.position + 1)))
  | plain {start : Nat} {b : UInt8} : s.mode = .string start → b ≠ 0x22 → b ≠ 0x5c →
      Reads capacity s [b] (s.advance (.string start))
  | backslash {start : Nat} : s.mode = .string start →
      Reads capacity s [0x5c] (s.advance (.escape start))
  | short {start : Nat} {b : UInt8} : s.mode = .escape start → isShortEscape b →
      Reads capacity s [b] (s.advance (.string start))
  | unicode {start : Nat} : s.mode = .escape start →
      Reads capacity s [0x75] (s.advance (.digits start 4))
  | digit {start left : Nat} {b : UInt8} : s.mode = .digits start left → isHex b →
      Reads capacity s [b]
        (s.advance (if left ≤ 1 then .string start else .digits start (left - 1)))
  | unquote {start : Nat} : s.mode = .string start → s.tokens.size < capacity →
      Reads capacity s [0x22] ⟨s.position + 1, s.hung .string start s.position, s.anchor,
        s.opened, .between⟩
  | literal {b : UInt8} : s.mode = .between → Sign.of b = .primitive → s.takesValue →
      Reads capacity s [b] (s.advance (.primitive s.position))
  | more {start : Nat} {b : UInt8} : s.mode = .primitive start → goesOn b →
      Reads capacity s [b] (s.advance (.primitive start))
  | ended {start : Nat} : s.mode = .primitive start → s.tokens.size < capacity →
      Reads capacity s [] ⟨s.position, s.hung .primitive start s.position, s.anchor, s.opened,
        .between⟩

variable {capacity : Nat} {s s' : Lexer} {b : UInt8}

theorem exists_of_bind_eq_ok {α β : Type} {x : Except LexFault α} {f : α → Except LexFault β}
    {r : β} (h : x >>= f = .ok r) : ∃ a, x = .ok a ∧ f a = .ok r := by
  cases x with
  | error e => cases h
  | ok a => exact ⟨a, rfl, h⟩

theorem add_eq_ok {kind : Kind} {start stop : Nat} (h : s.add capacity kind start stop = .ok s') :
    s.tokens.size < capacity ∧ s' = { s with tokens := s.hung kind start stop } := by
  unfold add at h
  split at h
  · next hc =>
    cases h
    exact ⟨hc, rfl⟩
  · cases h

theorem endPrimitive_eq_ok {start : Nat} (hm : s.mode = .primitive start)
    (h : s.endPrimitive capacity start = .ok s') : Reads capacity s [] s' ∧ s'.mode = .between := by
  obtain ⟨m, ha, h⟩ := exists_of_bind_eq_ok h
  obtain ⟨hc, rfl⟩ := add_eq_ok ha
  cases h
  exact ⟨.ended hm hc, rfl⟩

theorem complete_eq_ok {tokens : Array Token} (h : s.complete = .ok tokens) :
    s.opened = [] ∧ s.tokens = tokens := by
  unfold complete at h
  split at h
  · next ho =>
    cases h
    exact ⟨List.isEmpty_iff.1 ho, rfl⟩
  · cases h

/-- At the end a primitive may still have to be ended. -/
theorem finish_eq_ok {tokens : Array Token} (h : s.finish capacity = .ok tokens) :
    ∃ m, (m = s ∨ Reads capacity s [] m) ∧ m.mode = .between ∧ m.opened = [] ∧
      m.tokens = tokens := by
  unfold finish at h
  split at h
  case h_1 hm => exact ⟨s, .inl rfl, hm, complete_eq_ok h⟩
  case h_2 start hm =>
    obtain ⟨m, he, h⟩ := exists_of_bind_eq_ok h
    obtain ⟨hr, hb⟩ := endPrimitive_eq_ok hm he
    exact ⟨m, .inr hr, hb, complete_eq_ok h⟩
  all_goals cases h

theorem reads_of_stepBetween (hm : s.mode = .between)
    (h : s.stepBetween capacity b = .ok s') : Reads capacity s [b] s' := by
  unfold stepBetween at h
  split at h
  case h_1 kind hb =>
    unfold openContainer at h
    split at h
    · next hv =>
      obtain ⟨m, ha, h⟩ := exists_of_bind_eq_ok h
      obtain ⟨m', ha, h'⟩ := exists_of_bind_eq_ok ha
      obtain ⟨hc, rfl⟩ := add_eq_ok ha
      cases h'
      cases h
      exact .opening hm hb hv hc
    · cases h
  case h_2 kind hb =>
    unfold closeContainer at h
    split at h
    · cases h
    · next i outer ho =>
      split at h
      · cases h
      · next t ht =>
        split at h
        · next hk =>
          cases h
          exact .closing hm (hk ▸ hb) ho ht
        · cases h
  case h_3 hb => cases h; exact .quote hm hb
  case h_4 hb => cases h; exact .colon hm hb
  case h_5 hb => cases h; exact .comma hm hb
  case h_6 hb => cases h; exact .blank hm hb
  case h_7 hb =>
    split at h
    · next hv => cases h; exact .literal hm hb hv
    · cases h
  case h_8 => cases h

/-- A byte that is accepted does one thing, unless it ends a primitive first. -/
theorem reads_of_step (h : s.step capacity b = .ok s') :
    Reads capacity s [b] s' ∨ ∃ m, Reads capacity s [] m ∧ Reads capacity m [b] s' := by
  unfold step at h
  split at h
  case h_1 hm => exact .inl (reads_of_stepBetween hm h)
  case h_2 start hm =>
    left
    split at h
    · next hb =>
      obtain ⟨m, ha, h⟩ := exists_of_bind_eq_ok h
      obtain ⟨hc, rfl⟩ := add_eq_ok ha
      cases h
      exact hb ▸ .unquote hm hc
    · next hq =>
      split at h
      · next hb => cases h; exact hb ▸ .backslash hm
      · next hs => cases h; exact .plain hm hq hs
  case h_3 start hm =>
    left
    split at h
    · next hb => cases h; exact hb ▸ .unicode hm
    · split at h
      · next hb => cases h; exact .short hm hb
      · cases h
  case h_4 start left hm =>
    left
    split at h
    · next hb => cases h; exact .digit hm hb
    · cases h
  case h_5 start hm =>
    split at h
    · right
      obtain ⟨m, he, h⟩ := exists_of_bind_eq_ok h
      obtain ⟨hr, hb⟩ := endPrimitive_eq_ok hm he
      exact ⟨m, hr, reads_of_stepBetween hb h⟩
    · next he =>
      left
      split at h
      · next hp => cases h; exact .more hm (by simp [goesOn, he, hp])
      · cases h

/-- A comma changes the anchor only. -/
theorem nextMember_eq (s : Lexer) : s.nextMember = { s with anchor := s.nextMember.anchor } := by
  unfold nextMember
  split
  · split <;> rfl
  · rfl

theorem Reads.position_eq {bytes : List UInt8} (h : Reads capacity s bytes s') :
    s'.position = s.position + bytes.length := by
  cases h with
  | comma => rw [nextMember_eq]; rfl
  | _ => rfl

/-- What holds at first, and is preserved by everything that can happen, holds after a run. -/
theorem run_induction {P : List UInt8 → Lexer → Prop}
    (reads : ∀ {done s bytes s'}, P done s → Reads capacity s bytes s' → P (done ++ bytes) s')
    {text done : List UInt8} (h : P done s) (hr : s.run capacity text = .ok s') :
    P (done ++ text) s' := by
  induction text generalizing s done with
  | nil =>
    cases hr
    rwa [List.append_nil]
  | cons b text ih =>
    rw [run, List.foldlM_cons] at hr
    obtain ⟨m, hs, hr⟩ := exists_of_bind_eq_ok hr
    have hm : P (done ++ [b]) m := by
      rcases reads_of_step hs with hb | ⟨k, he, hb⟩
      · exact reads h hb
      · simpa using reads (reads h he) hb
    simpa using ih hm hr

/-- What holds at first, and is preserved by everything that can happen, holds of a text that has
tokens, where no container is open any more. -/
theorem tokenize_induction {P : List UInt8 → Lexer → Prop} (start : P [] initial)
    (reads : ∀ {done s bytes s'}, P done s → Reads capacity s bytes s' → P (done ++ bytes) s')
    {text : List UInt8} {tokens : Array Token} (h : tokenize capacity text = .ok tokens) :
    ∃ s : Lexer, P text s ∧ s.mode = .between ∧ s.opened = [] ∧ s.tokens = tokens := by
  obtain ⟨s, hr, h⟩ := exists_of_bind_eq_ok h
  have hs : P text s := run_induction reads start hr
  obtain ⟨m, hm, hend⟩ := finish_eq_ok h
  refine ⟨m, ?_, hend⟩
  rcases hm with rfl | hm
  · exact hs
  · simpa using reads hs hm

end ChatLink.Json.Lexer
