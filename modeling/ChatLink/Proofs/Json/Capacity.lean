import ChatLink.Proofs.Json.Refusal

/-!
# Just enough capacity

What was done with some capacity is done with any other one that holds the tokens that there are
afterwards (`Lexer.Admits`), since tokens are never taken away. So an accepted text needs as much
capacity as it has tokens, and no more (`size_le_of_tokenize`, `tokenize_size`).
-/

namespace ChatLink.Json

namespace Lexer

variable {capacity limit : Nat} {s s' : Lexer} {text : List UInt8}

/-! ## Tokens are never taken away -/

theorem Reads.size_le {bytes : List UInt8} (h : Reads capacity s bytes s') :
    s.tokens.size ≤ s'.tokens.size := by
  cases h with
  | comma => rw [nextMember_eq]; exact Nat.le_refl _
  | opening | unquote | ended => simp
  | closing => simp
  | _ => exact Nat.le_refl _

theorem size_le_of_stepBetween {b : UInt8} (hm : s.mode = .between)
    (h : s.stepBetween capacity b = .ok s') : s.tokens.size ≤ s'.tokens.size :=
  (reads_of_stepBetween hm h).size_le

theorem size_le_of_run (h : s.run capacity text = .ok s') : s.tokens.size ≤ s'.tokens.size := by
  let P : List UInt8 → Lexer → Prop := fun _ m => s.tokens.size ≤ m.tokens.size
  have hs : P [] s := Nat.le_refl _
  exact @run_induction _ _ _ P (fun hm hr => Nat.le_trans hm hr.size_le) _ [] hs h

/-! ## Capacity for what there is afterwards -/

/-- What succeeds and has no more tokens than the limit allows succeeds with the limit as well. -/
def Admits (limit : Nat) (x y : Except LexFault Lexer) : Prop :=
  ∀ s, x = .ok s → s.tokens.size ≤ limit → y = .ok s

theorem Admits.rfl {x : Except LexFault Lexer} : Admits limit x x := fun _ h _ => h

/-- Two steps, of which the second takes no tokens away. -/
theorem Admits.bind {x y : Except LexFault Lexer} {f g : Lexer → Except LexFault Lexer}
    (h : Admits limit x y) (hf : ∀ a, x = .ok a → Admits limit (f a) (g a))
    (hle : ∀ a r, x = .ok a → f a = .ok r → a.tokens.size ≤ r.tokens.size) :
    Admits limit (x >>= f) (y >>= g) := by
  intro r hr hlimit
  obtain ⟨a, ha, hr⟩ := exists_of_bind_eq_ok hr
  rw [h a ha (Nat.le_trans (hle a r ha hr) hlimit)]
  exact hf a ha r hr hlimit

/-- Two steps, of which the second changes no tokens. -/
theorem Admits.map {x y : Except LexFault Lexer} {f : Lexer → Lexer} (h : Admits limit x y)
    (hf : ∀ a, (f a).tokens = a.tokens) :
    Admits limit (do return f (← x)) (do return f (← y)) :=
  h.bind (fun _ _ => .rfl) fun a r _ hr => by
    cases hr
    rw [hf]

theorem admits_add (s : Lexer) (kind : Kind) (start stop : Nat) :
    Admits limit (s.add capacity kind start stop) (s.add limit kind start stop) := by
  intro r hr hlimit
  obtain ⟨-, rfl⟩ := add_eq_ok hr
  rw [size_hung] at hlimit
  exact add_eq hlimit

theorem admits_endPrimitive (s : Lexer) (start : Nat) :
    Admits limit (s.endPrimitive capacity start) (s.endPrimitive limit start) :=
  (admits_add s _ _ _).map fun _ => rfl

theorem admits_stepBetween (s : Lexer) (b : UInt8) :
    Admits limit (s.stepBetween capacity b) (s.stepBetween limit b) := by
  unfold stepBetween
  split
  case h_1 kind hb =>
    refine Admits.map ?_ fun _ => rfl
    unfold openContainer
    split
    · exact (admits_add s _ _ _).map fun _ => rfl
    · exact .rfl
  all_goals exact .rfl

theorem admits_step (s : Lexer) (b : UInt8) :
    Admits limit (s.step capacity b) (s.step limit b) := by
  unfold step
  split
  case h_1 => exact admits_stepBetween s b
  case h_2 start hm =>
    split
    · exact (admits_add s _ _ _).map fun _ => rfl
    · exact .rfl
  case h_5 start hm =>
    split
    · refine (admits_endPrimitive s start).bind (fun m _ => admits_stepBetween m b) ?_
      exact fun m r he hr => size_le_of_stepBetween (endPrimitive_eq_ok hm he).2 hr
    · exact .rfl
  all_goals exact .rfl

theorem admits_run (s : Lexer) (text : List UInt8) :
    Admits limit (s.run capacity text) (s.run limit text) := by
  induction text generalizing s with
  | nil => exact .rfl
  | cons b text ih =>
    rw [run, run, List.foldlM_cons, List.foldlM_cons]
    exact (admits_step s b).bind (fun m _ => ih m) fun m r _ hr => size_le_of_run hr

theorem admits_finish (s : Lexer) {tokens : Array Token} (h : s.finish capacity = .ok tokens)
    (hlimit : tokens.size ≤ limit) :
    s.finish limit = .ok tokens ∧ s.tokens.size ≤ limit := by
  unfold finish at h ⊢
  cases hm : s.mode with
  | between =>
    rw [hm] at h
    refine ⟨h, ?_⟩
    rw [(complete_eq_ok h).2]
    exact hlimit
  | primitive start =>
    rw [hm] at h
    obtain ⟨m, he, h⟩ := exists_of_bind_eq_ok h
    have hsize : m.tokens.size ≤ limit := by
      rw [(complete_eq_ok h).2]
      exact hlimit
    dsimp only
    rw [admits_endPrimitive s start m he hsize]
    exact ⟨h, Nat.le_trans (endPrimitive_eq_ok hm he).1.size_le hsize⟩
  | string _ | escape _ | digits _ _ =>
    rw [hm] at h
    cases h

/-- No capacity is smaller than the tokens that it lets in. -/
theorem Reads.size_le_capacity {bytes : List UInt8} (hs : s.tokens.size ≤ capacity)
    (h : Reads capacity s bytes s') : s'.tokens.size ≤ capacity := by
  cases h with
  | comma => rw [nextMember_eq]; exact hs
  | opening _ _ _ hc | unquote _ hc | ended _ hc => rw [size_hung]; exact hc
  | closing => rw [Array.size_modify]; exact hs
  | _ => exact hs

end Lexer

variable {capacity : Nat} {text : List UInt8} {tokens : Array Token}

theorem size_le_of_tokenize (h : tokenize capacity text = .ok tokens) :
    tokens.size ≤ capacity := by
  obtain ⟨s, hs, -, -, rfl⟩ := Lexer.tokenize_induction
    (P := fun _ s => s.tokens.size ≤ capacity) (Nat.zero_le _)
    (fun hs hr => hr.size_le_capacity hs) h
  exact hs

/-- An accepted text is accepted with as much capacity as it has tokens. -/
theorem tokenize_size (h : tokenize capacity text = .ok tokens) :
    tokenize tokens.size text = .ok tokens := by
  obtain ⟨s, hr, hf⟩ := Lexer.exists_of_bind_eq_ok h
  obtain ⟨hfinish, hsize⟩ := s.admits_finish hf (Nat.le_refl _)
  rw [tokenize, Lexer.admits_run _ _ s hr hsize]
  exact hfinish

end ChatLink.Json
