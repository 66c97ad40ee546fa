import ChatLink.Proofs.Event.Forwarding
import Mathlib.Data.Nat.Digits.Defs

/-!
# What a timestamp counts as

A literal falls apart in one way only into blanks, a sign, digits and a rest, each as long as can be
(`Timestamp.Parts`). The sign and the digits denote an integer, of any size, and the timestamp is
this integer, moved to the nearest end of the 64-bit range if it lies outside (`Timestamp.Counts`) :
however many digits there are, nothing wraps.

`Frame.counts_leading` says this of every literal, of the timestamp of every frame that carries an
event, and of the decimal text of every timestamp, which counts as the timestamp itself.
-/

namespace ChatLink

open ChatLink.Text

namespace Timestamp

/-! ## The parts of a literal -/

/-- A literal taken apart : blanks, a sign, digits and what is left, each as long as can be. -/
structure Parts (literal : List UInt8) where
  blanks : List UInt8
  sign : List UInt8
  digits : List UInt8
  rest : List UInt8
  eq : blanks ++ (sign ++ (digits ++ rest)) = literal
  blank : ∀ b ∈ blanks, isBlank b
  signed : sign = [] ∨ sign = [0x2d] ∨ sign = [0x2b]
  digit : ∀ b ∈ digits, isDigit b
  /-- No blank comes behind the blanks, -/
  blanks_end : ∀ b ∈ (sign ++ (digits ++ rest)).head?, isBlank b = false
  /-- a sign is not left out, -/
  sign_end : sign = [] → ∀ b ∈ (digits ++ rest).head?, b ≠ 0x2d ∧ b ≠ 0x2b
  /-- and no digit comes behind the digits. -/
  digits_end : ∀ b ∈ rest.head?, isDigit b = false

/-- What comes before the first element that does not satisfy a condition. -/
theorem span_append {α : Type} {f : α → Bool} {l r : List α} (hl : ∀ a ∈ l, f a)
    (hr : ∀ a ∈ r.head?, f a = false) :
    (l ++ r).takeWhile f = l ∧ (l ++ r).dropWhile f = r := by
  rw [List.takeWhile_append_of_pos hl, List.dropWhile_append_of_pos hl]
  cases r with
  | nil => simp
  | cons a r =>
    have ha := hr a rfl
    simp [ha]

variable {literal : List UInt8}

namespace Parts

/-- The number that the digits denote; 0 if there is none. -/
def magnitude (p : Parts literal) : Nat :=
  Nat.ofDigits 10 (p.digits.reverse.map fun b => b.toNat - 0x30)

/-- The integer that the sign and the digits denote. -/
def value (p : Parts literal) : Int := if p.sign = [0x2d] then -p.magnitude else p.magnitude

theorem dropWhile_isBlank (p : Parts literal) :
    literal.takeWhile isBlank = p.blanks ∧
      literal.dropWhile isBlank = p.sign ++ (p.digits ++ p.rest) := by
  have h := span_append p.blank p.blanks_end
  rwa [p.eq] at h

theorem splitSign_eq (p : Parts literal) :
    splitSign (literal.dropWhile isBlank) = (decide (p.sign = [0x2d]), p.digits ++ p.rest) := by
  rw [p.dropWhile_isBlank.2]
  rcases p.signed with h | h | h
  · have hend := p.sign_end h
    rw [h, List.nil_append]
    cases hr : p.digits ++ p.rest with
    | nil => rfl
    | cons b r =>
      obtain ⟨hminus, hplus⟩ := hend b (by simp [hr])
      rw [splitSign]
      · rfl
      · exact fun rest h => hminus (List.cons.inj h).1
      · exact fun rest h => hplus (List.cons.inj h).1
  · rw [h]
    rfl
  · rw [h]
    rfl

theorem span_isDigit (p : Parts literal) :
    (p.digits ++ p.rest).takeWhile isDigit = p.digits ∧
      (p.digits ++ p.rest).dropWhile isDigit = p.rest :=
  span_append p.digit p.digits_end

/-- There is only one way to take a literal apart. -/
theorem unique (p q : Parts literal) : p = q := by
  have hblanks : p.blanks = q.blanks := p.dropWhile_isBlank.1.symm.trans q.dropWhile_isBlank.1
  have hrest : p.digits ++ p.rest = q.digits ++ q.rest :=
    (Prod.mk.inj (p.splitSign_eq.symm.trans q.splitSign_eq)).2
  have hsigned : p.sign ++ (p.digits ++ p.rest) = q.sign ++ (q.digits ++ q.rest) :=
    p.dropWhile_isBlank.2.symm.trans q.dropWhile_isBlank.2
  have hsign : p.sign = q.sign := List.append_cancel_right (hrest ▸ hsigned)
  have hdigits : p.digits = q.digits := by
    rw [← p.span_isDigit.1, hrest, q.span_isDigit.1]
  have hend : p.rest = q.rest := by rw [← p.span_isDigit.2, hrest, q.span_isDigit.2]
  cases p
  cases q
  simp_all

end Parts

/-- Every literal can be taken apart. -/
theorem nonempty_parts (literal : List UInt8) : Nonempty (Parts literal) := by
  have hsplit : ∀ l : List UInt8, ∃ sign rest, sign ++ rest = l ∧
      (sign = [] ∨ sign = [0x2d] ∨ sign = [0x2b]) ∧
        (sign = [] → ∀ b ∈ rest.head?, b ≠ 0x2d ∧ b ≠ 0x2b) := by
    intro l
    cases l with
    | nil => exact ⟨[], [], rfl, .inl rfl, by simp⟩
    | cons b l =>
      by_cases hminus : b = 0x2d
      · exact ⟨[b], l, rfl, by simp [hminus], by simp⟩
      · by_cases hplus : b = 0x2b
        · exact ⟨[b], l, rfl, by simp [hplus], by simp⟩
        · exact ⟨[], b :: l, rfl, .inl rfl, by simp [hminus, hplus]⟩
  have hend : ∀ (f : UInt8 → Bool) (l : List UInt8), ∀ b ∈ (l.dropWhile f).head?, f b = false := by
    intro f l b hb
    have := List.head?_dropWhile_not f l
    rw [Option.mem_def.1 hb] at this
    simpa using this
  obtain ⟨sign, rest, heq, hsign, hnone⟩ := hsplit (literal.dropWhile isBlank)
  have hrest := List.takeWhile_append_dropWhile (p := isDigit) (l := rest)
  refine ⟨⟨literal.takeWhile isBlank, sign, rest.takeWhile isDigit, rest.dropWhile isDigit, ?_,
    fun b => List.mem_takeWhile_imp, hsign, fun b => List.mem_takeWhile_imp, ?_, ?_, hend _ _⟩⟩
  · rw [hrest, heq, List.takeWhile_append_dropWhile]
  · rw [hrest, heq]
    exact hend _ _
  · rwa [hrest]

/-! ## The integer of a literal -/

theorem decimalValue_eq_ofDigits (ds : List UInt8) :
    decimalValue 0 ds = Nat.ofDigits 10 (ds.reverse.map fun b => b.toNat - 0x30) := by
  rw [decimalValue, Nat.ofDigits_eq_foldr, List.foldr_map, List.foldr_reverse]
  congr 1
  funext n b
  simp only [Nat.cast_id]
  omega

/-- A literal counts as this timestamp : the integer of its only parts, moved to the nearest end of
the 64-bit range. -/
def Counts (literal : List UInt8) (timestamp : Int64) : Prop :=
  ∃ p : Parts literal, (∀ q : Parts literal, q = p) ∧
    timestamp.toInt = max (-2 ^ 63) (min p.value (2 ^ 63 - 1))

theorem toInt_ofInt_saturate (n : Int) :
    (Int64.ofInt (saturate n)).toInt = max (-2 ^ 63) (min n (2 ^ 63 - 1)) := by
  rw [saturate, Int64.toInt_ofInt_of_le (by omega) (by omega)]
  omega

theorem counts_literal (literal : List UInt8) : Counts literal (leading literal) := by
  obtain ⟨p⟩ := nonempty_parts literal
  refine ⟨p, fun q => q.unique p, ?_⟩
  have hvalue : signed (decide (p.sign = [0x2d])) (decimalValue 0 p.digits) = p.value := by
    rw [decimalValue_eq_ofDigits, signed, Parts.value, Parts.magnitude]
    simp only [decide_eq_true_eq]
  rw [leading_eq p.splitSign_eq, toInt_ofInt_saturate, p.span_isDigit.1, hvalue]

end Timestamp

/-! ## The timestamp of a frame -/

namespace Frame

open Json

/-- The timestamp of an event stands in the data object of its frame. -/
theorem exists_data_of_read {c : Cursor} {e : Event} (h : read c = .ok e) :
    ∃ data, c.find? 0 "data" = some data ∧
      e.timestamp = ((member? c data "ts" .primitive).map Timestamp.leading).getD 0 := by
  rw [read_eq] at h
  split at h
  · cases h
  · split at h
    · cases h
    · split at h
      · cases h
      · next data hdata =>
        refine ⟨data, (Option.filter_eq_some_iff.1 hdata).1, ?_⟩
        rcases readData_cases c data with ⟨field, hread⟩ | ⟨room, user, text, hread⟩
        · rw [hread] at h
          cases h
        · rw [hread] at h
          cases h
          rfl

/-- Every literal counts as its timestamp, in every frame that carries an event and by itself, and
the decimal text of a timestamp counts as the timestamp. -/
theorem counts_leading :
    (∀ literal : List UInt8, Timestamp.Counts literal (Timestamp.leading literal)) ∧
      (∀ (capacity : Nat) (frame : List UInt8) (e : Event), decodeWithin capacity frame = .ok e →
        ∃ tokens data, tokenize capacity frame = .ok tokens ∧
          Cursor.find? ⟨frame.toArray, tokens⟩ 0 "data" = some data ∧
            match member? ⟨frame.toArray, tokens⟩ data "ts" .primitive with
            | some literal => Timestamp.Counts literal e.timestamp
            | none => e.timestamp = 0) ∧
      (∀ (room user text : Body) (literal : Literal), ∃ e,
        decode (messageText (dataTree room user text literal)).bytes = .ok e ∧
          Timestamp.Counts literal.bytes e.timestamp) ∧
      ∀ ts : Int64, Timestamp.leading (toString ts.toInt).toUTF8.toList = ts := by
  refine ⟨Timestamp.counts_literal, fun capacity frame e h => ?_, fun room user text literal =>
    ⟨_, decode_messageText room user text literal, Timestamp.counts_literal _⟩,
    Timestamp.leading_toString⟩
  rw [decodeWithin] at h
  split at h
  · cases h
  · next tokens ht =>
    obtain ⟨data, hdata, hts⟩ := exists_data_of_read h
    refine ⟨tokens, data, ht, hdata, ?_⟩
    rw [hts]
    cases member? ⟨frame.toArray, tokens⟩ data "ts" .primitive with
    | none => rfl
    | some literal => exact Timestamp.counts_literal literal

end Frame

end ChatLink
