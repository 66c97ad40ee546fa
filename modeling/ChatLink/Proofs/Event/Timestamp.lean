import ChatLink.Event.Timestamp
import ChatLink.Proofs.Json.Syntax
import ChatLink.Proofs.Text.Decimal
import Mathlib.Data.FinEnum
import Mathlib.Data.List.TakeWhile

/-!
# Timestamps as literals

Reading a literal digit by digit, with a stop at the ends of the 64-bit range in each step, gives
the exact integer moved to the nearest end (`Timestamp.leading_eq`) : once the exact value has left
the range, further digits only take it further away. So the decimal text of a timestamp, which is a
literal (`isLiteral_toString`), is read as that timestamp (`Timestamp.leading_toString`).
-/

namespace ChatLink

open ChatLink.Text

namespace Timestamp

/-- The integer of an absolute value and a sign. -/
def signed (negative : Bool) (n : Nat) : Int := if negative then -n else n

theorem appendDigit_saturate (negative : Bool) (n : Nat) (b : UInt8) :
    appendDigit negative (saturate (signed negative n)) b =
      saturate (signed negative (n * 10 + (b.toNat - 0x30))) := by
  cases negative <;> simp only [appendDigit, saturate, signed] <;> grind

/-- Stopping in each step is stopping at the end. -/
theorem foldl_appendDigit (negative : Bool) (n : Nat) (ds : List UInt8) :
    ds.foldl (appendDigit negative) (saturate (signed negative n)) =
      saturate (signed negative (decimalValue n ds)) := by
  induction ds generalizing n with
  | nil => rfl
  | cons b ds ih =>
    rw [List.foldl_cons, appendDigit_saturate, ih]
    rfl

theorem leading_eq {literal digits : List UInt8} {negative : Bool}
    (h : splitSign (literal.dropWhile isBlank) = (negative, digits)) :
    leading literal =
      Int64.ofInt (saturate (signed negative (decimalValue 0 (digits.takeWhile isDigit)))) := by
  have hz : (0 : Int) = saturate (signed negative 0) := by cases negative <;> rfl
  rw [leading, h]
  dsimp only
  rw [hz, foldl_appendDigit]

theorem not_isBlank_of_isDigit : ∀ b : UInt8, isDigit b →
    isBlank b = false ∧ b ≠ 0x2d ∧ b ≠ 0x2b := by
  decide +kernel

/-- Digits have neither blanks nor a sign in front. -/
theorem splitSign_decimal (n : Nat) :
    splitSign ((decimal n).dropWhile isBlank) = (false, decimal n) := by
  have hall := isDigit_of_mem_decimal n
  cases hd : decimal n with
  | nil => exact absurd hd (decimal_ne_nil n)
  | cons b ds =>
    obtain ⟨hb, hm, hp⟩ := not_isBlank_of_isDigit b (hall b (by simp [hd]))
    rw [List.dropWhile_cons_of_neg (by simp [hb]), splitSign]
    · exact fun rest h => hm (List.cons.inj h).1
    · exact fun rest h => hp (List.cons.inj h).1

/-- A timestamp's decimal text is read as the timestamp. -/
theorem leading_toString (ts : Int64) : leading (toString ts.toInt).toUTF8.toList = ts := by
  have hdigits : (decimal ts.toInt.natAbs).takeWhile isDigit = decimal ts.toInt.natAbs :=
    List.takeWhile_eq_self_iff.2 (isDigit_of_mem_decimal _)
  have hrange : saturate ts.toInt = ts.toInt := by
    have := ts.le_toInt
    have := ts.toInt_lt
    rw [saturate]
    omega
  have hleading : leading (toString ts.toInt).toUTF8.toList =
      Int64.ofInt (saturate (signed (decide (ts.toInt < 0)) ts.toInt.natAbs)) := by
    rw [toList_toUTF8_toString]
    by_cases h : ts.toInt < 0
    · have hminus : splitSign ((0x2d :: decimal ts.toInt.natAbs).dropWhile isBlank) =
          (true, decimal ts.toInt.natAbs) := rfl
      rw [if_pos h, List.singleton_append, leading_eq hminus, hdigits, decimalValue_decimal,
        decide_eq_true h]
    · rw [if_neg h, List.nil_append, leading_eq (splitSign_decimal _), hdigits,
        decimalValue_decimal, decide_eq_false h]
  have hsigned : signed (decide (ts.toInt < 0)) ts.toInt.natAbs = ts.toInt := by
    simp only [signed, decide_eq_true_eq]
    omega
  rw [hleading, hsigned, hrange, Int64.ofInt_toInt]

end Timestamp

namespace Json

/-- The decimal text of an integer is a number. -/
theorem isLiteral_toString (i : Int) : IsLiteral (toString i).toUTF8.toList := by
  have hdigits : IsInteger (decimal i.natAbs) := by
    refine ⟨⟨decimal_ne_nil _, isDigit_of_mem_decimal _⟩, fun h => ?_⟩
    by_cases hz : i.natAbs = 0
    · rw [hz]
      rfl
    · exact absurd h (head?_decimal (Nat.pos_of_ne_zero hz))
  have hn : IsLiteral ((if i < 0 then [0x2d] else []) ++ decimal i.natAbs ++ [] ++ []) :=
    .number (by split <;> simp) hdigits (.inl rfl) (.inl rfl)
  rw [toList_toUTF8_toString]
  simpa using hn

/-- The number that is written for an integer. -/
def Literal.ofInt (i : Int) : Literal := ⟨(toString i).toUTF8.toList, isLiteral_toString i⟩

end Json

end ChatLink
