import ChatLink.Proofs.Text.Utf8
import ChatLink.Text.Digit

/-!
# Decimal texts

The bytes of a number's decimal text are digits, with no zero in front but the number zero
(`head?_decimal`), and their value is the number (`decimalValue_decimal`). The last digit comes off
the end, so all of it is by recursion on the number divided by ten.
-/

namespace ChatLink.Text

/-- The bytes of a number's decimal text. -/
def decimal (n : Nat) : List UInt8 := Utf8.encode (Nat.toDigits 10 n)

/-- The number that digits spell behind `n`. -/
def decimalValue (n : Nat) (ds : List UInt8) : Nat :=
  ds.foldl (fun n b => n * 10 + (b.toNat - 0x30)) n

theorem encode_digitChar : ∀ d < 10, Utf8.encode [Nat.digitChar d] = [UInt8.ofNat (0x30 + d)] := by
  decide

theorem toNat_digit {d : Nat} (h : d < 10) : (UInt8.ofNat (0x30 + d)).toNat = 0x30 + d := by
  rw [UInt8.toNat_ofNat', Nat.mod_eq_of_lt (by omega)]

theorem decimal_of_lt {n : Nat} (h : n < 10) : decimal n = [UInt8.ofNat (0x30 + n)] := by
  rw [decimal, Nat.toDigits_of_lt_base h, encode_digitChar n h]

theorem decimal_of_le {n : Nat} (h : 10 ≤ n) :
    decimal n = decimal (n / 10) ++ [UInt8.ofNat (0x30 + n % 10)] := by
  rw [decimal, Nat.toDigits_of_base_le (by decide) h, Utf8.encode, List.flatMap_append]
  exact congrArg _ (encode_digitChar (n % 10) (Nat.mod_lt n (by decide)))

theorem isDigit_of_mem_decimal (n : Nat) : ∀ b ∈ decimal n, isDigit b := by
  have hd : ∀ d < 10, isDigit (UInt8.ofNat (0x30 + d)) := by decide
  by_cases h : n < 10
  · simpa [decimal_of_lt h] using hd n h
  · rw [decimal_of_le (Nat.le_of_not_lt h), List.forall_mem_append]
    exact ⟨isDigit_of_mem_decimal (n / 10), by simpa using hd (n % 10) (by omega)⟩

theorem decimal_ne_nil (n : Nat) : decimal n ≠ [] := by
  by_cases h : n < 10
  · simp [decimal_of_lt h]
  · simp [decimal_of_le (Nat.le_of_not_lt h)]

/-- Only the text of zero begins with a zero. -/
theorem head?_decimal {n : Nat} (hn : 0 < n) : (decimal n).head? ≠ some 0x30 := by
  by_cases h : n < 10
  · rw [decimal_of_lt h, List.head?_cons, ne_eq, Option.some_inj, ← UInt8.toNat_inj,
      toNat_digit h]
    simp
    omega
  · have ih := head?_decimal (n := n / 10) (by omega)
    rw [decimal_of_le (Nat.le_of_not_lt h)]
    cases hd : decimal (n / 10) with
    | nil => exact absurd hd (decimal_ne_nil _)
    | cons b ds => simpa [hd] using ih

theorem decimalValue_decimal (n : Nat) : decimalValue 0 (decimal n) = n := by
  by_cases h : n < 10
  · rw [decimal_of_lt h, decimalValue, List.foldl_cons, List.foldl_nil, toNat_digit h]
    omega
  · have ih := decimalValue_decimal (n / 10)
    rw [decimalValue] at ih
    rw [decimal_of_le (Nat.le_of_not_lt h), decimalValue, List.foldl_append, ih,
      List.foldl_cons, List.foldl_nil, toNat_digit (by omega)]
    omega

/-- The decimal text of an integer is that of its absolute value, with a minus sign if it is below
zero. -/
theorem toList_toUTF8_toString (i : Int) :
    (toString i).toUTF8.toList = (if i < 0 then [0x2d] else []) ++ decimal i.natAbs := by
  have hd : ∀ n : Nat, Utf8.encode n.repr.toList = decimal n := fun n => by
    rw [Nat.toList_repr, decimal]
  rw [Utf8.toList_toUTF8, Int.toString_eq_repr, Int.repr_eq_if]
  by_cases h : i < 0
  · have hn : (-i).toNat = i.natAbs := by omega
    rw [if_neg (by omega), if_pos h, String.toList_append, Utf8.encode, List.flatMap_append, hn,
      ← hd]
    rfl
  · rw [if_pos (by omega), if_neg h, hd, List.nil_append]
    exact congrArg decimal (by omega)

end ChatLink.Text
