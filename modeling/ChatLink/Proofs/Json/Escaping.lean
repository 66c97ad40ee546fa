import ChatLink.Json.Escape
import ChatLink.Proofs.Json.Syntax
import ChatLink.Proofs.Text.Utf8

/-!
# Escaped texts

What is written for a text may stand between quotes (`Body.ofTextWith`) and stands for that text
(`unescape_ofTextWith`), with digits of either case. Both follow from one case analysis :
`encode_escapeCharWith` says that a character is written as a two-byte escape, as `\\u` with four
digits, or as its own bytes, none of which is a quote or a backslash. Escapes are resolved piece by
piece (`resolve_cons`), so what stands behind a character does not change what is read for it.
-/

namespace ChatLink.Json

open ChatLink.Text

/-- Digits for control characters, in either case. -/
def IsHexDigit (hexDigit : Nat → Char) : Prop :=
  hexDigit = upperHexDigit ∨ hexDigit = lowerHexDigit

theorem isHexDigit_upper : IsHexDigit upperHexDigit := .inl rfl

theorem isHexDigit_lower : IsHexDigit lowerHexDigit := .inr rfl

variable {hexDigit : Nat → Char}

/-! ## The three written forms -/

/-- The digits of a control character, and the number that they spell. -/
theorem exists_hex_digits (hx : IsHexDigit hexDigit) {n : Nat} (hn : n < 0x20) :
    ∃ a b, isHex a ∧ isHex b ∧ Utf8.encode [hexDigit (n / 16), hexDigit (n % 16)] = [a, b] ∧
      numeral? 16 [0x30, 0x30, a, b] = some n := by
  have hdigits : ∀ h, h = upperHexDigit ∨ h = lowerHexDigit → ∀ n < 0x20,
      isHex (UInt8.ofNat (h (n / 16)).toNat) ∧ isHex (UInt8.ofNat (h (n % 16)).toNat) ∧
        Utf8.encode [h (n / 16), h (n % 16)] =
          [UInt8.ofNat (h (n / 16)).toNat, UInt8.ofNat (h (n % 16)).toNat] ∧
        numeral? 16 [0x30, 0x30, UInt8.ofNat (h (n / 16)).toNat,
          UInt8.ofNat (h (n % 16)).toNat] = some n := by
    rintro h (rfl | rfl) <;> decide +kernel
  exact ⟨_, _, hdigits hexDigit hx n hn⟩

/-- How a character is written : as a two-byte escape, as `\u` with four digits, or as it is. -/
theorem encode_escapeCharWith (hx : IsHexDigit hexDigit) (c : Char) :
    (∃ e ∈ [0x22, 0x5c, 0x2f, 0x62, 0x66, 0x6e, 0x72, 0x74],
      Utf8.encode (escapeCharWith hexDigit c) = [0x5c, e] ∧
        String.utf8EncodeChar c = [shortEscape e]) ∨
    (∃ a b, isHex a ∧ isHex b ∧ c.toNat < 0x20 ∧ numeral? 16 [0x30, 0x30, a, b] = some c.toNat ∧
      Utf8.encode (escapeCharWith hexDigit c) = [0x5c, 0x75, 0x30, 0x30, a, b]) ∨
    Utf8.encode (escapeCharWith hexDigit c) = String.utf8EncodeChar c ∧
      ∀ b ∈ String.utf8EncodeChar c, b ≠ 0x22 ∧ b ≠ 0x5c := by
  unfold escapeCharWith
  split
  · exact .inl ⟨0x22, by simp, rfl, rfl⟩
  · exact .inl ⟨0x5c, by simp, rfl, rfl⟩
  · exact .inl ⟨0x62, by simp, rfl, rfl⟩
  · exact .inl ⟨0x66, by simp, rfl, rfl⟩
  · exact .inl ⟨0x6e, by simp, rfl, rfl⟩
  · exact .inl ⟨0x72, by simp, rfl, rfl⟩
  · exact .inl ⟨0x74, by simp, rfl, rfl⟩
  · next hq hs _ _ _ _ _ =>
    split
    · next hc =>
      obtain ⟨a, b, ha, hb, he, hn⟩ := exists_hex_digits hx hc
      refine .inr (.inl ⟨a, b, ha, hb, hc, hn, ?_⟩)
      have hcons : ∀ cs, Utf8.encode ('\\' :: 'u' :: '0' :: '0' :: cs) =
          0x5c :: 0x75 :: 0x30 :: 0x30 :: Utf8.encode cs := fun cs => rfl
      rw [hcons, he]
    · next hc =>
      refine .inr (.inr ⟨by simp [Utf8.encode], fun b hb => ⟨?_, ?_⟩⟩)
      · rintro rfl
        have := Utf8.le_or_eq_of_mem_encodeChar hb
        exact hq (Char.toNat_inj.1 (by simpa [eq_comm] using this))
      · rintro rfl
        have := Utf8.le_or_eq_of_mem_encodeChar hb
        exact hs (Char.toNat_inj.1 (by simpa [eq_comm] using this))

/-! ## Pieces of a body -/

theorem resolveFrom_eq (done : Array UInt8) : ∀ body : List UInt8,
    resolveFrom done body = done ++ resolveFrom #[] body
  | [] => by simp [resolveFrom]
  | b :: rest => by
    have hl : (piece b rest).2.length < (b :: rest).length :=
      Nat.lt_succ_of_le (length_piece b rest)
    rw [resolveFrom, resolveFrom.eq_2 #[], resolveFrom_eq _ (piece b rest).2,
      resolveFrom_eq (Array.appendList #[] _) (piece b rest).2]
    apply Array.ext'
    simp
termination_by body => body.length
decreasing_by all_goals exact hl

theorem resolve_cons (b : UInt8) (rest : List UInt8) :
    resolve (b :: rest) = (piece b rest).1 ++ resolve (piece b rest).2 := by
  rw [resolve, resolveFrom, resolveFrom_eq]
  simp [resolve]

theorem resolve_plain {l : List UInt8} (h : ∀ b ∈ l, b ≠ 0x5c) (rest : List UInt8) :
    resolve (l ++ rest) = l ++ resolve rest := by
  induction l with
  | nil => rfl
  | cons b l ih =>
    have hb : piece b (l ++ rest) = ([b], l ++ rest) := by
      unfold piece
      rw [if_neg (h b (by simp))]
    rw [List.cons_append, resolve_cons, hb, ih fun b hb => h b (by simp [hb])]
    rfl

/-- A two-byte escape stands for one byte. -/
theorem resolve_short {e : UInt8} (he : e ≠ 0x75) (rest : List UInt8) :
    resolve (0x5c :: e :: rest) = shortEscape e :: resolve rest := by
  have hp : piece 0x5c (e :: rest) = ([shortEscape e], rest) := by
    unfold piece
    rw [if_pos rfl]
    exact if_neg he
  rw [resolve_cons, hp]
  rfl

/-- An escape with digits stands for one character. -/
theorem resolve_unicodeEscape (rest : List UInt8) :
    resolve (0x5c :: 0x75 :: rest) =
      String.utf8EncodeChar (unicodeEscape rest).1 ++ resolve (unicodeEscape rest).2 := by
  have hp : piece 0x5c (0x75 :: rest) =
      (String.utf8EncodeChar (unicodeEscape rest).1, (unicodeEscape rest).2) := by
    simp [piece]
  rw [resolve_cons, hp]

/-- Four digits stand for the character with their number, unless that is half of a pair. -/
theorem resolve_unicode {a b c d : UInt8} {n : Nat} (ha : a ≠ 0x2b)
    (hn : numeral? 16 [a, b, c, d] = some n) (hs : n < 0xd800) (rest : List UInt8) :
    resolve (0x5c :: 0x75 :: a :: b :: c :: d :: rest) =
      String.utf8EncodeChar (Char.ofNat n) ++ resolve rest := by
  have hx : hex4? (a :: b :: c :: d :: rest) = some n := by rw [hex4?, if_neg ha, hn]
  have hh : isHighSurrogate n = false := by simp [isHighSurrogate]; omega
  have hl : isLowSurrogate n = false := by simp [isLowSurrogate]; omega
  have hu : unicodeEscape (a :: b :: c :: d :: rest) = (Char.ofNat n, rest) := by
    simp [unicodeEscape, hx, hh, hl]
  rw [resolve_unicodeEscape, hu]

/-! ## Characters as they are written -/

/-- What is written for a character may stand between quotes. -/
theorem isBody_escapeCharWith (hx : IsHexDigit hexDigit) (c : Char) :
    IsBody (Utf8.encode (escapeCharWith hexDigit c)) := by
  rcases encode_escapeCharWith hx c with ⟨e, he, hw, -⟩ | ⟨a, b, ha, hb, -, -, hw⟩ | ⟨hw, hb⟩
  · rw [hw]
    exact .short he .nil
  · rw [hw]
    exact .unicode rfl rfl ha hb .nil
  · rw [hw]
    exact isBody_plain hb

/-- What is written for a character stands for it. -/
theorem resolve_escapeCharWith (hx : IsHexDigit hexDigit) (c : Char) (rest : List UInt8) :
    resolve (Utf8.encode (escapeCharWith hexDigit c) ++ rest) =
      String.utf8EncodeChar c ++ resolve rest := by
  rcases encode_escapeCharWith hx c with ⟨e, he, hw, hc⟩ | ⟨a, b, -, -, hlt, hn, hw⟩ | ⟨hw, hb⟩
  · have hu : e ≠ 0x75 := by rintro rfl; simp at he
    rw [hw, hc]
    exact resolve_short hu rest
  · rw [hw]
    have hu := resolve_unicode (by decide) hn (by omega) rest
    rwa [Char.ofNat_toNat] at hu
  · rw [hw, resolve_plain fun b h => (hb b h).2]

/-! ## Texts as they are written -/

theorem toList_escapeOntoWith (done text : String) :
    (escapeOntoWith hexDigit done text).toList =
      done.toList ++ text.toList.flatMap (escapeCharWith hexDigit) := by
  rw [escapeOntoWith, String.foldl_eq_foldl_toList]
  induction text.toList generalizing done with
  | nil => simp
  | cons c cs ih =>
    rw [List.foldl_cons, ih, Utf8.foldl_push, String.toList_append, String.toList_ofList,
      List.flatMap_cons, List.append_assoc]

theorem bytes_escapeOntoWith (done text : String) :
    (escapeOntoWith hexDigit done text).toUTF8.toList =
      done.toUTF8.toList ++
        text.toList.flatMap fun c => Utf8.encode (escapeCharWith hexDigit c) := by
  rw [Utf8.toList_toUTF8, Utf8.toList_toUTF8, toList_escapeOntoWith]
  simp [Utf8.encode, List.flatMap_assoc]

theorem isBody_flatMap (hx : IsHexDigit hexDigit) (cs : List Char) :
    IsBody (cs.flatMap fun c => Utf8.encode (escapeCharWith hexDigit c)) := by
  induction cs with
  | nil => exact .nil
  | cons c cs ih => exact (isBody_escapeCharWith hx c).append ih

theorem resolve_flatMap (hx : IsHexDigit hexDigit) (cs : List Char) :
    resolve (cs.flatMap fun c => Utf8.encode (escapeCharWith hexDigit c)) = Utf8.encode cs := by
  induction cs with
  | nil => simp [resolve, resolveFrom, Utf8.encode]
  | cons c cs ih =>
    rw [List.flatMap_cons, resolve_escapeCharWith hx, ih]
    rfl

theorem bytes_escape (text : String) : (escape text).toUTF8.toList =
    text.toList.flatMap fun c => Utf8.encode (escapeCharWith upperHexDigit c) := by
  rw [escape, escapeOnto, bytes_escapeOntoWith, Utf8.toList_toUTF8 ""]
  rfl

/-- The body that is written for a text, with the given digits for control characters. -/
def Body.ofTextWith (hx : IsHexDigit hexDigit) (text : String) : Body where
  bytes := text.toList.flatMap fun c => Utf8.encode (escapeCharWith hexDigit c)
  valid := isBody_flatMap hx _

/-- What is written for a text stands for the text, whatever the digits. -/
theorem unescape_ofTextWith (hx : IsHexDigit hexDigit) (text : String) :
    unescape (Body.ofTextWith hx text).bytes = text := by
  rw [unescape, Body.ofTextWith, resolve_flatMap hx, Utf8.lossy_encode, String.ofList_toList]

/-- The body that is written for a text. -/
def Body.ofText (text : String) : Body where
  bytes := text.toList.flatMap fun c => Utf8.encode (escapeCharWith upperHexDigit c)
  valid := isBody_flatMap isHexDigit_upper _

theorem Body.bytes_ofText (text : String) : (ofText text).bytes = (escape text).toUTF8.toList :=
  (bytes_escape text).symm

/-- What is written for a text stands for the text. -/
theorem unescape_ofText (text : String) : unescape (Body.ofText text).bytes = text :=
  unescape_ofTextWith isHexDigit_upper text

end ChatLink.Json
