import Mathlib.Data.List.Chain
import ChatLink.Proofs.Json.Brackets
import ChatLink.Proofs.Json.Escaping

/-!
# Segments of a string's body

What stands between two quotes is made of literal bytes, two-byte escapes and runs of `\u` escapes.
Escapes are resolved first and the bytes are read as UTF-8 afterwards, all at once, and still each
segment has its own meaning and the text is what the segments mean, one after another
(`unescape_segments`) : literal bytes are read as if they stood alone, and the numbers of a run are
read as UTF-16 (`decodeUnits`), where each half without its other half is U+FFFD.

The segments are resolved from left to right (`resolve_segments`). A run ends where nothing follows
that could be the second half of a pair (`lowSurrogate?_eq_none`), and its characters begin with no
byte that could go on with what stands before them (`breaks_segments`).
-/

namespace ChatLink.Json

open ChatLink.Text

/-! ## UTF-16 -/

/-- The character of a number that stands by itself. -/
def unitChar (u : Nat) : Char :=
  if isHighSurrogate u || isLowSurrogate u then Utf8.replacement else Char.ofNat u

/-- The characters that numbers mean as UTF-16. -/
def decodeUnits : List Nat → List Char
  | [] => []
  | [u] => [unitChar u]
  | u :: v :: units =>
    if isHighSurrogate u && isLowSurrogate v then pairedChar u v :: decodeUnits units
    else unitChar u :: decodeUnits (v :: units)

/-- The numbers of a character in UTF-16. -/
def encodeUnits (c : Char) : List Nat :=
  if c.toNat < 0x10000 then [c.toNat]
  else [0xd800 + (c.toNat - 0x10000) / 0x400, 0xdc00 + (c.toNat - 0x10000) % 0x400]

theorem decodeUnits_cons {u : Nat} {units : List Nat}
    (h : isHighSurrogate u = false ∨ units.head?.any isLowSurrogate = false) :
    decodeUnits (u :: units) = unitChar u :: decodeUnits units := by
  cases units with
  | nil => rfl
  | cons v units =>
    rw [decodeUnits, if_neg]
    rcases h with h | h
    · simp [h]
    · simp [show isLowSurrogate v = false from h]

/-- The numbers of a character are read as that character. -/
theorem decodeUnits_encodeUnits (c : Char) (units : List Nat) :
    decodeUnits (encodeUnits c ++ units) = c :: decodeUnits units := by
  have hc : c.toNat < 0xd800 ∨ 0xdfff < c.toNat ∧ c.toNat < 0x110000 := c.valid
  rw [encodeUnits]
  split
  · have hhigh : isHighSurrogate c.toNat = false := by simp [isHighSurrogate]; omega
    have hlow : isLowSurrogate c.toNat = false := by simp [isLowSurrogate]; omega
    rw [List.singleton_append, decodeUnits_cons (.inl hhigh), unitChar, hhigh, hlow]
    simp
  · have hhigh : isHighSurrogate (0xd800 + (c.toNat - 0x10000) / 0x400) := by
      simp [isHighSurrogate]; omega
    have hlow : isLowSurrogate (0xdc00 + (c.toNat - 0x10000) % 0x400) := by
      simp [isLowSurrogate]; omega
    have hpair : 0x10000 + (0xd800 + (c.toNat - 0x10000) / 0x400 - 0xd800) * 0x400 +
        (0xdc00 + (c.toNat - 0x10000) % 0x400 - 0xdc00) = c.toNat := by omega
    rw [List.cons_append, List.singleton_append, decodeUnits, hhigh, hlow, pairedChar, hpair]
    simp

theorem decodeUnits_ne_nil {units : List Nat} (h : units ≠ []) : decodeUnits units ≠ [] := by
  fun_cases decodeUnits units with
  | case1 => exact absurd rfl h
  | case2 | case3 | case4 => simp

/-! ## Segments -/

/-- Four hexadecimal digits. -/
structure Quad where
  a : UInt8
  b : UInt8
  c : UInt8
  d : UInt8
  hex : ∀ x ∈ [a, b, c, d], isHex x

namespace Quad

def digits (q : Quad) : List UInt8 := [q.a, q.b, q.c, q.d]

/-- The escape with these digits. -/
def bytes (q : Quad) : List UInt8 := 0x5c :: 0x75 :: q.digits

/-- The number that they spell. -/
def value (q : Quad) : Nat := q.digits.foldl (fun n b => n * 16 + (hexValue? b).getD 0) 0

end Quad

/-- The letters of the two-byte escapes, and their characters. -/
def shortForms : List (UInt8 × Char) :=
  [(0x22, '"'), (0x5c, '\\'), (0x2f, '/'), (0x62, '\x08'), (0x66, '\x0c'), (0x6e, '\n'),
    (0x72, '\r'), (0x74, '\t')]

/-- A part of what stands between two quotes. -/
inductive Segment where
  | literal (bytes : List UInt8) (ne : bytes ≠ []) (bare : ∀ b ∈ bytes, b ≠ 0x22 ∧ b ≠ 0x5c)
  | short (letter : UInt8) (char : Char) (h : (letter, char) ∈ shortForms)
  | unicode (quads : List Quad) (ne : quads ≠ [])

namespace Segment

/-- The segment as it is written. -/
def bytes : Segment → List UInt8
  | literal bytes _ _ => bytes
  | short letter _ _ => [0x5c, letter]
  | unicode quads _ => quads.flatMap Quad.bytes

/-- What the segment means by itself. -/
def text : Segment → String
  | literal bytes _ _ => Utf8.lossy bytes
  | short _ char _ => String.singleton char
  | unicode quads _ => String.ofList (decodeUnits (quads.map Quad.value))

def isEscape : Segment → Bool
  | literal .. => false
  | short .. | unicode .. => true

/-- Segments that would be one if they stood side by side. -/
def joins : Segment → Segment → Bool
  | literal .., literal .. | unicode .., unicode .. => true
  | _, _ => false

end Segment

/-- The body in its segments, as long as they can be. -/
structure IsSplit (body : List UInt8) (segments : List Segment) : Prop where
  bytes_eq : segments.flatMap Segment.bytes = body
  maximal : segments.IsChain fun s s' => s.joins s' = false

/-- What may stand between quotes has segments. -/
theorem IsBody.exists_isSplit {body : List UInt8} (h : IsBody body) :
    ∃ segments, IsSplit body segments := by
  induction h with
  | nil => exact ⟨[], rfl, .nil⟩
  | @plain b rest hq hs _ ih =>
    obtain ⟨segments, rfl, hmaximal⟩ := ih
    have hb : ∀ x ∈ [b], x ≠ 0x22 ∧ x ≠ 0x5c := by simp [hq, hs]
    cases segments with
    | nil => exact ⟨[.literal [b] (by simp) hb], rfl, .singleton _⟩
    | cons s segments =>
      cases s with
      | literal bytes ne bare =>
        exact ⟨.literal (b :: bytes) (by simp) (by simpa [hq, hs] using bare) :: segments, rfl,
          hmaximal.imp_head fun {s} h => by cases s <;> exact h⟩
      | short | unicode =>
        exact ⟨.literal [b] (by simp) hb :: _, rfl, List.isChain_cons_cons.2 ⟨rfl, hmaximal⟩⟩
  | @short e rest he _ ih =>
    obtain ⟨segments, rfl, hmaximal⟩ := ih
    have hform : ∀ e ∈ [0x22, 0x5c, 0x2f, 0x62, 0x66, 0x6e, 0x72, 0x74],
        ∃ c, (e, c) ∈ shortForms := by simp [shortForms]
    obtain ⟨c, hc⟩ := hform e he
    refine ⟨.short e c hc :: segments, rfl, List.isChain_cons.2 ⟨fun s _ => ?_, hmaximal⟩⟩
    cases s <;> rfl
  | @unicode a b c d rest ha hb hc hd _ ih =>
    obtain ⟨segments, rfl, hmaximal⟩ := ih
    have hq : ∀ x ∈ [a, b, c, d], isHex x := by simp [ha, hb, hc, hd]
    cases segments with
    | nil => exact ⟨[.unicode [⟨a, b, c, d, hq⟩] (by simp)], rfl, .singleton _⟩
    | cons s segments =>
      cases s with
      | unicode quads ne =>
        exact ⟨.unicode (⟨a, b, c, d, hq⟩ :: quads) (by simp) :: segments, rfl,
          hmaximal.imp_head fun {s} h => by cases s <;> exact h⟩
      | literal | short =>
        exact ⟨.unicode [⟨a, b, c, d, hq⟩] (by simp) :: _, rfl,
          List.isChain_cons_cons.2 ⟨rfl, hmaximal⟩⟩

/-! ## Runs -/

/-- The number of some hexadecimal digits. -/
theorem numeral?_of_isHex {l : List UInt8} (hl : l ≠ []) (hx : ∀ b ∈ l, isHex b) :
    numeral? 16 l = some (l.foldl (fun n b => n * 16 + (hexValue? b).getD 0) 0) := by
  have hvalue : ∀ n < 256, ∀ d ∈ hexValue? (UInt8.ofNat n), d < 16 := by decide +kernel
  have hfold : ∀ (l : List UInt8) (n : Nat), (∀ b ∈ l, isHex b) →
      l.foldlM (fun n b => (hexValue? b).bind fun d =>
        if d < 16 then some (n * 16 + d) else none) n =
      some (l.foldl (fun n b => n * 16 + (hexValue? b).getD 0) n) := by
    intro l
    induction l with
    | nil => exact fun n _ => rfl
    | cons b l ih =>
      intro n hx
      obtain ⟨d, hd⟩ := Option.isSome_iff_exists.1 (hx b (by simp))
      have hlt : d < 16 := hvalue b.toNat b.toNat_lt d (by rwa [UInt8.ofNat_toNat])
      rw [List.foldlM_cons, List.foldl_cons, hd, Option.bind_some, if_pos hlt, Option.getD_some]
      exact ih _ fun x h => hx x (by simp [h])
  rw [numeral?, if_neg (by simpa using hl)]
  exact hfold l 0 hx

namespace Quad

theorem hex4?_append (q : Quad) (rest : List UInt8) : hex4? (q.digits ++ rest) = some q.value := by
  have ha : q.a ≠ 0x2b := by
    intro h
    have := q.hex q.a (by simp)
    rw [h] at this
    exact absurd this (by decide)
  show numeral? 16 (if q.a = 0x2b then _ else q.digits) = _
  rw [if_neg ha]
  exact numeral?_of_isHex (by simp [digits]) q.hex

/-- What an escape means that no second half follows. -/
theorem resolve_append {q : Quad} {rest : List UInt8}
    (h : isHighSurrogate q.value = false ∨ lowSurrogate? rest = none) :
    resolve (q.bytes ++ rest) =
      String.utf8EncodeChar (unitChar q.value) ++ resolve rest := by
  have hu : unicodeEscape (q.digits ++ rest) = (unitChar q.value, rest) := by
    rw [unicodeEscape, hex4?_append, show (q.digits ++ rest).drop 4 = rest from rfl]
    cases hh : isHighSurrogate q.value with
    | true =>
      rw [h.resolve_left (by simp [hh])]
      simp [unitChar, hh]
    | false => cases hl : isLowSurrogate q.value <;> simp [unitChar, hh, hl]
  rw [bytes, List.cons_append, List.cons_append, resolve_unicodeEscape, hu]

/-- What two escapes mean that are one character. -/
theorem resolve_append_append {q q' : Quad} (hq : isHighSurrogate q.value)
    (hq' : isLowSurrogate q'.value) (rest : List UInt8) :
    resolve (q.bytes ++ (q'.bytes ++ rest)) =
      String.utf8EncodeChar (pairedChar q.value q'.value) ++ resolve rest := by
  have hlow : lowSurrogate? (q'.bytes ++ rest) = some q'.value := by
    show (hex4? (q'.digits ++ rest)).filter isLowSurrogate = _
    rw [hex4?_append, Option.filter_some, if_pos hq']
  have hu : unicodeEscape (q.digits ++ (q'.bytes ++ rest)) =
      (pairedChar q.value q'.value, rest) := by
    have hdrop : (q.digits ++ (q'.bytes ++ rest)).drop 4 = q'.bytes ++ rest ∧
        (q.digits ++ (q'.bytes ++ rest)).drop 10 = rest := ⟨rfl, rfl⟩
    simp only [unicodeEscape, hex4?_append, hq, hdrop, hlow, if_true]
  rw [bytes, List.cons_append, List.cons_append, resolve_unicodeEscape, hu]

theorem lowSurrogate?_append {q : Quad} (h : isLowSurrogate q.value = false)
    (rest : List UInt8) : lowSurrogate? (q.bytes ++ rest) = none := by
  show (hex4? (q.digits ++ rest)).filter isLowSurrogate = _
  rw [hex4?_append, Option.filter_some, if_neg (by simp [h])]

end Quad

/-- The numbers of a run are read as UTF-16, if no second half follows the run. -/
theorem resolve_run {rest : List UInt8} (h : lowSurrogate? rest = none) : ∀ quads : List Quad,
    resolve (quads.flatMap Quad.bytes ++ rest) =
      Utf8.encode (decodeUnits (quads.map Quad.value)) ++ resolve rest
  | [] => rfl
  | [q] => by
    rw [List.flatMap_singleton, Quad.resolve_append (.inr h)]
    simp [decodeUnits, Utf8.encode]
  | q :: q' :: quads => by
    rw [List.flatMap_cons, List.append_assoc, List.map_cons, List.map_cons, decodeUnits]
    cases hpair : isHighSurrogate q.value && isLowSurrogate q'.value with
    | true =>
      obtain ⟨hq, hq'⟩ := Bool.and_eq_true_iff.1 hpair
      rw [List.flatMap_cons, List.append_assoc, Quad.resolve_append_append hq hq',
        resolve_run h quads, if_pos rfl, Utf8.encode, Utf8.encode, List.flatMap_cons,
        List.append_assoc]
    | false =>
      have hnone : isHighSurrogate q.value = false ∨
          lowSurrogate? ((q' :: quads).flatMap Quad.bytes ++ rest) = none := by
        refine (Bool.and_eq_false_iff.1 hpair).imp_right fun hq' => ?_
        rw [List.flatMap_cons, List.append_assoc, Quad.lowSurrogate?_append hq']
      rw [Quad.resolve_append hnone, resolve_run h (q' :: quads), if_neg (by simp), Utf8.encode,
        Utf8.encode, List.flatMap_cons, List.append_assoc, List.map_cons]

/-! ## Whole bodies -/

namespace Segment

/-- The bytes that are read for the segment. -/
def resolved : Segment → List UInt8
  | literal bytes _ _ => bytes
  | short _ char _ => Utf8.encode [char]
  | unicode quads _ => Utf8.encode (decodeUnits (quads.map Quad.value))

end Segment

theorem shortForms_spec : ∀ p ∈ shortForms, p.1 ≠ 0x75 ∧ Utf8.encode [p.2] = [shortEscape p.1] := by
  decide +kernel

/-- Behind a run there is no second half of a pair. -/
theorem lowSurrogate?_eq_none {segments : List Segment}
    (h : ∀ s ∈ segments.head?, ∀ quads ne, s ≠ .unicode quads ne) :
    lowSurrogate? (segments.flatMap Segment.bytes) = none := by
  unfold lowSurrogate?
  split
  · next rest heq =>
    exfalso
    cases segments with
    | nil => cases heq
    | cons s segments =>
      rw [List.flatMap_cons] at heq
      cases s with
      | literal bytes ne bare =>
        obtain ⟨b, bytes, rfl⟩ := List.exists_cons_of_ne_nil ne
        exact (bare b (by simp)).2 (List.cons.inj heq).1
      | short letter char hform =>
        exact (shortForms_spec _ hform).1 (List.cons.inj (List.cons.inj heq).2).1
      | unicode quads ne => exact h _ rfl quads ne rfl
  · rfl

/-- Each segment is resolved by itself. -/
theorem resolve_segments {segments : List Segment}
    (h : segments.IsChain fun s s' => s.joins s' = false) :
    resolve (segments.flatMap Segment.bytes) = segments.flatMap Segment.resolved := by
  induction segments with
  | nil => simp [resolve, resolveFrom]
  | cons s segments ih =>
    obtain ⟨hhead, hrest⟩ := List.isChain_cons.1 h
    rw [List.flatMap_cons, List.flatMap_cons, ← ih hrest]
    cases s with
    | literal bytes ne bare => exact resolve_plain (fun b hb => (bare b hb).2) _
    | short letter char hform =>
      obtain ⟨hletter, hchar⟩ := shortForms_spec _ hform
      rw [Segment.resolved, hchar]
      exact resolve_short hletter _
    | unicode quads ne =>
      refine resolve_run (lowSurrogate?_eq_none ?_) quads
      rintro s hs quads' ne' rfl
      cases hhead _ hs

/-- An escape does not go on with the literal bytes before it. -/
theorem breaks_segments {segments : List Segment} (h : ∀ s ∈ segments.head?, s.isEscape) :
    Utf8.Breaks (segments.flatMap Segment.resolved) := by
  cases segments with
  | nil => simp [Utf8.Breaks]
  | cons s segments =>
    rw [List.flatMap_cons]
    cases s with
    | literal => cases h _ rfl
    | short letter char hform => exact Utf8.breaks_encode char [] _
    | unicode quads ne =>
      have hne : quads.map Quad.value ≠ [] := by simpa using ne
      obtain ⟨c, cs, hcs⟩ := List.exists_cons_of_ne_nil (decodeUnits_ne_nil hne)
      rw [Segment.resolved, hcs]
      exact Utf8.breaks_encode c cs _

/-- Each segment is read by itself. -/
theorem lossy_segments {segments : List Segment}
    (h : segments.IsChain fun s s' => s.joins s' = false) :
    Utf8.lossy (segments.flatMap Segment.resolved) =
      String.join (segments.map Segment.text) := by
  induction segments with
  | nil => simp [Utf8.lossy, Utf8.scan, Utf8.scanFrom, String.join]
  | cons s segments ih =>
    obtain ⟨hhead, hrest⟩ := List.isChain_cons.1 h
    rw [List.flatMap_cons, List.map_cons, String.join_cons, ← ih hrest]
    cases s with
    | literal bytes ne bare =>
      refine Utf8.lossy_append (breaks_segments fun s hs => ?_) bytes
      have hjoins := hhead s hs
      cases s with
      | literal => cases hjoins
      | short | unicode => rfl
    | short letter char hform => exact Utf8.lossy_encode_append [char] _
    | unicode quads ne => exact Utf8.lossy_encode_append _ _

theorem unescape_flatMap {segments : List Segment}
    (h : segments.IsChain fun s s' => s.joins s' = false) :
    unescape (segments.flatMap Segment.bytes) = String.join (segments.map Segment.text) := by
  rw [unescape, resolve_segments h, lossy_segments h]

/-- Strings stand between quotes, and what does has segments. -/
theorem isBody_of_tokenize {capacity : Nat} {text : List UInt8} {tokens : Array Token} {t : Token}
    (h : tokenize capacity text = .ok tokens) (ht : t ∈ tokens) (hk : t.kind = .string) :
    IsBody (t.text text) := by
  obtain ⟨s, ⟨-, -, -, hspelled⟩, -, -, rfl⟩ := Lexer.tokenize_induction
    (P := fun done s => s.Sound ∧ s.position = done.length ∧ Lexer.Begun done s ∧
      Lexer.Spelled done s)
    ⟨Lexer.sound_initial, rfl, Lexer.begun_of_between rfl rfl,
      by simp [Lexer.Spelled, Lexer.initial]⟩
    (fun {done s bytes s'} h hr => ⟨h.1.reads hr,
      by rw [hr.position_eq, h.2.1, List.length_append], h.2.2.1.reads h.2.1 hr,
      h.2.2.2.reads h.2.2.1 h.1.1 h.2.1 hr⟩) h
  obtain ⟨i, hi⟩ := Array.mem_iff_getElem?.1 ht
  have hs := hspelled i t hi
  rw [Lexer.IsSpelled, hk] at hs
  obtain ⟨before, body, after, rfl, hbody, hstart, hstop⟩ := hs
  rwa [Token.text, hstop, Nat.add_sub_cancel_left, hstart, ← List.drop_drop, List.drop_left,
    List.drop_one, List.tail_cons, List.take_left]

/-- A string means what its segments mean, and what stands on the two sides of a segment is read
apart. -/
theorem unescape_segments {capacity : Nat} {text : List UInt8} {tokens : Array Token} {t : Token}
    (h : tokenize capacity text = .ok tokens) (ht : t ∈ tokens) (hk : t.kind = .string) :
    (∃ segments, IsSplit (t.text text) segments) ∧
      ∀ segments, IsSplit (t.text text) segments →
        unescape (t.text text) = String.join (segments.map Segment.text) ∧
          ∀ before s after, segments = before ++ s :: after →
            unescape (t.text text) = unescape (before.flatMap Segment.bytes) ++ s.text ++
              unescape (after.flatMap Segment.bytes) := by
  refine ⟨(isBody_of_tokenize h ht hk).exists_isSplit, ?_⟩
  rintro segments ⟨hbytes, hmaximal⟩
  rw [← hbytes]
  refine ⟨unescape_flatMap hmaximal, ?_⟩
  rintro before s after rfl
  have hafter : after.IsChain fun s s' => s.joins s' = false := hmaximal.right_of_append.tail
  rw [unescape_flatMap hmaximal, unescape_flatMap hmaximal.left_of_append, unescape_flatMap hafter]
  simp [String.append_assoc]

/-- The text `"⟨E2 82⟩\n⟨AC⟩\ud83d\ude00\ud83d"`. The three bytes would be one character if the
escape did not stand between them. -/
def broken : List UInt8 :=
  [0x22, 0xe2, 0x82, 0x5c, 0x6e, 0xac, 0x5c, 0x75, 0x64, 0x38, 0x33, 0x64,
    0x5c, 0x75, 0x64, 0x65, 0x30, 0x30, 0x5c, 0x75, 0x64, 0x38, 0x33, 0x64, 0x22]

def brokenSegments : List Segment :=
  [.literal [0xe2, 0x82] (by simp) (by simp), .short 0x6e '\n' (by simp [shortForms]),
    .literal [0xac] (by simp) (by simp),
    .unicode [⟨0x64, 0x38, 0x33, 0x64, by decide +kernel⟩,
      ⟨0x64, 0x65, 0x30, 0x30, by decide +kernel⟩,
      ⟨0x64, 0x38, 0x33, 0x64, by decide +kernel⟩] (by simp)]

theorem unescape_segments_broken :
    let t : Token := ⟨.string, 1, 24, 0, none⟩
    tokenize 1 broken = .ok #[t] ∧ IsSplit (t.text broken) brokenSegments ∧
      unescape (t.text broken) =
        String.ofList ['\ufffd', '\n', '\ufffd', Char.ofNat 0x1f600, '\ufffd'] := by
  intro t
  have h : tokenize 1 broken = .ok #[t] := by decide +kernel
  obtain ⟨-, hall⟩ := unescape_segments h (Array.mem_singleton.2 rfl) rfl
  have hsplit : IsSplit (t.text broken) brokenSegments :=
    ⟨by decide +kernel, by simp [brokenSegments, Segment.joins]⟩
  refine ⟨h, hsplit, (hall _ hsplit).1.trans ?_⟩
  decide +kernel

end ChatLink.Json
