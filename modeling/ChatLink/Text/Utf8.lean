/-!
# UTF-8

`scan` reads bytes as UTF-8 : each well-formed sequence gives its character, and each longest
beginning of one that is not completed gives `none`, as does a byte that begins no sequence.
`decode?` takes only text without such damage, and `lossy` writes U+FFFD for each.
-/

namespace ChatLink.Text.Utf8

/-- The bytes of some characters. -/
def encode (cs : List Char) : List UInt8 := cs.flatMap String.utf8EncodeChar

/-- What a first byte says about its sequence : the bits that it carries, how many bytes follow,
and the bounds of the first of these. All further ones lie between 0x80 and 0xBF. -/
structure Lead where
  bits : Nat
  more : Nat
  low : UInt8
  high : UInt8
  deriving DecidableEq, Repr

/-- The bounds leave out longer forms of shorter sequences, the surrogates, and everything above
U+10FFFF. -/
def Lead.of? (b : UInt8) : Option Lead :=
  if b < 0x80 then some ⟨b.toNat, 0, 0x80, 0xbf⟩
  else if b < 0xc2 then none
  else if b < 0xe0 then some ⟨b.toNat - 0xc0, 1, 0x80, 0xbf⟩
  else if b < 0xf0 then
    some ⟨b.toNat - 0xe0, 2, if b = 0xe0 then 0xa0 else 0x80, if b = 0xed then 0x9f else 0xbf⟩
  else if b < 0xf5 then
    some ⟨b.toNat - 0xf0, 3, if b = 0xf0 then 0x90 else 0x80, if b = 0xf4 then 0x8f else 0xbf⟩
  else none

/-- Reads the bytes after the first : the scalar value if all are there, and the rest of the
input, which begins with the first byte that does not fit. -/
def continuation : Nat → UInt8 → UInt8 → Nat → List UInt8 → Option Nat × List UInt8
  | 0, _, _, value, rest => (some value, rest)
  | _ + 1, _, _, _, [] => (none, [])
  | more + 1, low, high, value, b :: rest =>
    if low ≤ b ∧ b ≤ high then
      continuation more 0x80 0xbf (value * 64 + (b.toNat - 0x80)) rest
    else
      (none, b :: rest)

theorem length_continuation (more : Nat) (low high : UInt8) (value : Nat) (bytes : List UInt8) :
    (continuation more low high value bytes).2.length ≤ bytes.length := by
  fun_induction continuation more low high value bytes with
  | case1 => exact Nat.le_refl _
  | case2 => exact Nat.le_refl _
  | case3 _ _ _ _ _ rest _ ih => exact Nat.le_succ_of_le ih
  | case4 => exact Nat.le_refl _

/-- The character at the front, or `none` for a damaged piece, and the bytes after it. -/
def next (b : UInt8) (rest : List UInt8) : Option Char × List UInt8 :=
  match Lead.of? b with
  | none => (none, rest)
  | some lead =>
    let (value?, rest) := continuation lead.more lead.low lead.high lead.bits rest
    (value?.map Char.ofNat, rest)

theorem length_next (b : UInt8) (rest : List UInt8) : (next b rest).2.length ≤ rest.length := by
  unfold next
  split
  · exact Nat.le_refl _
  · exact length_continuation _ _ _ _ _

/-- `scan` after the pieces `done`. -/
def scanFrom (done : Array (Option Char)) : List UInt8 → Array (Option Char)
  | [] => done
  | b :: rest =>
    have := Nat.lt_succ_of_le (length_next b rest)
    scanFrom (done.push (next b rest).1) (next b rest).2
termination_by bytes => bytes.length

/-- The characters and the damaged pieces of some bytes, in order. -/
def scan (bytes : List UInt8) : Array (Option Char) := scanFrom #[] bytes

/-- The character that stands for damaged text. -/
def replacement : Char := '\ufffd'

/-- The text of the bytes, with U+FFFD for each damaged piece. -/
def lossy (bytes : List UInt8) : String :=
  (scan bytes).foldl (fun text c => text.push (c.getD replacement)) ""

/-- The text of the bytes, if nothing in it is damaged. -/
def decode? (bytes : List UInt8) : Option String :=
  (scan bytes).foldl (fun text? c => do return (← text?).push (← c)) (some "")

end ChatLink.Text.Utf8
