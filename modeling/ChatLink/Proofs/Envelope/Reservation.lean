import ChatLink.Envelope.Writer
import ChatLink.Proofs.Envelope
import Mathlib.Algebra.GroupWithZero.Nat

/-!
# Memory for an envelope

The written form of a text is measured on the text's own bytes, and the measure is exact
(`Json.utf8ByteSize_escape`) : a character of several bytes stays as it is, and all its bytes are
0x80 or more. So a text that is written into a buffer fits into what was set aside for it, to the
byte (`Buffer.pushEscaped_eq_map`), and changes nothing in front of it.

An envelope is what is written for its texts and some bytes around them, which do not depend on the
texts. They fit into the margin, so whoever writes an envelope asks for memory once, at the start,
and either is refused there or writes all of it (`Request.write_eq_ite`).
-/

namespace ChatLink

open ChatLink.Json ChatLink.Text

namespace Json

/-! ## The measure of a text -/

theorem escape_eq (text : String) :
    escape text = String.ofList (text.toList.flatMap (escapeCharWith upperHexDigit)) := by
  rw [← String.toList_inj, String.toList_ofList, escape, escapeOnto, toList_escapeOntoWith]
  simp

/-- What is written for a text stands behind what is there already. -/
theorem escapeOnto_eq (done text : String) : escapeOnto done text = done ++ escape text := by
  rw [← String.toList_inj, escapeOnto, toList_escapeOntoWith, String.toList_append, escape_eq,
    String.toList_ofList]

theorem utf8ByteSize_eq (text : String) : text.utf8ByteSize = (Utf8.encode text.toList).length := by
  rw [← Utf8.toList_toUTF8, ByteArray.toList, Utf8.toList_loop]
  rfl

theorem escapedWidth_eq_one : ∀ b : UInt8, 0x20 ≤ b.toNat → b.toNat ≠ 0x22 → b.toNat ≠ 0x5c →
    escapedWidth b = 1 := by
  decide +kernel

/-- The bytes that are written for a character are as many as its own bytes count for. -/
theorem length_encode_escapeCharWith (c : Char) :
    (Utf8.encode (escapeCharWith upperHexDigit c)).length =
      ((String.utf8EncodeChar c).map escapedWidth).sum := by
  unfold escapeCharWith
  split
  case h_8 hquote hslash hb hf hn hr ht =>
    have hne : ∀ d : Char, c ≠ d → c.toNat ≠ d.toNat := fun d h => fun hd => h (Char.toNat_inj.1 hd)
    split
    · next hc =>
      have hcontrol : ∀ n < 0x20, n ∉ [0x08, 0x0c, 0x0a, 0x0d, 0x09] →
          (Utf8.encode
            ['\\', 'u', '0', '0', upperHexDigit (n / 16), upperHexDigit (n % 16)]).length =
            ((String.utf8EncodeChar (Char.ofNat n)).map escapedWidth).sum := by
        decide
      have h := hcontrol c.toNat hc (by
        simp only [List.mem_cons, List.not_mem_nil, or_false, not_or]
        exact ⟨hne _ hb, hne _ hf, hne _ hn, hne _ hr, hne _ ht⟩)
      rwa [Char.ofNat_toNat] at h
    · next hc =>
      have hone : ∀ b ∈ String.utf8EncodeChar c, escapedWidth b = 1 := by
        intro b hmem
        have hq : c.toNat ≠ 0x22 := hne _ hquote
        have hs : c.toNat ≠ 0x5c := hne _ hslash
        have := Utf8.le_or_eq_of_mem_encodeChar hmem
        exact escapedWidth_eq_one b (by omega) (by omega) (by omega)
      rw [Utf8.encode, List.flatMap_singleton, List.map_eq_replicate_iff.2 hone,
        List.sum_replicate_nat, Nat.mul_one]
  all_goals rfl

theorem utf8ByteSize_escape (text : String) : (escape text).utf8ByteSize = escapedLength text := by
  rw [utf8ByteSize_eq, escape_eq, String.toList_ofList, escapedLength, Utf8.foldl_toUTF8]
  have hsum : ∀ (bytes : List UInt8) (n : Nat),
      bytes.foldl (fun n b => n + escapedWidth b) n = n + (bytes.map escapedWidth).sum := by
    intro bytes
    induction bytes with
    | nil => simp
    | cons b bytes ih =>
      intro n
      rw [List.foldl_cons, ih, List.map_cons, List.sum_cons, Nat.add_assoc]
  rw [hsum, Nat.zero_add]
  induction text.toList with
  | nil => rfl
  | cons c cs ih =>
    have hcons : ∀ l, Utf8.encode (l ++ cs.flatMap (escapeCharWith upperHexDigit)) =
        Utf8.encode l ++ Utf8.encode (cs.flatMap (escapeCharWith upperHexDigit)) :=
      fun l => List.flatMap_append
    have henc : Utf8.encode (c :: cs) = String.utf8EncodeChar c ++ Utf8.encode cs :=
      List.flatMap_cons
    rw [List.flatMap_cons, hcons, List.length_append, ih, length_encode_escapeCharWith, henc,
      List.map_append, List.sum_append]

end Json

/-! ## Buffers -/

namespace Buffer

variable {grants : Nat → Bool} {b : Buffer} {piece text : String}

/-- A piece that fits is appended, and no memory is asked for. -/
theorem push_eq (h : b.text.utf8ByteSize + piece.utf8ByteSize ≤ b.room) :
    b.push piece = { b with text := b.text ++ piece } := if_pos h

theorem reserve_eq {more : Nat} (h : b.text.utf8ByteSize + more ≤ b.room) :
    b.reserve grants more = .ok b := if_pos h

theorem reserve_empty {n : Nat} (h : 0 < n) :
    empty.reserve grants n =
      if grants n then .ok ⟨"", n, [n]⟩ else .error .allocationFailure := by
  have hsize : "".utf8ByteSize + n = n := Nat.zero_add n
  simp only [reserve, empty, hsize]
  rw [if_neg (Nat.not_le.2 h)]

/-- What is reserved is there afterwards, and the text stays as it is. -/
theorem reserve_eq_ok {more : Nat} {b' : Buffer} (h : b.reserve grants more = .ok b') :
    b'.text = b.text ∧ b.text.utf8ByteSize + more ≤ b'.room := by
  unfold reserve at h
  dsimp only at h
  split at h
  · next hle =>
    cases h
    exact ⟨rfl, hle⟩
  · split at h
    · cases h
      exact ⟨rfl, Nat.le_refl _⟩
    · cases h

/-- Pieces that fit all together are appended one by one, and no memory is asked for. -/
theorem foldl_push_eq {α : Type} (form : α → List Char) (as : List α)
    (h : b.text.utf8ByteSize + (String.ofList (as.flatMap form)).utf8ByteSize ≤ b.room) :
    as.foldl (fun b a => b.push (String.ofList (form a))) b =
      { b with text := b.text ++ String.ofList (as.flatMap form) } := by
  induction as generalizing b with
  | nil => simp
  | cons a as ih =>
    rw [List.flatMap_cons, String.ofList_append, String.utf8ByteSize_append] at h
    have hnext : (b.text ++ String.ofList (form a)).utf8ByteSize +
        (String.ofList (as.flatMap form)).utf8ByteSize ≤ b.room := by
      rw [String.utf8ByteSize_append]
      omega
    rw [List.foldl_cons, push_eq (by omega), ih hnext, List.flatMap_cons, String.ofList_append,
      String.append_assoc]

/-- Once there is memory for the written form of a text, it is appended, and no more is asked
for. -/
theorem pushEscaped_eq_map (grants : Nat → Bool) (b : Buffer) (text : String) :
    b.pushEscaped grants text = (b.reserve grants (escapedLength text)).map fun b' =>
      { b' with text := b.text ++ escape text } := by
  unfold pushEscaped
  cases hr : b.reserve grants (escapedLength text) with
  | error e => rfl
  | ok b' =>
    obtain ⟨htext, hroom⟩ := reserve_eq_ok hr
    have hfits : b'.text.utf8ByteSize + (escape text).utf8ByteSize ≤ b'.room := by
      rwa [htext, utf8ByteSize_escape]
    rw [escape_eq] at hfits
    show Except.ok (text.foldl _ b') = _
    rw [String.foldl_eq_foldl_toList, foldl_push_eq _ _ hfits, htext, ← escape_eq]
    rfl

theorem pushEscaped_eq (h : b.text.utf8ByteSize + escapedLength text ≤ b.room) :
    b.pushEscaped grants text = .ok { b with text := b.text ++ escape text } := by
  rw [pushEscaped_eq_map, reserve_eq h]
  rfl

end Buffer

/-! ## Envelopes that are being written -/

namespace Envelope

theorem size_fieldWritten_text (key text : String) :
    (fieldWritten (key, .text text)).utf8ByteSize = key.utf8ByteSize + escapedLength text + 5 := by
  have hmarks : "\"".utf8ByteSize = 1 ∧ "\":".utf8ByteSize = 2 := by decide
  simp only [fieldWritten, Value.written, escapeOnto_eq, String.utf8ByteSize_append, hmarks,
    utf8ByteSize_escape]
  omega

theorem size_fieldWritten_number (key : String) (n : Nat) :
    (fieldWritten (key, .number n)).utf8ByteSize =
      key.utf8ByteSize + (toString n).utf8ByteSize + 3 := by
  have hmarks : "\"".utf8ByteSize = 1 ∧ "\":".utf8ByteSize = 2 := by decide
  simp only [fieldWritten, Value.written, String.utf8ByteSize_append, hmarks]
  omega

namespace Writer

/-- What is written before the fields. -/
def opening (kind : Kind) : String := "\x7b\"type\":\"" ++ kind.name ++ "\",\"data\":\x7b"

theorem size_opening (kind : Kind) : (opening kind).utf8ByteSize ≤ 24 := by
  cases kind <;> decide

/-- All fields but the first have a comma in front. -/
def separator (fields : Nat) : String := if 0 < fields then "," else ""

/-- So much of an envelope is written, and memory was asked for once. -/
def once (kind : Kind) (room : Nat) (text : String) (fields : Nat) : Writer :=
  ⟨kind, ⟨text, room, [room]⟩, fields⟩

variable {grants : Nat → Bool} {kind : Kind} {room fields : Nat} {text : String}

theorem push_once {piece : String} (h : (text ++ piece).utf8ByteSize ≤ room) :
    (once kind room text fields).push piece = once kind room (text ++ piece) fields := by
  rw [String.utf8ByteSize_append] at h
  rw [push, once, Buffer.push_eq h]
  rfl

/-- The margin has room for what comes before the fields. -/
theorem start_eq (grants : Nat → Bool) (kind : Kind) (hint : Nat) :
    start grants kind hint =
      if grants (hint + margin) then .ok (once kind (hint + margin) (opening kind) 0)
      else .error .allocationFailure := by
  have hsize : (opening kind).utf8ByteSize ≤ hint + margin :=
    Nat.le_trans (size_opening kind) (by rw [margin]; omega)
  simp only [opening, String.utf8ByteSize_append] at hsize
  have hpush : (((once kind (hint + margin) "" 0).push "\x7b\"type\":\"").push kind.name).push
      "\",\"data\":\x7b" = once kind (hint + margin) (opening kind) 0 := by
    have hempty : "".utf8ByteSize = 0 := rfl
    rw [push_once (by simp only [String.utf8ByteSize_append]; omega),
      push_once (by simp only [String.utf8ByteSize_append]; omega),
      push_once (by simp only [String.utf8ByteSize_append]; omega), String.empty_append]
    rfl
  rw [start, Buffer.reserve_empty (by rw [margin]; omega), ← hpush]
  cases grants (hint + margin) <;> rfl

/-- Where all of a field fits, its key fits. -/
theorem key_once {key : String}
    (h : (text ++ separator fields ++ "\"" ++ key ++ "\":").utf8ByteSize ≤ room) :
    (once kind room text fields).key key =
      once kind room (text ++ separator fields ++ "\"" ++ key ++ "\":") (fields + 1) := by
  simp only [String.utf8ByteSize_append] at h
  have hseparator : (if 0 < fields then (once kind room text fields).push "," else
      once kind room text fields) = once kind room (text ++ separator fields) fields := by
    unfold separator
    split
    · next hpos =>
      rw [separator, if_pos hpos] at h
      rw [push_once (by rw [String.utf8ByteSize_append]; omega)]
    · rw [String.append_empty]
  have hfields : (once kind room text fields).fields = fields := rfl
  unfold Writer.key
  rw [hfields, hseparator]
  dsimp only
  rw [push_once (by simp only [String.utf8ByteSize_append]; omega),
    push_once (by simp only [String.utf8ByteSize_append]; omega),
    push_once (by simp only [String.utf8ByteSize_append]; omega)]
  rfl

theorem number_once {key : String} {n : Nat}
    (h : (text ++ separator fields ++ fieldWritten (key, .number n)).utf8ByteSize ≤ room) :
    (once kind room text fields).number key n =
      once kind room (text ++ separator fields ++ fieldWritten (key, .number n)) (fields + 1) := by
  have hfield : text ++ separator fields ++ fieldWritten (key, .number n) =
      text ++ separator fields ++ "\"" ++ key ++ "\":" ++ toString n := by
    simp only [fieldWritten, Value.written, String.append_assoc]
  rw [hfield] at h ⊢
  have hkey := h
  rw [String.utf8ByteSize_append] at hkey
  rw [number, key_once (by omega), push_once h]

theorem string_once {key value : String}
    (h : (text ++ separator fields ++ fieldWritten (key, .text value)).utf8ByteSize ≤ room) :
    (once kind room text fields).string grants key value =
      .ok (once kind room (text ++ separator fields ++ fieldWritten (key, .text value))
        (fields + 1)) := by
  have hfield : text ++ separator fields ++ fieldWritten (key, .text value) =
      text ++ separator fields ++ "\"" ++ key ++ "\":" ++ "\"" ++ escape value ++ "\"" := by
    simp only [fieldWritten, Value.written, escapeOnto_eq, String.append_assoc]
  rw [hfield] at h ⊢
  simp only [String.utf8ByteSize_append, utf8ByteSize_escape] at h
  unfold string
  rw [key_once (by simp only [String.utf8ByteSize_append]; omega),
    push_once (by simp only [String.utf8ByteSize_append]; omega)]
  dsimp only [once]
  rw [Buffer.pushEscaped_eq (by simp only [String.utf8ByteSize_append]; omega)]
  show Except.ok ((once kind room _ (fields + 1)).push "\"") = _
  rw [push_once (by simp only [String.utf8ByteSize_append, utf8ByteSize_escape]; omega)]
  rfl

/-- Writes a field of either kind. -/
def field (grants : Nat → Bool) (w : Writer) : String × Value → Except Error Writer
  | (key, .number n) => .ok (w.number key n)
  | (key, .text value) => w.string grants key value

theorem field_once (f : String × Value)
    (h : (text ++ separator fields ++ fieldWritten f).utf8ByteSize ≤ room) :
    field grants (once kind room text fields) f =
      .ok (once kind room (text ++ separator fields ++ fieldWritten f) (fields + 1)) := by
  obtain ⟨key, value⟩ := f
  cases value with
  | number n => exact congrArg _ (number_once h)
  | text value => exact string_once h

/-- Fields that fit all together are written one after another, with commas between them. -/
theorem foldlM_field_once : ∀ {fs : List (String × Value)} {text : String} {fields : Nat}, fs ≠ [] →
    (text ++ separator fields ++ ",".intercalate (fs.map fieldWritten)).utf8ByteSize ≤ room →
      fs.foldlM (field grants) (once kind room text fields) =
        .ok (once kind room (text ++ separator fields ++ ",".intercalate (fs.map fieldWritten))
          (fields + fs.length))
  | [f], text, fields, _, h => by
    rw [List.foldlM_cons, field_once f h]
    rfl
  | f :: g :: fs, text, fields, _, h => by
    have hsplit : text ++ separator fields ++ ",".intercalate ((f :: g :: fs).map fieldWritten) =
        text ++ separator fields ++ fieldWritten f ++ separator (fields + 1) ++
          ",".intercalate ((g :: fs).map fieldWritten) := by
      have hcomma : separator (fields + 1) = "," := if_pos (Nat.succ_pos fields)
      rw [List.map_cons, List.map_cons, String.intercalate_cons_cons, hcomma]
      simp only [String.append_assoc]
    rw [hsplit] at h ⊢
    have hfirst := h
    simp only [String.utf8ByteSize_append] at hfirst
    rw [List.foldlM_cons, field_once f (by simp only [String.utf8ByteSize_append]; omega)]
    show (g :: fs).foldlM (field grants) (once kind room _ (fields + 1)) = _
    have hlength : fields + 1 + (g :: fs).length = fields + (f :: g :: fs).length := by
      simp only [List.length_cons]
      omega
    rw [foldlM_field_once (List.cons_ne_nil g fs) h, hlength]

end Writer

end Envelope

/-! ## Requests -/

namespace Request

open Envelope

/-- Writes the envelope of a request. -/
def write (grants : Nat → Bool) : Request → Except Error Writer
  | hello token => Writer.hello grants token
  | join room => Writer.join grants room
  | leave room => Writer.leave grants room
  | message room text => Writer.message grants room text

/-- The estimate of what the fields of a request take. -/
def hint : Request → Nat
  | hello token => escapedLength (token.getD "") + 16
  | join room => escapedLength room
  | leave room => escapedLength room
  | message room text => escapedLength room + escapedLength text

theorem payload_eq (r : Request) : r.envelope.payload =
    Writer.opening r.kind ++ ",".intercalate (r.fields.map fieldWritten) ++ "\x7d\x7d" := by
  rw [envelope_eq]
  rfl

/-- The size of a payload, whatever its texts are. -/
theorem length_envelope_le (r : Request) : r.envelope.length ≤ r.hint + Writer.margin := by
  have hmarks : ",".utf8ByteSize = 1 ∧ "\x7d\x7d".utf8ByteSize = 2 := by decide
  have hnames : "protocol".utf8ByteSize = 8 ∧ "token".utf8ByteSize = 5 ∧
    "room".utf8ByteSize = 4 ∧ "text".utf8ByteSize = 4 := by decide
  have hversion : (toString protocolVersion).utf8ByteSize = 1 := by decide
  have hkind := Writer.size_opening r.kind
  rw [Envelope.length, payload_eq]
  cases r <;>
    simp only [fields, List.map_cons, List.map_nil, String.intercalate_cons_cons,
      String.intercalate_singleton, String.utf8ByteSize_append, size_fieldWritten_text,
      size_fieldWritten_number, hmarks, hnames, hversion, hint, Writer.margin] at hkind ⊢ <;>
    omega

/-- All requests are written alike : what comes before the fields, the fields, and the end. -/
theorem write_eq (grants : Nat → Bool) (r : Request) :
    r.write grants = do
      let w ← Writer.start grants r.kind r.hint
      let w ← r.fields.foldlM (Writer.field grants) w
      return w.finish := by
  cases r with
  | hello token =>
    simp only [write, Writer.hello, kind, hint, fields, List.foldlM_cons, List.foldlM_nil,
      Writer.field, bind_pure]
    rfl
  | join room =>
    simp only [write, Writer.join, Writer.ofRoom, kind, hint, fields, List.foldlM_cons,
      List.foldlM_nil, Writer.field, bind_pure]
  | leave room =>
    simp only [write, Writer.leave, Writer.ofRoom, kind, hint, fields, List.foldlM_cons,
      List.foldlM_nil, Writer.field, bind_pure]
  | message room text =>
    simp only [write, Writer.message, kind, hint, fields, List.foldlM_cons, List.foldlM_nil,
      Writer.field, bind_pure, bind_assoc]

/-- A request is refused at once, or all of its envelope is written, with memory that was asked for
once. -/
theorem write_eq_ite (grants : Nat → Bool) (r : Request) :
    r.write grants =
      if grants (r.hint + Writer.margin) then
        .ok (Writer.once r.kind (r.hint + Writer.margin) r.envelope.payload r.fields.length)
      else .error .allocationFailure := by
  have hne : r.fields ≠ [] := by cases r <;> exact List.cons_ne_nil _ _
  have hsize := r.length_envelope_le
  rw [Envelope.length, payload_eq] at hsize
  have hopening : Writer.opening r.kind ++ Writer.separator 0 = Writer.opening r.kind :=
    String.append_empty
  have hfields : (Writer.opening r.kind ++ Writer.separator 0 ++
      ",".intercalate (r.fields.map fieldWritten)).utf8ByteSize ≤ r.hint + Writer.margin := by
    rw [hopening]
    rw [String.utf8ByteSize_append] at hsize
    omega
  rw [write_eq, Writer.start_eq]
  cases grants (r.hint + Writer.margin) with
  | false => rfl
  | true =>
    show (do
      let w ← r.fields.foldlM (Writer.field grants) (Writer.once r.kind _ (Writer.opening r.kind) 0)
      return w.finish) = _
    rw [Writer.foldlM_field_once hne hfields, hopening, Nat.zero_add]
    show Except.ok ((Writer.once r.kind _ _ r.fields.length).push "\x7d\x7d") = _
    rw [Writer.push_once hsize, ← payload_eq]
    rfl

end Request

/-- The measure of a text is exact, and what is written for it stands behind what is there already.
In memory that is set aside by this measure it is written without asking for more, and for no
envelope is more asked for than at its start. -/
theorem reservation_suffices :
    (∀ done text : String, escapeOnto done text = done ++ escape text ∧
      (escape text).utf8ByteSize = escapedLength text) ∧
    (∀ (grants : Nat → Bool) (b : Buffer) (text : String),
      b.pushEscaped grants text = (b.reserve grants (escapedLength text)).map fun b' =>
        { b' with text := escapeOnto b.text text }) ∧
    ∀ r : Request, r.envelope.length ≤ r.hint + 48 ∧
      ∀ grants : Nat → Bool, r.write grants =
        if grants (r.hint + 48) then
          .ok ⟨r.kind, ⟨r.envelope.payload, r.hint + 48, [r.hint + 48]⟩, r.fields.length⟩
        else .error .allocationFailure := by
  refine ⟨fun done text => ⟨escapeOnto_eq done text, utf8ByteSize_escape text⟩,
    fun grants b text => ?_, fun r => ⟨r.length_envelope_le, fun grants => r.write_eq_ite grants⟩⟩
  rw [escapeOnto_eq, Buffer.pushEscaped_eq_map]

end ChatLink
