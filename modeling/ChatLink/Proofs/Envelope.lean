import ChatLink.Envelope
import ChatLink.Proofs.Event.RoundTrip

/-!
# What an envelope says

The payload of an envelope is the text of a document (`Envelope.bytes_payload`) : an object with the
members `type` and `data`, where `data` is an object with the envelope's own fields. Texts of the
application stand in it as bodies that hold no bare quote and no bare backslash, so they end no
quotes and add no member. `Request.payload_exact` : a search in its tokens finds each field with
exactly the text that was given, and finds nothing else (`Envelope.Carries`); so payloads are equal
only if all the fields are (`Request.payload_eq_iff`).
-/

namespace ChatLink

open Json Text

namespace Envelope

/-! ## Payloads as documents -/

/-- The tree of a field's value. -/
def Value.tree : Value → Tree
  | number n => .primitive (.ofInt n)
  | text s => .string (.ofText s)

/-- The fields as members without blanks. -/
def members : List (String × Value) → Members
  | [] => .nil
  | (key, value) :: fields => Frame.member key value.tree (members fields)

/-- The object of some fields. -/
def dataTree (fields : List (String × Value)) : Tree := .object .none (members fields)

/-- The text of an envelope of a kind with its fields in order. -/
def document (kind : Kind) (fields : List (String × Value)) : Document where
  before := .none
  root := .object .none (Frame.member "type" (.string (.ofText kind.name))
    (Frame.member "data" (dataTree fields) .nil))
  after := .none

/-- Nothing in the keys is escaped. -/
def PlainKeys (fields : List (String × Value)) : Prop :=
  ∀ field ∈ fields, (Body.ofText field.1).bytes = field.1.toUTF8.toList

/-- The bytes of what is written around names and values. -/
theorem bytes_marks :
    "\"".toUTF8.toList = [0x22] ∧ "\":".toUTF8.toList = [0x22, 0x3a] ∧
      ",".toUTF8.toList = [0x2c] ∧ "\x7d\x7d".toUTF8.toList = [0x7d, 0x7d] ∧
      "\x7b\"type\":\"".toUTF8.toList =
        0x7b :: 0x22 :: ((Body.ofText "type").bytes ++ [0x22, 0x3a, 0x22]) ∧
      "\",\"data\":\x7b".toUTF8.toList =
        0x22 :: 0x2c :: 0x22 :: ((Body.ofText "data").bytes ++ [0x22, 0x3a, 0x7b]) := by
  simp only [Utf8.toList_toUTF8, Body.ofText]
  decide

/-- The names of members and of kinds. -/
def names : List String :=
  ["type", "hello", "join", "leave", "msg", "data", "protocol", "token", "room", "text"]

theorem bytes_name : ∀ name ∈ names, (Body.ofText name).bytes = name.toUTF8.toList := by
  simp only [Utf8.toList_toUTF8, Body.ofText]
  decide

theorem bytes_written (v : Value) : v.written.toUTF8.toList = v.tree.bytes := by
  cases v with
  | number n => rfl
  | text s =>
    rw [Value.written, Utf8.toList_toUTF8_append, escapeOnto, bytes_escapeOntoWith, bytes_marks.1]
    rfl

theorem bytes_fieldWritten (field : String × Value) :
    (fieldWritten field).toUTF8.toList =
      0x22 :: (field.1.toUTF8.toList ++ 0x22 :: 0x3a :: field.2.tree.bytes) := by
  obtain ⟨hquote, hcolon, -⟩ := bytes_marks
  rw [fieldWritten, Utf8.toList_toUTF8_append, Utf8.toList_toUTF8_append,
    Utf8.toList_toUTF8_append, hquote, hcolon, bytes_written]
  simp

theorem bytes_intercalate : ∀ texts : List String,
    (",".intercalate texts).toUTF8.toList =
      (texts.flatMap fun text => 0x2c :: text.toUTF8.toList).tail
  | [] => by simp
  | [text] => by simp
  | text :: text' :: texts => by
    obtain ⟨-, -, hcomma, -⟩ := bytes_marks
    rw [String.intercalate_cons_cons, Utf8.toList_toUTF8_append, Utf8.toList_toUTF8_append, hcomma,
      bytes_intercalate (text' :: texts)]
    simp

theorem listed_members : ∀ {fields : List (String × Value)}, PlainKeys fields →
    (members fields).listed =
      (fields.map fieldWritten).flatMap fun text => 0x2c :: text.toUTF8.toList
  | [], _ => rfl
  | field :: fields, h => by
    rw [List.map_cons, List.flatMap_cons, bytes_fieldWritten,
      ← listed_members fun field hf => h field (List.mem_cons_of_mem _ hf),
      ← h field List.mem_cons_self]
    simp [members, Frame.member, Members.listed, Blanks.none]

theorem plain_name (kind : Kind) :
    (Body.ofText kind.name).bytes = kind.name.toUTF8.toList :=
  bytes_name _ (by cases kind <;> decide)

/-- A payload is the text of a document. -/
theorem bytes_payload (kind : Kind) {fields : List (String × Value)} (h : PlainKeys fields) :
    (ofFields kind fields).payload.toUTF8.toList = (document kind fields).bytes := by
  have happend : ∀ a b c d e : String, (a ++ b ++ c ++ d ++ e).toUTF8.toList =
      a.toUTF8.toList ++ b.toUTF8.toList ++ c.toUTF8.toList ++ d.toUTF8.toList ++
        e.toUTF8.toList := by
    intros
    simp only [Utf8.toList_toUTF8_append]
  obtain ⟨-, -, -, hclose, hopen, hdata⟩ := bytes_marks
  refine (happend _ _ _ _ _).trans ?_
  rw [hopen, hdata, hclose, bytes_intercalate, ← listed_members h, ← plain_name]
  simp [document, dataTree, Frame.member, Document.bytes, Tree.bytes, Members.listed, Blanks.none]

theorem count_members : ∀ fields : List (String × Value),
    (members fields).count = 2 * fields.length
  | [] => rfl
  | (key, value) :: fields => by
    have hv : value.tree.count = 1 := by cases value <;> rfl
    rw [members, Frame.member, Members.count, count_members fields, hv, List.length_cons]
    omega

theorem count_document (kind : Kind) (fields : List (String × Value)) :
    (document kind fields).count = 5 + 2 * fields.length := by
  simp only [document, Document.count, Tree.count, Frame.member, Members.count, dataTree,
    count_members]
  omega

/-! ## What payloads say -/

/-- The JSON value of a field's value. -/
def Value.json : Value → Json.Value
  | number n => .primitive (toString n).toUTF8.toList
  | text s => .string (escape s).toUTF8.toList

/-- The JSON value of an envelope of a kind with its fields in order. -/
def content (kind : Kind) (fields : List (String × Value)) : Json.Value :=
  .object [("type".toUTF8.toList, .string kind.name.toUTF8.toList),
    ("data".toUTF8.toList, .object (fields.map fun field => (field.1.toUTF8.toList, field.2.json)))]

theorem value_tree (v : Value) : v.tree.value = v.json := by
  cases v with
  | number n => rfl
  | text s => rw [Value.tree, Tree.value, Value.json, Body.bytes_ofText]

theorem values_members : ∀ {fields : List (String × Value)}, PlainKeys fields →
    (members fields).values = fields.map fun field => (field.1.toUTF8.toList, field.2.json)
  | [], _ => rfl
  | field :: fields, h => by
    rw [members, Frame.member, Members.values, h field List.mem_cons_self, value_tree,
      values_members fun field hf => h field (List.mem_cons_of_mem _ hf), List.map_cons]

theorem value_document (kind : Kind) {fields : List (String × Value)} (h : PlainKeys fields) :
    (document kind fields).root.value = content kind fields := by
  simp only [document, dataTree, Frame.member, Tree.value, Members.values, values_members h,
    plain_name, bytes_name "type" (by decide), bytes_name "data" (by decide), content]

/-- The token at the index is this value. -/
def Value.ReadAt (c : Cursor) (i : Nat) : Value → Prop
  | number n => c.kind? i = some .primitive ∧ c.raw? i = some (toString n).toUTF8.toList
  | text s => c.kind? i = some .string ∧ (c.raw? i).map unescape = some s

theorem Value.readAt_of_spells (v : Value) {c : Cursor} {i : Nat} (h : c.Spells i v.json) :
    v.ReadAt c i := by
  cases v with
  | number n => exact ⟨h.kind?, h.raw?_primitive⟩
  | text s =>
    refine ⟨h.kind?, ?_⟩
    rw [h.raw?_string, ← Body.bytes_ofText, Option.map_some, unescape_ofText]

/-- A token is one value only. -/
theorem Value.ReadAt.inj {c : Cursor} {i : Nat} {v w : Value} (hv : v.ReadAt c i)
    (hw : w.ReadAt c i) : v = w := by
  cases v with
  | number m =>
    cases w with
    | number n =>
      have hd : ∀ k : Nat, (toString k).toUTF8.toList = decimal k :=
        fun k => toList_toUTF8_toString k
      have h := Option.some.inj (hv.2.symm.trans hw.2)
      rw [hd, hd] at h
      rw [← decimalValue_decimal m, h, decimalValue_decimal]
    | text s => cases hv.1.symm.trans hw.1
  | text s =>
    cases w with
    | number n => cases hv.1.symm.trans hw.1
    | text t => rw [Option.some.inj (hv.2.symm.trans hw.2)]

theorem Value.eq_of_rel {c : Cursor} {found : Option Nat} {v w : Option Value}
    (hv : Option.Rel (fun j v => v.ReadAt c j) found v)
    (hw : Option.Rel (fun j v => v.ReadAt c j) found w) : v = w := by
  cases hv with
  | none =>
    cases hw
    rfl
  | some hv =>
    cases hw with
    | some hw => rw [hv.inj hw]

/-- The tokens are an object with the members `type` and `data` and no others, where `data` is an
object with these fields and no others. -/
structure Carries (c : Cursor) (kind : Kind) (fields : List (String × Value)) : Prop where
  root : c.tokens[0]? = some ⟨.object, 0, c.source.size, 2, none⟩
  tagged : ∃ i, c.find? 0 "type" = some i ∧ (Value.text kind.name).ReadAt c i
  data : ∃ i t, c.find? 0 "data" = some i ∧ c.tokens[i]? = some t ∧ t.kind = .object ∧
    t.size = fields.length ∧
      ∀ key, Option.Rel (fun j v => v.ReadAt c j) (c.find? i key) (fields.lookup key)
  others : ∀ key, key ≠ "type" → key ≠ "data" → c.find? 0 key = none

/-- The members of an object are looked up by their texts. -/
theorem lookup_json (key : String) : ∀ fields : List (String × Value),
    (fields.map fun field => (field.1.toUTF8.toList, field.2.json)).lookup key.toUTF8.toList =
      (fields.lookup key).map Value.json
  | [] => rfl
  | (key', value) :: fields => by
    rw [List.map_cons, List.lookup_cons, List.lookup_cons, lookup_json key fields]
    by_cases h : key = key'
    · rw [h, beq_self_eq_true, beq_self_eq_true, Option.map_some]
    · rw [beq_false_of_ne h, beq_false_of_ne fun h' => h (Utf8.toList_toUTF8_inj.1 h')]

theorem first?_content (kind : Kind) (fields : List (String × Value)) (key : String) :
    (content kind fields).first? key =
      if key = "type" then some (.string kind.name.toUTF8.toList)
      else if key = "data" then
        some (.object (fields.map fun field => (field.1.toUTF8.toList, field.2.json)))
      else none := by
  have hbeq : ∀ key' : String, (key.toUTF8.toList == key'.toUTF8.toList) = decide (key = key') :=
    fun key' => by rw [Bool.eq_iff_iff, beq_iff_eq, decide_eq_true_iff, Utf8.toList_toUTF8_inj]
  rw [content, Json.Value.first?, List.lookup_cons, List.lookup_cons, hbeq, hbeq]
  by_cases ht : key = "type"
  · rw [if_pos ht, decide_eq_true ht]
  · rw [if_neg ht, decide_eq_false ht]
    by_cases hd : key = "data"
    · rw [if_pos hd, decide_eq_true hd]
    · rw [if_neg hd, decide_eq_false hd]
      rfl

/-- Fields are found by their keys, and nothing else is. -/
theorem find?_of_spells {c : Cursor} {i : Nat} {fields : List (String × Value)}
    (h : c.Spells i (.object (fields.map fun field => (field.1.toUTF8.toList, field.2.json))))
    (key : String) :
    Option.Rel (fun j v => Value.ReadAt c j v) (c.find? i key) (fields.lookup key) := by
  have hl := lookup_json key fields
  cases hv : fields.lookup key with
  | none =>
    rw [hv] at hl
    rw [h.find?_eq_none hl]
    exact .none
  | some v =>
    rw [hv] at hl
    obtain ⟨j, hj, hs⟩ := h.exists_find?_eq_some hl
    rw [hj]
    exact .some (v.readAt_of_spells hs)

theorem getElem?_root (kind : Kind) (fields : List (String × Value)) :
    (document kind fields).cursor.tokens[0]? =
      some ⟨.object, 0, (document kind fields).cursor.source.size, 2, none⟩ := by
  have hsize : (document kind fields).cursor.source.size =
      (document kind fields).root.bytes.length := by
    rw [Document.cursor, List.size_toArray, Document.bytes, document]
    simp [Blanks.none]
  rw [hsize]
  simp [Document.cursor, Document.tokens, document, Tree.tokens, Members.length, Frame.member,
    Blanks.none]

theorem carries_cursor (kind : Kind) {fields : List (String × Value)} (h : PlainKeys fields) :
    Carries (document kind fields).cursor kind fields := by
  have hroot := value_document kind h ▸ (document kind fields).spells_root
  refine ⟨getElem?_root kind fields, ?_, ?_, ?_⟩
  · obtain ⟨i, hi, hs⟩ := hroot.exists_find?_eq_some (first?_content kind fields "type")
    rw [← plain_name, Body.bytes_ofText] at hs
    exact ⟨i, hi, (Value.text kind.name).readAt_of_spells hs⟩
  · obtain ⟨i, hi, hs⟩ := hroot.exists_find?_eq_some (first?_content kind fields "data")
    obtain ⟨t, ht, hk, hn⟩ := hs.getElem?_object
    exact ⟨i, t, hi, ht, hk, by rw [hn, List.length_map], find?_of_spells hs⟩
  · intro key ht hd
    exact hroot.find?_eq_none (by rw [first?_content, if_neg ht, if_neg hd])

/-- Tokens carry one kind only, and one text only for each key. -/
theorem Carries.unique {c : Cursor} {kind kind' : Kind} {fields fields' : List (String × Value)}
    (h : Carries c kind fields) (h' : Carries c kind' fields') :
    kind = kind' ∧ ∀ key, fields.lookup key = fields'.lookup key := by
  constructor
  · obtain ⟨i, hi, hr⟩ := h.tagged
    obtain ⟨i', hi', hr'⟩ := h'.tagged
    cases hi.symm.trans hi'
    have hname := Value.text.inj (hr.inj hr')
    revert hname
    cases kind <;> cases kind' <;> decide
  · obtain ⟨i, t, hi, -, -, -, hf⟩ := h.data
    obtain ⟨i', t', hi', -, -, -, hf'⟩ := h'.data
    cases hi.symm.trans hi'
    intro key
    exact Value.eq_of_rel (hf key) (hf' key)

/-! ## No control characters -/

/-- No character of the text is a control character, which strict JSON forbids between quotes. -/
def Printed (s : String) : Prop := ∀ c ∈ s.toList, 0x20 ≤ c.toNat

theorem Printed.append {s t : String} (hs : Printed s) (ht : Printed t) : Printed (s ++ t) := by
  rw [Printed, String.toList_append]
  exact List.forall_mem_append.2 ⟨hs, ht⟩

theorem printed_intercalate : ∀ {texts : List String}, (∀ text ∈ texts, Printed text) →
    Printed (",".intercalate texts)
  | [], _ => by simp [Printed]
  | [text], h => h text (by simp)
  | text :: text' :: texts, h => by
    rw [String.intercalate_cons_cons]
    exact ((h text (by simp)).append (by simp [Printed])).append
      (printed_intercalate fun text ht => h text (List.mem_cons_of_mem _ ht))

theorem printed_escapeOnto {done : String} (h : Printed done) (text : String) :
    Printed (escapeOnto done text) := by
  have hhex : ∀ n < 16, 0x20 ≤ (upperHexDigit n).toNat := by decide
  have hchar : ∀ c, ∀ d ∈ escapeCharWith upperHexDigit c, 0x20 ≤ d.toNat := by
    intro c
    unfold escapeCharWith
    split
    case h_8 =>
      split
      · next hc =>
        have hlow := hhex (c.toNat / 16) (by omega)
        have hhigh := hhex (c.toNat % 16) (by omega)
        simp [hlow, hhigh]
      · simpa using by omega
    all_goals simp
  rw [Printed, escapeOnto, toList_escapeOntoWith, List.forall_mem_append]
  exact ⟨h, fun d hd => by
    obtain ⟨c, -, hd⟩ := List.mem_flatMap.1 hd
    exact hchar c d hd⟩

theorem printed_written (v : Value) : Printed v.written := by
  cases v with
  | number n =>
    intro c hc
    have hd : c ∈ Nat.toDigits 10 n := by simpa [Value.written] using hc
    have := Char.isDigit_iff_toNat.1 (Nat.isDigit_of_mem_toDigits (by decide) (by decide) hd)
    exact Nat.le_trans (by decide) this.1
  | text s => exact (printed_escapeOnto (by simp [Printed]) s).append (by simp [Printed])

theorem printed_payload (kind : Kind) {fields : List (String × Value)} (h : PlainKeys fields) :
    Printed (ofFields kind fields).payload := by
  have hkind : Printed kind.name := by cases kind <;> simp [Kind.name, Printed]
  have hfield : ∀ text ∈ fields.map fieldWritten, Printed text := by
    intro text ht
    obtain ⟨field, hf, rfl⟩ := List.mem_map.1 ht
    have hkey : escape field.1 = field.1 := by
      rw [← Utf8.toList_toUTF8_inj, ← Body.bytes_ofText, h field hf]
    have hprinted : Printed field.1 := hkey ▸ printed_escapeOnto (by simp [Printed]) field.1
    have hquoted : Printed ("\"" ++ field.1 ++ "\":") :=
      (Printed.append (by simp [Printed]) hprinted).append (by simp [Printed])
    exact hquoted.append (printed_written field.2)
  have hhead : Printed ("\x7b\"type\":\"" ++ kind.name ++ "\",\"data\":\x7b") :=
    (Printed.append (by simp [Printed]) hkind).append (by simp [Printed])
  exact (hhead.append (printed_intercalate hfield)).append (by simp [Printed])

end Envelope

/-! ## What is sent for a request -/

/-- What an application, or the opening of a session, has to say. -/
inductive Request where
  | hello (token : Option String)
  | join (room : String)
  | leave (room : String)
  | message (room text : String)

namespace Request

open Envelope

/-- The envelope of a request. -/
def envelope : Request → Envelope
  | hello token => Envelope.hello token
  | join room => Envelope.join room
  | leave room => Envelope.leave room
  | message room text => Envelope.message room text

/-- The kind of a request. -/
def kind : Request → Envelope.Kind
  | hello _ => .hello
  | join _ => .join
  | leave _ => .leave
  | message _ _ => .msg

/-- The fields of a request. A missing token is the empty text. -/
def fields : Request → List (String × Envelope.Value)
  | hello token => [("protocol", .number protocolVersion), ("token", .text (token.getD ""))]
  | join room => [("room", .text room)]
  | leave room => [("room", .text room)]
  | message room text => [("room", .text room), ("text", .text text)]

theorem envelope_eq (r : Request) : r.envelope = ofFields r.kind r.fields := by
  cases r <;> rfl

theorem plainKeys (r : Request) : PlainKeys r.fields := by
  have hnames : ∀ field ∈ r.fields, field.1 ∈ names := by
    cases r <;> simp [fields, names]
  exact fun field hf => bytes_name _ (hnames field hf)

theorem length_fields (r : Request) : r.fields.length ≤ 2 := by
  cases r <;> simp [fields]

/-- Fields of one kind are told apart by what is found for their keys. -/
theorem fields_eq_of_lookup {r r' : Request} (hk : r.kind = r'.kind)
    (hf : ∀ key, r.fields.lookup key = r'.fields.lookup key) : r.fields = r'.fields := by
  cases r <;> cases r' <;> try cases hk
  case hello.hello token token' => simpa [fields, List.lookup_cons] using hf "token"
  case join.join room room' => simpa [fields] using hf "room"
  case leave.leave room room' => simpa [fields] using hf "room"
  case message.message room text room' text' =>
    have hroom : room = room' := by simpa [fields] using hf "room"
    have htext : text = text' := by simpa [fields, List.lookup_cons] using hf "text"
    rw [hroom, htext]

theorem bytes_eq (r : Request) :
    r.envelope.payload.toUTF8.toList = (document r.kind r.fields).bytes := by
  rw [envelope_eq, bytes_payload r.kind r.plainKeys]

theorem carries_tokens (r : Request) :
    ∃ tokens, tokenize defaultCapacity r.envelope.payload.toUTF8.toList = .ok tokens ∧
      Carries ⟨r.envelope.payload.toUTF8.toList.toArray, tokens⟩ r.kind r.fields := by
  have hc : (document r.kind r.fields).count ≤ defaultCapacity := by
    have := r.length_fields
    rw [count_document, defaultCapacity]
    omega
  rw [bytes_eq, tokenize_bytes, if_pos hc]
  exact ⟨_, rfl, carries_cursor r.kind r.plainKeys⟩

/-- Requests with one payload differ in nothing that is sent. -/
theorem payload_eq_iff (r r' : Request) :
    r.envelope.payload = r'.envelope.payload ↔ r.kind = r'.kind ∧ r.fields = r'.fields := by
  constructor
  · intro h
    obtain ⟨tokens, ht, hc⟩ := r.carries_tokens
    obtain ⟨tokens', ht', hc'⟩ := r'.carries_tokens
    rw [← h] at ht' hc'
    cases ht.symm.trans ht'
    obtain ⟨hk, hf⟩ := hc.unique hc'
    exact ⟨hk, fields_eq_of_lookup hk hf⟩
  · rintro ⟨hk, hf⟩
    rw [envelope_eq, envelope_eq, hk, hf]

/-- A payload is a well-formed text that carries exactly the fields of its request, and payloads are
equal only for requests with the same kind and the same fields. -/
theorem payload_exact (r : Request) :
    (∃ d : Document, d.bytes = r.envelope.payload.toUTF8.toList ∧
        d.root.value = content r.kind r.fields) ∧
      Printed r.envelope.payload ∧
      (∃ tokens, tokenize defaultCapacity r.envelope.payload.toUTF8.toList = .ok tokens ∧
        Carries ⟨r.envelope.payload.toUTF8.toList.toArray, tokens⟩ r.kind r.fields) ∧
      ∀ r' : Request, r.envelope.payload = r'.envelope.payload ↔
        r.kind = r'.kind ∧ r.fields = r'.fields :=
  ⟨⟨_, r.bytes_eq.symm, value_document r.kind r.plainKeys⟩,
    r.envelope_eq ▸ printed_payload r.kind r.plainKeys, r.carries_tokens, r.payload_eq_iff⟩

end Request

end ChatLink
