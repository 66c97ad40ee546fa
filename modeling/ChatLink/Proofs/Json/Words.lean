import ChatLink.Json.Lexeme
import ChatLink.Proofs.Json.Reading

/-!
# Words of accepted texts

What a text needs to have tokens, whether it is well-formed or not : it consists of words with
blanks between them, strings have no bad escape, every bracket is closed by one of its kind, and no
container and no literal stands where a key is due or behind the value of a key
(`isWorded_of_tokenize`). This is less than the grammar asks for. The lexer lets separators be
missing or stray, keys have no value or a string as one more value, other values follow the first,
and a literal be `1x`.

`Outline` is what a reader of words has to remember for that. While a text is read, the anchor and
the open containers fit the outline of the words (`Lexer.Outlined`), and the bytes of the word that
has begun are kept apart (`Lexer.Pending`).
-/

namespace ChatLink.Json

open ChatLink.Text

/-- What is taken for a number or a name : the first byte of one, and printable bytes other than
commas, colons, closing brackets and blanks. -/
inductive IsLoose : List UInt8 → Prop where
  | intro {b : UInt8} {rest : List UInt8} : b = 0x2d ∨ isDigit b ∨ b ∈ [0x74, 0x66, 0x6e] →
      (∀ b ∈ rest, goesOn b) → IsLoose (b :: rest)

/-- How a word is written. -/
inductive Lexeme.Written : Lexeme → List UInt8 → Prop where
  | openObject : Written (.opening .object) [0x7b]
  | openArray : Written (.opening .array) [0x5b]
  | closeObject : Written (.closing .object) [0x7d]
  | closeArray : Written (.closing .array) [0x5d]
  | colon : Written .colon [0x3a]
  | comma : Written .comma [0x2c]
  | string {body : List UInt8} : IsBody body → Written (.string body) (0x22 :: (body ++ [0x22]))
  | primitive {literal : List UInt8} : IsLoose literal → Written (.primitive literal) literal

/-- The text is these words, with blanks anywhere between them. -/
inductive Words : List UInt8 → List Lexeme → Prop where
  | nil : Words [] []
  | blank {text : List UInt8} {words : List Lexeme} {b : UInt8} :
      Words text words → IsBlank b → Words (text ++ [b]) words
  | word {text l : List UInt8} {words : List Lexeme} {w : Lexeme} :
      Words text words → w.Written l → Words (text ++ l) (words ++ [w])

/-- What the next word hangs from. -/
inductive Place where
  /-- No container is open. -/
  | root
  | array
  | object
  /-- A key of an object that has no value. -/
  | key
  /-- A key of an object that has its value. -/
  | done
  /-- Behind a stray colon, where nothing is known. -/
  | stray
  deriving DecidableEq

namespace Place

/-- The place inside a container. -/
def inside : Kind → Place
  | .array => array
  | _ => object

/-- A container or a literal is no key, and a key takes one value. -/
def takesValue : Place → Bool
  | object | done => false
  | _ => true

/-- The place when one more value hangs from it. -/
def filled : Place → Place
  | key => done
  | place => place

/-- The place behind a comma. -/
def next : Place → Place
  | key | done => object
  | place => place

end Place

/-- What words leave open. -/
structure Outline where
  place : Place
  /-- The open containers, innermost first, each with the place behind it. -/
  outer : List (Kind × Place)
  /-- The last word, separators apart, is a key. -/
  keyed : Bool

namespace Outline

/-- Nothing is open. -/
def initial : Outline := ⟨.root, [], false⟩

/-- One more word, if it may stand here. -/
def step (o : Outline) : Lexeme → Option Outline
  | .opening kind =>
    if o.place.takesValue then some ⟨.inside kind, (kind, o.place.filled) :: o.outer, false⟩
    else none
  | .closing kind =>
    match o.outer with
    | (kind', place) :: outer => if kind' = kind then some ⟨place, outer, false⟩ else none
    | [] => none
  | .colon => some { o with place := if o.keyed then .key else .stray }
  | .comma => some { o with place := o.place.next }
  | .string _ => some ⟨o.place.filled, o.outer, o.place = .object⟩
  | .primitive _ => if o.place.takesValue then some ⟨o.place.filled, o.outer, false⟩ else none

end Outline

/-- The text consists of words that may stand where they do, and no container is left open. -/
def IsWorded (text : List UInt8) : Prop :=
  ∃ words o, Words text words ∧ words.foldlM Outline.step .initial = some o ∧ o.outer = []

theorem Lexeme.Written.ne_nil {w : Lexeme} {l : List UInt8} (h : w.Written l) : l ≠ [] := by
  cases h with
  | primitive hl =>
    cases hl
    simp
  | _ => simp

theorem Words.of_nil {text : List UInt8} {words : List Lexeme} (h : Words text words)
    (ht : text = []) : words = [] := by
  cases h with
  | nil => rfl
  | blank => simp at ht
  | word _ hl => exact absurd (List.append_eq_nil_iff.1 ht).2 hl.ne_nil

/-- One byte is a blank or one word. -/
theorem Words.of_singleton {b : UInt8} {words : List Lexeme} (h : Words [b] words) :
    IsBlank b ∧ words = [] ∨ ∃ w, w.Written [b] ∧ words = [w] := by
  obtain ⟨text, ht, hw⟩ : ∃ text, text = [b] ∧ Words text words := ⟨_, rfl, h⟩
  cases hw with
  | nil => cases ht
  | blank hw hb =>
    obtain ⟨htext, rfl⟩ := List.append_singleton_inj.1 (ht.trans (List.nil_append _).symm)
    exact .inl ⟨hb, hw.of_nil htext⟩
  | word hw hl =>
    rcases List.append_eq_singleton_iff.1 ht with ⟨htext, rfl⟩ | ⟨-, hnil⟩
    · exact .inr ⟨_, hl, by rw [hw.of_nil htext, List.nil_append]⟩
    · exact absurd hnil hl.ne_nil

/-! ## Words that have begun -/

/-- What a byte between two tokens is, by its sign. -/
theorem sign_spec (b : UInt8) :
    match Sign.of b with
    | .opening kind => Lexeme.Written (.opening kind) [b]
    | .closing kind => Lexeme.Written (.closing kind) [b]
    | .colon => b = 0x3a
    | .comma => b = 0x2c
    | .quote => b = 0x22
    | .blank => IsBlank b
    | .primitive => b = 0x2d ∨ isDigit b ∨ b ∈ [0x74, 0x66, 0x6e]
    | .other => True := by
  fun_cases Sign.of b with
  | case1 => exact .openObject
  | case2 => exact .openArray
  | case3 => exact .closeObject
  | case4 => exact .closeArray
  | case16 => exact .inr (.inl ‹_›)
  | case17 => trivial
  | _ => simp [IsBlank]

theorem mem_of_isShortEscape : ∀ e : UInt8, isShortEscape e →
    e ∈ [0x22, 0x5c, 0x2f, 0x62, 0x66, 0x6e, 0x72, 0x74] := by
  decide +kernel

theorem isBody_unicode : ∀ {ds : List UInt8}, (∀ d ∈ ds, isHex d) → ds.length = 4 →
    IsBody (0x5c :: 0x75 :: ds)
  | [_, _, _, _], h, _ =>
    .unicode (h _ (by simp)) (h _ (by simp)) (h _ (by simp)) (h _ (by simp)) .nil

namespace Lexer

/-- The bytes of the word that has begun, which may stand behind this outline. -/
inductive Pending (o : Outline) : Mode → List UInt8 → Prop where
  | between : Pending o .between []
  | string {start : Nat} {body : List UInt8} :
      IsBody body → Pending o (.string start) (0x22 :: body)
  | escape {start : Nat} {body : List UInt8} :
      IsBody body → Pending o (.escape start) (0x22 :: (body ++ [0x5c]))
  | digits {start left : Nat} {body ds : List UInt8} : IsBody body → (∀ d ∈ ds, isHex d) →
      ds.length + left = 4 → 0 < left →
        Pending o (.digits start left) (0x22 :: (body ++ 0x5c :: 0x75 :: ds))
  | primitive {start : Nat} {literal : List UInt8} :
      IsLoose literal → o.place.takesValue → Pending o (.primitive start) literal

namespace Pending

variable {o : Outline} {start : Nat} {pending : List UInt8} {b : UInt8}

theorem plain (h : Pending o (.string start) pending) (hq : b ≠ 0x22) (hs : b ≠ 0x5c) :
    Pending o (.string start) (pending ++ [b]) := by
  cases h with
  | string hbody => exact .string (hbody.append (.plain hq hs .nil))

theorem backslash (h : Pending o (.string start) pending) :
    Pending o (.escape start) (pending ++ [0x5c]) := by
  cases h with
  | string hbody => exact .escape hbody

theorem short (h : Pending o (.escape start) pending) (hb : isShortEscape b) :
    Pending o (.string start) (pending ++ [b]) := by
  cases h with
  | escape hbody =>
    have hescape := hbody.append (.short (mem_of_isShortEscape b hb) .nil)
    simpa using Pending.string hescape

theorem unicode (h : Pending o (.escape start) pending) :
    Pending o (.digits start 4) (pending ++ [0x75]) := by
  cases h with
  | escape hbody =>
    have hdigits : ∀ d ∈ ([] : List UInt8), isHex d := nofun
    simpa using Pending.digits hbody hdigits rfl (by decide)

theorem digit {left : Nat} (h : Pending o (.digits start left) pending) (hb : isHex b) :
    Pending o (if left ≤ 1 then .string start else .digits start (left - 1)) (pending ++ [b]) := by
  cases h with
  | @digits _ _ _ ds hbody hds hlength hleft =>
    have hall : ∀ d ∈ ds ++ [b], isHex d := List.forall_mem_append.2 ⟨hds, by simpa using hb⟩
    have hcount : (ds ++ [b]).length = ds.length + 1 := List.length_append
    split
    · have hescape := hbody.append (isBody_unicode hall (by omega))
      simpa using Pending.string hescape
    · have hpending : Pending o (.digits start (left - 1)) _ :=
        .digits hbody hall (by omega) (by omega)
      simpa using hpending

theorem more (h : Pending o (.primitive start) pending) (hb : goesOn b) :
    Pending o (.primitive start) (pending ++ [b]) := by
  cases h with
  | primitive hl hv =>
    obtain ⟨hfirst, hrest⟩ := hl
    exact .primitive (.intro hfirst (List.forall_mem_append.2 ⟨hrest, by simpa using hb⟩)) hv

end Pending

/-! ## Outlines that a state fits -/

/-- The token is a key of an object. -/
def IsKey (tokens : Array Token) (t : Token) : Prop :=
  t.kind = .string ∧ ∃ i u, t.parent = some i ∧ tokens[i]? = some u ∧ u.kind = .object

/-- The anchor is such a place. -/
def Fits (tokens : Array Token) (anchor : Option Nat) : Place → Prop
  | .root => anchor = none
  | .array => ∃ i t, anchor = some i ∧ tokens[i]? = some t ∧ t.kind = .array
  | .object => ∃ i t, anchor = some i ∧ tokens[i]? = some t ∧ t.kind = .object
  | .key => ∃ i t, anchor = some i ∧ tokens[i]? = some t ∧ IsKey tokens t ∧ t.size = 0
  | .done => ∃ i t, anchor = some i ∧ tokens[i]? = some t ∧ IsKey tokens t ∧ t.size ≠ 0
  | .stray => True

/-- Later tokens may be more, and may count more below them. -/
def Grows (tokens tokens' : Array Token) : Prop :=
  ∀ (i : Nat) (t : Token), tokens[i]? = some t →
    ∃ t', tokens'[i]? = some t' ∧ t'.kind = t.kind ∧ t'.parent = t.parent ∧ t.size ≤ t'.size

theorem IsKey.grows {tokens tokens' : Array Token} {t t' : Token} (h : IsKey tokens t)
    (hg : Grows tokens tokens') (hk : t'.kind = t.kind) (hp : t'.parent = t.parent) :
    IsKey tokens' t' := by
  obtain ⟨hs, i, u, hi, hu, ho⟩ := h
  obtain ⟨u', hu', hk', -⟩ := hg i u hu
  exact ⟨hk.trans hs, i, u', hp.trans hi, hu', hk'.trans ho⟩

/-- A key may come to have a value; all other places stay what they are. -/
theorem Fits.grows {tokens tokens' : Array Token} {anchor : Option Nat} {place : Place}
    (h : Fits tokens anchor place) (hg : Grows tokens tokens') (hne : place ≠ .key) :
    Fits tokens' anchor place := by
  cases place with
  | root => exact h
  | array | object =>
    obtain ⟨i, t, hi, ht, hk⟩ := h
    obtain ⟨t', ht', hk', -⟩ := hg i t ht
    exact ⟨i, t', hi, ht', hk'.trans hk⟩
  | key => exact absurd rfl hne
  | done =>
    obtain ⟨i, t, hi, ht, hk, hs⟩ := h
    obtain ⟨t', ht', hk', hp', hs'⟩ := hg i t ht
    exact ⟨i, t', hi, ht', hk.grows hg hk' hp', by omega⟩
  | stray => trivial

variable {capacity : Nat} {s s' : Lexer} {done bytes : List UInt8}

theorem grows_hung (s : Lexer) (kind : Kind) (start stop : Nat) :
    Grows s.tokens (s.hung kind start stop) := by
  intro i t ht
  have hi := (Array.getElem?_eq_some_iff.1 ht).1
  rw [getElem?_hung, Array.getElem?_push, if_neg (by omega), ht, Option.map_some]
  refine ⟨_, rfl, ?_⟩
  split
  · exact ⟨rfl, rfl, Nat.le_succ _⟩
  · exact ⟨rfl, rfl, Nat.le_refl _⟩

theorem grows_modify (tokens : Array Token) (i stop : Nat) :
    Grows tokens (tokens.modify i fun t => { t with stop := stop }) := by
  intro j t ht
  rw [Array.getElem?_modify, ht]
  split
  · exact ⟨_, rfl, rfl, rfl, Nat.le_refl _⟩
  · exact ⟨_, rfl, rfl, rfl, Nat.le_refl _⟩

/-- One more token hangs from the anchor. -/
theorem Fits.hung {place : Place} (h : Fits s.tokens s.anchor place) (kind : Kind)
    (start stop : Nat) : Fits (s.hung kind start stop) s.anchor place.filled := by
  have hg := grows_hung s kind start stop
  cases place with
  | key =>
    obtain ⟨i, t, hi, ht, hk, -⟩ := h
    have hlt := (Array.getElem?_eq_some_iff.1 ht).1
    have hcount : (s.hung kind start stop)[i]? = some { t with size := t.size + 1 } := by
      rw [getElem?_hung, Array.getElem?_push, if_neg (by omega), ht, Option.map_some, if_pos hi]
    exact ⟨i, _, hi, hcount, hk.grows hg rfl rfl, Nat.succ_ne_zero t.size⟩
  | _ => exact h.grows hg nofun

/-- The token that was hung last. -/
theorem getElem?_hung_size (s : Lexer) (kind : Kind) (start stop : Nat) :
    (s.hung kind start stop)[s.tokens.size]? = some
      ⟨kind, start, stop, if s.anchor = some s.tokens.size then 1 else 0, s.anchor⟩ := by
  rw [getElem?_hung, Array.getElem?_push, if_pos rfl, Option.map_some]
  split <;> rfl

/-- The container is open, and its anchor is the place behind it. -/
def Opens (tokens : Array Token) (i : Nat) (p : Kind × Place) : Prop :=
  p.2 ≠ .key ∧ ∃ t, tokens[i]? = some t ∧ t.kind = p.1 ∧ Fits tokens t.parent p.2

theorem Opens.grows {tokens tokens' : Array Token} {i : Nat} {p : Kind × Place}
    (h : Opens tokens i p) (hg : Grows tokens tokens') : Opens tokens' i p := by
  obtain ⟨hne, t, ht, hk, hf⟩ := h
  obtain ⟨t', ht', hk', hp', -⟩ := hg i t ht
  exact ⟨hne, t', ht', hk'.trans hk, hp' ▸ hf.grows hg hne⟩

/-- The state fits the outline. -/
structure Outlined (s : Lexer) (o : Outline) : Prop where
  place : Fits s.tokens s.anchor o.place
  outer : List.Forall₂ (Opens s.tokens) s.opened o.outer
  keyed : o.keyed → Fits s.tokens (some (s.tokens.size - 1)) .key

namespace Outlined

variable {o : Outline}

/-- It is said of the tokens, the anchor and the open containers. -/
theorem congr (h : s.Outlined o) (ht : s'.tokens = s.tokens) (ha : s'.anchor = s.anchor)
    (ho : s'.opened = s.opened) : s'.Outlined o := by
  refine ⟨?_, ?_, ?_⟩
  · rw [ht, ha]
    exact h.place
  · rw [ht, ho]
    exact h.outer
  · rw [ht]
    exact h.keyed

theorem takesValue (h : s.Outlined o) (hv : s.takesValue) : o.place.takesValue := by
  have hplace := h.place
  unfold Lexer.takesValue holder at hv
  cases ho : o.place with
  | object =>
    rw [ho] at hplace
    obtain ⟨i, t, hi, ht, hk⟩ := hplace
    simp [hi, ht, hk] at hv
  | done =>
    rw [ho] at hplace
    obtain ⟨i, t, hi, ht, ⟨hk, -⟩, hs⟩ := hplace
    simp [hi, ht, hk, hs] at hv
  | _ => rfl

theorem colon (h : s.Outlined o) :
    s.awaitValue.Outlined { o with place := if o.keyed then .key else .stray } := by
  refine ⟨?_, h.outer, h.keyed⟩
  split
  · next hk =>
    have hnewest := h.keyed hk
    obtain ⟨i, t, hi, ht, -⟩ := hnewest
    have hsize : s.tokens.isEmpty = false := by
      have := (Array.getElem?_eq_some_iff.1 ht).1
      rw [Array.isEmpty_eq_false_iff]
      rintro h
      simp [h] at this
    rw [awaitValue, hsize]
    exact h.keyed hk
  · trivial

theorem comma (h : s.Outlined o) : s.nextMember.Outlined { o with place := o.place.next } := by
  have hanchor : Fits s.tokens s.nextMember.anchor o.place.next := by
    have hplace := h.place
    -- the holder decides whether the anchor stays or goes back to its parent
    unfold nextMember holder
    cases ho : o.place with
    | root =>
      rw [ho] at hplace
      rw [show s.anchor = none from hplace]
      exact hplace
    | array | object =>
      rw [ho] at hplace
      obtain ⟨i, t, hi, ht, hk⟩ := hplace
      simp only [hi, ht, Option.bind_some, hk, Kind.isContainer, if_true]
      exact ⟨i, t, rfl, ht, hk⟩
    | key | done =>
      rw [ho] at hplace
      obtain ⟨i, t, hi, ht, ⟨hk, hparent⟩, -⟩ := hplace
      simp only [hi, ht, Option.bind_some, hk, Kind.isContainer]
      exact hparent
    | stray => trivial
  rw [nextMember_eq]
  exact ⟨hanchor, h.outer, h.keyed⟩

/-- A string or a literal hangs from the anchor. -/
theorem hang (h : s.Outlined o) {kind : Kind} {start stop : Nat} {keyed : Bool}
    (ht : s'.tokens = s.hung kind start stop) (ha : s'.anchor = s.anchor)
    (ho : s'.opened = s.opened) (hk : keyed → kind = .string ∧ o.place = .object) :
    s'.Outlined ⟨o.place.filled, o.outer, keyed⟩ := by
  have hg := grows_hung s kind start stop
  constructor
  · rw [ht, ha]
    exact h.place.hung kind start stop
  · rw [ht, ho]
    exact h.outer.imp fun _ _ hi => hi.grows hg
  · intro hkeyed
    obtain ⟨rfl, hplace⟩ := hk hkeyed
    have hobject := h.place
    rw [hplace] at hobject
    obtain ⟨i, u, hi, hu, hkind⟩ := hobject
    have hlt := (Array.getElem?_eq_some_iff.1 hu).1
    have hnew := getElem?_hung_size s .string start stop
    rw [hi, if_neg (by simp; omega)] at hnew
    obtain ⟨u', hu', hkind', -⟩ := hg i u hu
    rw [ht, size_hung, Nat.add_sub_cancel]
    exact ⟨_, _, rfl, hnew, ⟨rfl, i, u', rfl, hu', hkind'.trans hkind⟩, rfl⟩

/-- A container is opened. -/
theorem opening (h : s.Outlined o) {kind : Kind} {start stop : Nat} (hc : kind.isContainer)
    (ht : s'.tokens = s.hung kind start stop) (ha : s'.anchor = some s.tokens.size)
    (ho : s'.opened = s.tokens.size :: s.opened) :
    s'.Outlined ⟨.inside kind, (kind, o.place.filled) :: o.outer, false⟩ := by
  have hg := grows_hung s kind start stop
  have hnew := getElem?_hung_size s kind start stop
  constructor
  · rw [ht, ha]
    cases kind with
    | object | array => exact ⟨_, _, rfl, hnew, rfl⟩
    | string | primitive => cases hc
  · rw [ht, ho]
    refine .cons ⟨?_, _, hnew, rfl, h.place.hung kind start stop⟩
      (h.outer.imp fun _ _ hi => hi.grows hg)
    cases o.place <;> simp [Place.filled]
  · nofun

/-- The innermost container is closed. -/
theorem closing (h : s.Outlined o) {i stop : Nat} {t : Token} (ho : s.opened = i :: s'.opened)
    (hi : s.tokens[i]? = some t)
    (ht : s'.tokens = s.tokens.modify i fun t => { t with stop := stop })
    (ha : s'.anchor = t.parent) :
    ∃ place rest, o.outer = (t.kind, place) :: rest ∧ s'.Outlined ⟨place, rest, false⟩ := by
  have hg := grows_modify s.tokens i stop
  have houter := h.outer
  rw [ho] at houter
  obtain ⟨⟨kind, place⟩, rest, hopens, hrest, heq⟩ := List.forall₂_cons_left_iff.1 houter
  obtain ⟨hne, t', ht', rfl, hf⟩ := hopens
  cases hi.symm.trans ht'
  refine ⟨place, rest, heq, ?_, ?_, nofun⟩
  · rw [ht, ha]
    exact hf.grows hg hne
  · rw [ht]
    exact hrest.imp fun _ _ hj => hj.grows hg

end Outlined

/-! ## Runs -/

/-- The bytes that were read are words with their blanks, and those of a word that has begun. -/
def Worded (done : List UInt8) (s : Lexer) : Prop :=
  ∃ text pending words o, done = text ++ pending ∧ Words text words ∧
    words.foldlM Outline.step .initial = some o ∧ s.Outlined o ∧ Pending o s.mode pending

theorem worded_initial : Worded [] initial :=
  ⟨[], [], [], .initial, rfl, .nil, rfl, ⟨rfl, .nil, nofun⟩, .between⟩

/-- A word is complete. -/
theorem worded_of_written {text l : List UInt8} {words : List Lexeme} {w : Lexeme}
    {o o' : Outline} (hw : Words text words)
    (hn : words.foldlM Outline.step .initial = some o) (hl : w.Written l)
    (ho : o.step w = some o') (hs : s.Outlined o') (hm : s.mode = .between) :
    Worded (text ++ l) s := by
  refine ⟨text ++ l, [], words ++ [w], o', (List.append_nil _).symm, hw.word hl, ?_, hs,
    hm ▸ .between⟩
  rw [List.foldlM_append, hn]
  simpa using ho

/-- The word that has begun goes on. -/
theorem worded_of_pending {text pending : List UInt8} {words : List Lexeme} {o : Outline}
    {mode : Mode} (hw : Words text words) (hn : words.foldlM Outline.step .initial = some o)
    (ho : s.Outlined o) (hp : Pending o mode (pending ++ bytes)) :
    Worded (text ++ pending ++ bytes) (s.advance mode) :=
  ⟨text, pending ++ bytes, words, o, List.append_assoc .., hw, hn, ho.congr rfl rfl rfl, hp⟩

theorem Worded.reads (h : Worded done s) (hr : Reads capacity s bytes s') :
    Worded (done ++ bytes) s' := by
  obtain ⟨text, pending, words, o, rfl, hw, hn, ho, hp⟩ := h
  cases hr with
  | @blank b hm hb =>
    rw [hm] at hp
    cases hp
    have hblank : IsBlank b := by simpa only [hb] using sign_spec b
    rw [List.append_nil]
    exact ⟨text ++ [b], [], words, o, (List.append_nil _).symm, hw.blank hblank, hn,
      ho.congr rfl rfl rfl, .between⟩
  | @colon b hm hb =>
    rw [hm] at hp
    cases hp
    obtain rfl : b = 0x3a := by simpa only [hb] using sign_spec b
    rw [List.append_nil]
    exact worded_of_written hw hn .colon rfl (ho.colon.congr rfl rfl rfl) rfl
  | @comma b hm hb =>
    rw [hm] at hp
    cases hp
    obtain rfl : b = 0x2c := by simpa only [hb] using sign_spec b
    rw [List.append_nil]
    exact worded_of_written hw hn .comma rfl (ho.comma.congr rfl rfl rfl) rfl
  | @opening b kind hm hb hv =>
    rw [hm] at hp
    cases hp
    have hl : Lexeme.Written (.opening kind) [b] := by simpa only [hb] using sign_spec b
    have hc : kind.isContainer := by cases hl <;> rfl
    rw [List.append_nil]
    exact worded_of_written hw hn hl (if_pos (ho.takesValue hv)) (ho.opening hc rfl rfl rfl) rfl
  | @closing b i outer t hm hb hopened ht =>
    rw [hm] at hp
    cases hp
    have hl : Lexeme.Written (.closing t.kind) [b] := by simpa only [hb] using sign_spec b
    let closed : Lexer := ⟨s.position + 1,
      s.tokens.modify i fun t => { t with stop := s.position + 1 }, t.parent, outer, .between⟩
    obtain ⟨place, rest, houter, hs⟩ : ∃ place rest, o.outer = (t.kind, place) :: rest ∧
        closed.Outlined ⟨place, rest, false⟩ := ho.closing hopened ht rfl rfl
    rw [List.append_nil]
    refine worded_of_written hw hn hl ?_ hs rfl
    simp only [Outline.step, houter, if_true]
  | @quote b hm hb =>
    rw [hm] at hp
    cases hp
    obtain rfl : b = 0x22 := by simpa only [hb] using sign_spec b
    exact worded_of_pending hw hn ho (.string .nil)
  | plain hm hq hs => exact worded_of_pending hw hn ho ((hm ▸ hp).plain hq hs)
  | backslash hm => exact worded_of_pending hw hn ho (hm ▸ hp).backslash
  | short hm hb => exact worded_of_pending hw hn ho ((hm ▸ hp).short hb)
  | unicode hm => exact worded_of_pending hw hn ho (hm ▸ hp).unicode
  | digit hm hb => exact worded_of_pending hw hn ho ((hm ▸ hp).digit hb)
  | unquote hm =>
    rw [hm] at hp
    cases hp with
    | @string _ body hbody =>
      rw [List.append_assoc]
      exact worded_of_written hw hn (.string hbody) rfl
        (ho.hang rfl rfl rfl fun hk => ⟨rfl, of_decide_eq_true hk⟩) rfl
  | @literal b hm hb hv =>
    rw [hm] at hp
    cases hp
    have hfirst : b = 0x2d ∨ isDigit b ∨ b ∈ [0x74, 0x66, 0x6e] := by
      simpa only [hb] using sign_spec b
    exact worded_of_pending hw hn ho (.primitive (.intro hfirst (by simp)) (ho.takesValue hv))
  | more hm hb => exact worded_of_pending hw hn ho ((hm ▸ hp).more hb)
  | ended hm =>
    rw [hm] at hp
    cases hp with
    | primitive hl hv =>
      rw [List.append_nil]
      exact worded_of_written hw hn (.primitive hl) (if_pos hv) (ho.hang rfl rfl rfl nofun) rfl

end Lexer

/-- A text that has tokens consists of words that may stand where they do. -/
theorem isWorded_of_tokenize {capacity : Nat} {text : List UInt8} {tokens : Array Token}
    (h : tokenize capacity text = .ok tokens) : IsWorded text := by
  obtain ⟨s, ⟨done, pending, words, o, rfl, hw, hn, ho, hp⟩, hm, hopened, -⟩ :=
    Lexer.tokenize_induction Lexer.worded_initial Lexer.Worded.reads h
  rw [hm] at hp
  cases hp
  have houter := ho.outer
  rw [hopened] at houter
  exact ⟨words, o, by rwa [List.append_nil], hn, List.forall₂_nil_left_iff.1 houter⟩

end ChatLink.Json
