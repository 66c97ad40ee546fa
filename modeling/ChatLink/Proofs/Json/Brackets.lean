import ChatLink.Proofs.Json.Links
import ChatLink.Proofs.Json.Words
import Mathlib.Data.List.Basic

/-!
# Brackets and quotes of accepted texts

Where tokens stand in a text that was accepted, well-formed or not (`arranged_of_tokenize`). The
brackets that stand in no string and in no primitive (`brackets`) are balanced, and every container
begins at an opening bracket and ends behind the one that matches it (`Encloses`). Strings stand
between quotes, spans are nested, and links agree with them.

While a text is read, the brackets so far leave those of the open containers without a match
(`Levels`). A closing bracket finds the innermost of them, since the ones behind it are balanced.
-/

namespace ChatLink.Json

open ChatLink.Text

/-! ## Brackets -/

/-- The byte at this offset stands in no string and in no primitive. -/
def isBare (tokens : Array Token) (p : Nat) : Bool :=
  tokens.all fun t => t.kind.isContainer || p < t.start || t.stop ≤ p

/-- The sign is one of a bracket. -/
def Sign.isBracket : Sign → Bool
  | opening _ | closing _ => true
  | quote | colon | comma | blank | primitive | other => false

/-- The bracket that stands here, with its offset, unless it stands in a string or a primitive. -/
def bracket? (tokens : Array Token) (b : UInt8 × Nat) : Option (Nat × Sign) :=
  if isBare tokens b.2 && (Sign.of b.1).isBracket then some (b.2, Sign.of b.1) else none

/-- The brackets of a text that stand in no string and in no primitive, with their offsets. -/
def brackets (text : List UInt8) (tokens : Array Token) : List (Nat × Sign) :=
  text.zipIdx.filterMap (bracket? tokens)

/-- Every opening bracket has a closing one of its kind behind it, and those between the two are
balanced. -/
inductive Balanced : List (Nat × Sign) → Prop where
  | nil : Balanced []
  | wrap {p q : Nat} {kind : Kind} {inner rest : List (Nat × Sign)} :
      Balanced inner → Balanced rest →
        Balanced ((p, .opening kind) :: (inner ++ (q, .closing kind) :: rest))

/-- The token begins at an opening bracket of its kind and ends behind the one that matches it. -/
def Encloses (marks : List (Nat × Sign)) (t : Token) : Prop :=
  ∃ before inner after q, t.stop = q + 1 ∧ Balanced inner ∧
    marks = before ++ (t.start, .opening t.kind) :: (inner ++ (q, .closing t.kind) :: after)

theorem Balanced.append {marks more : List (Nat × Sign)} (h : Balanced marks)
    (h' : Balanced more) : Balanced (marks ++ more) := by
  induction h with
  | nil => exact h'
  | wrap hinner _ _ ih => simpa using hinner.wrap ih

theorem Encloses.append {marks : List (Nat × Sign)} {t : Token} (h : Encloses marks t)
    (more : List (Nat × Sign)) : Encloses (marks ++ more) t := by
  obtain ⟨before, inner, after, q, hstop, hinner, rfl⟩ := h
  exact ⟨before, inner, after ++ more, q, hstop, hinner, by simp⟩

section Bare

variable {tokens tokens' : Array Token}

theorem isBare_iff {p : Nat} : isBare tokens p = true ↔
    ∀ (i : Nat) (t : Token), tokens[i]? = some t →
      t.kind.isContainer = true ∨ p < t.start ∨ t.stop ≤ p := by
  rw [isBare, Array.all_eq_true]
  constructor
  · intro h i t ht
    obtain ⟨hi, rfl⟩ := Array.getElem?_eq_some_iff.1 ht
    simpa [or_assoc] using h i hi
  · intro h i hi
    simpa [or_assoc] using h i _ (Array.getElem?_eq_getElem hi)

theorem bracket?_congr {b : UInt8 × Nat} (h : isBare tokens' b.2 = isBare tokens b.2) :
    bracket? tokens' b = bracket? tokens b := by
  rw [bracket?, bracket?, h]

theorem bracket?_of_not_isBracket {b : UInt8 × Nat} (h : (Sign.of b.1).isBracket = false) :
    bracket? tokens b = none := by
  rw [bracket?, h, Bool.and_false]
  rfl

theorem bracket?_of_not_isBare {b : UInt8 × Nat} (h : isBare tokens b.2 = false) :
    bracket? tokens b = none := by
  rw [bracket?, h]
  rfl

/-- What was read is followed by more; tokens that come may cover that, but not what was read. -/
theorem brackets_append {text more : List UInt8}
    (h : ∀ p < text.length, isBare tokens' p = isBare tokens p) :
    brackets (text ++ more) tokens' =
      brackets text tokens ++ (more.zipIdx text.length).filterMap (bracket? tokens') := by
  rw [brackets, List.zipIdx_append, List.filterMap_append, Nat.zero_add, brackets]
  congr 1
  refine List.filterMap_congr fun b hb => bracket?_congr (h b.2 ?_)
  obtain ⟨-, hlt, -⟩ := List.mem_zipIdx hb
  simpa using hlt

theorem brackets_append_of_none {text more : List UInt8}
    (h : ∀ p < text.length, isBare tokens' p = isBare tokens p)
    (hmore : ∀ b ∈ more.zipIdx text.length, bracket? tokens' b = none) :
    brackets (text ++ more) tokens' = brackets text tokens := by
  rw [brackets_append h, List.filterMap_eq_nil_iff.2 hmore, List.append_nil]

/-- A bracket behind all tokens. -/
theorem brackets_snoc {text : List UInt8} {b : UInt8}
    (h : ∀ p < text.length, isBare tokens' p = isBare tokens p)
    (hbare : isBare tokens' text.length = true) (hb : (Sign.of b).isBracket = true) :
    brackets (text ++ [b]) tokens' = brackets text tokens ++ [(text.length, Sign.of b)] := by
  rw [brackets_append h]
  simp [bracket?, hbare, hb]

end Bare

/-- How many bytes of a word come before its frontier : the quote of a string. -/
def Mode.lead : Mode → Nat
  | .string _ | .escape _ | .digits _ _ => 1
  | .between | .primitive _ => 0

namespace Lexer

variable {capacity : Nat} {s s' : Lexer} {done bytes : List UInt8}

/-! ## Open levels -/

/-- The brackets so far : one without a match for each open container, and balanced ones before,
between and behind them. -/
inductive Levels (tokens : Array Token) : List Nat → List (Nat × Sign) → Prop where
  | root {marks : List (Nat × Sign)} : Balanced marks → Levels tokens [] marks
  | inside {i : Nat} {outer : List Nat} {t : Token} {before inner : List (Nat × Sign)} :
      tokens[i]? = some t → Levels tokens outer before → Balanced inner →
        Levels tokens (i :: outer) (before ++ (t.start, .opening t.kind) :: inner)

/-- Tokens that are there keep their kind and their first byte. -/
def Keeps (tokens tokens' : Array Token) : Prop :=
  ∀ (i : Nat) (t : Token), tokens[i]? = some t →
    ∃ t', tokens'[i]? = some t' ∧ t'.kind = t.kind ∧ t'.start = t.start

theorem keeps_hung (s : Lexer) (kind : Kind) (start stop : Nat) :
    Keeps s.tokens (s.hung kind start stop) := by
  intro i t ht
  have hi := (Array.getElem?_eq_some_iff.1 ht).1
  rw [getElem?_hung, Array.getElem?_push, if_neg (Nat.ne_of_lt hi), ht, Option.map_some]
  refine ⟨_, rfl, ?_⟩
  split <;> exact ⟨rfl, rfl⟩

theorem keeps_modify (tokens : Array Token) (i stop : Nat) :
    Keeps tokens (tokens.modify i fun t => { t with stop := stop }) := by
  intro j t ht
  rw [Array.getElem?_modify, ht]
  split
  · exact ⟨_, rfl, rfl, rfl⟩
  · exact ⟨_, rfl, rfl, rfl⟩

namespace Levels

variable {tokens tokens' : Array Token} {i : Nat} {opened outer : List Nat}
  {marks more : List (Nat × Sign)} {t : Token}

theorem keeps (h : Levels tokens opened marks) (hk : Keeps tokens tokens') :
    Levels tokens' opened marks := by
  induction h with
  | root hb => exact .root hb
  | inside ht _ hinner ih =>
    obtain ⟨t', ht', hkind, hstart⟩ := hk _ _ ht
    rw [← hkind, ← hstart]
    exact .inside ht' ih hinner

/-- What is balanced belongs to the innermost level. -/
theorem append (h : Levels tokens opened marks) (hmore : Balanced more) :
    Levels tokens opened (marks ++ more) := by
  cases h with
  | root hb => exact .root (hb.append hmore)
  | inside ht hbefore hinner =>
    rw [List.append_assoc, List.cons_append]
    exact .inside ht hbefore (hinner.append hmore)

/-- A closing bracket matches the one that opens the innermost level. -/
theorem close (h : Levels tokens (i :: outer) marks) (ht : tokens[i]? = some t) (q : Nat) :
    Levels tokens outer (marks ++ [(q, .closing t.kind)]) ∧
      Encloses (marks ++ [(q, .closing t.kind)]) { t with stop := q + 1 } := by
  cases h with
  | @inside _ _ t' before inner ht' hbefore hinner =>
    obtain rfl := Option.some.inj (ht.symm.trans ht')
    rw [List.append_assoc, List.cons_append]
    exact ⟨hbefore.append (hinner.wrap .nil), before, inner, [], q, rfl, hinner, rfl⟩

end Levels

/-- The brackets so far match the containers. -/
structure Matches (s : Lexer) (marks : List (Nat × Sign)) : Prop where
  levels : Levels s.tokens s.opened marks
  closed : ∀ (i : Nat) (t : Token), s.tokens[i]? = some t → t.kind.isContainer →
    i ∉ s.opened → Encloses marks t
  begun : ∀ (p : Nat) (kind : Kind), (p, .opening kind) ∈ marks →
    ∃ (i : Nat) (t : Token), s.tokens[i]? = some t ∧ t.kind = kind ∧ t.start = p

namespace Matches

variable {marks : List (Nat × Sign)} {kind : Kind} {start stop i : Nat} {outer : List Nat}
  {t : Token}

theorem pass (h : s.Matches marks) (ht : s'.tokens = s.tokens) (ho : s'.opened = s.opened) :
    s'.Matches marks := by
  obtain ⟨position, tokens, anchor, opened, mode⟩ := s'
  obtain rfl : tokens = s.tokens := ht
  obtain rfl : opened = s.opened := ho
  exact ⟨h.levels, h.closed, h.begun⟩

theorem begun_keeps {tokens : Array Token} {p : Nat} (h : s.Matches marks)
    (hk : Keeps s.tokens tokens) (hp : (p, .opening kind) ∈ marks) :
    ∃ (i : Nat) (t : Token), tokens[i]? = some t ∧ t.kind = kind ∧ t.start = p := by
  obtain ⟨i, t, ht, rfl, rfl⟩ := h.begun p kind hp
  obtain ⟨t', ht', hkind, hstart⟩ := hk i t ht
  exact ⟨i, t', ht', hkind, hstart⟩

theorem encloses_congr {u : Token} (h : Encloses marks t) (hk : u.kind = t.kind)
    (hs : u.start = t.start) (he : u.stop = t.stop) : Encloses marks u := by
  rwa [Encloses, hk, hs, he]

/-- A string or a primitive has no brackets of its own. -/
theorem hang (h : s.Matches marks) (ht : s'.tokens = s.hung kind start stop)
    (ho : s'.opened = s.opened) (hk : kind.isContainer = false) : s'.Matches marks where
  levels := by
    rw [ht, ho]
    exact h.levels.keeps (keeps_hung s kind start stop)
  closed := by
    rw [ht, ho]
    intro i t hi hc hopen
    rcases span_of_getElem?_hung hi with ⟨t', ht', hkind, hs, he⟩ | ⟨-, hkind, -⟩
    · exact encloses_congr (h.closed i t' ht' (hkind ▸ hc) hopen) hkind hs he
    · rw [hkind, hk] at hc
      cases hc
  begun := by
    rw [ht]
    exact fun p kind' hp => h.begun_keeps (keeps_hung s kind start stop) hp

/-- An opening bracket begins one more level. -/
theorem opening (h : s.Matches marks) (ht : s'.tokens = s.hung kind start stop)
    (ho : s'.opened = s.tokens.size :: s.opened) :
    s'.Matches (marks ++ [(start, .opening kind)]) := by
  have hkeeps := keeps_hung s kind start stop
  have hnew := getElem?_hung_size s kind start stop
  constructor
  case levels =>
    rw [ht, ho]
    exact .inside hnew (h.levels.keeps hkeeps) .nil
  case closed =>
    rw [ht, ho]
    intro i t hi hc hopen
    rw [List.mem_cons, not_or] at hopen
    rcases span_of_getElem?_hung hi with ⟨t', ht', hkind, hs, he⟩ | ⟨hnew, -⟩
    · have hclosed := h.closed i t' ht' (hkind ▸ hc) hopen.2
      exact (encloses_congr hclosed hkind hs he).append _
    · exact absurd hnew hopen.1
  case begun =>
    rw [ht]
    intro p kind' hp
    rcases List.mem_append.1 hp with hp | hp
    · exact h.begun_keeps hkeeps hp
    · obtain ⟨rfl, rfl⟩ : p = start ∧ kind' = kind := by simpa using hp
      exact ⟨_, _, hnew, rfl, rfl⟩

/-- A closing bracket ends the innermost level. -/
theorem close (h : s.Matches marks) (ho : s.opened = i :: outer) (hi : s.tokens[i]? = some t)
    (ht : s'.tokens = s.tokens.modify i fun t => { t with stop := stop + 1 })
    (ho' : s'.opened = outer) : s'.Matches (marks ++ [(stop, .closing t.kind)]) := by
  have hkeeps := keeps_modify s.tokens i (stop + 1)
  have hlevels := h.levels
  rw [ho] at hlevels
  obtain ⟨houter, hencloses⟩ := hlevels.close hi stop
  constructor
  case levels =>
    rw [ht, ho']
    exact houter.keeps hkeeps
  case closed =>
    rw [ht, ho']
    intro j u hj hc hopen
    rcases getElem?_closed hi hj with ⟨hne, hj⟩ | ⟨rfl, rfl⟩
    · refine (h.closed j u hj hc ?_).append _
      rw [ho, List.mem_cons, not_or]
      exact ⟨hne, hopen⟩
    · exact hencloses
  case begun =>
    rw [ht]
    intro p kind hp
    rcases List.mem_append.1 hp with hp | hp
    · exact h.begun_keeps hkeeps hp
    · simp at hp

end Matches

/-! ## Bare bytes while a text is read -/

/-- No string and no primitive covers a byte behind the frontier. -/
theorem isBare_of_frontier_le (h : s.Nested) {p : Nat} (hp : s.frontier ≤ p) :
    isBare s.tokens p = true := by
  refine isBare_iff.2 fun i t ht => .inr (.inr ?_)
  have := h.within i t ht
  omega

/-- A string or a primitive covers its bytes and no others. -/
theorem isBare_hung (s : Lexer) {kind : Kind} (hk : kind.isContainer = false) (start stop p : Nat) :
    isBare (s.hung kind start stop) p = true ↔
      isBare s.tokens p = true ∧ (p < start ∨ stop ≤ p) := by
  have hnew := getElem?_hung_size s kind start stop
  rw [isBare_iff, isBare_iff]
  constructor
  · intro h
    refine ⟨fun i t ht => ?_, ?_⟩
    · have hlt := (Array.getElem?_eq_some_iff.1 ht).1
      have hold := h i _ (by
        rw [getElem?_hung, Array.getElem?_push, if_neg (Nat.ne_of_lt hlt), ht, Option.map_some])
      split at hold <;> exact hold
    · simpa [hk] using h _ _ hnew
  · rintro ⟨h, hp⟩ i u hu
    rcases span_of_getElem?_hung hu with ⟨t, ht, hkind, hs, he⟩ | ⟨-, hkind, hs, he⟩
    · rw [hkind, hs, he]
      exact h i t ht
    · rw [hs, he]
      exact .inr hp

theorem isBare_hung_of_lt (s : Lexer) {kind : Kind} (hk : kind.isContainer = false)
    {start stop p : Nat} (hp : p < start) :
    isBare (s.hung kind start stop) p = isBare s.tokens p := by
  rw [Bool.eq_iff_iff, isBare_hung s hk, and_iff_left (.inl hp)]

/-- A container covers no byte. -/
theorem isBare_opening (s : Lexer) {kind : Kind} (hk : kind.isContainer = true)
    (start stop p : Nat) : isBare (s.hung kind start stop) p = isBare s.tokens p := by
  rw [Bool.eq_iff_iff, isBare_iff, isBare_iff]
  constructor
  · intro h i t ht
    have hlt := (Array.getElem?_eq_some_iff.1 ht).1
    have hold := h i _ (by
      rw [getElem?_hung, Array.getElem?_push, if_neg (Nat.ne_of_lt hlt), ht, Option.map_some])
    split at hold <;> exact hold
  · intro h i u hu
    rcases span_of_getElem?_hung hu with ⟨t, ht, hkind, hs, he⟩ | ⟨-, hkind, -⟩
    · rw [hkind, hs, he]
      exact h i t ht
    · exact .inl (hkind ▸ hk)

theorem isBare_closing {tokens : Array Token} {i stop : Nat} {t : Token} (ht : tokens[i]? = some t)
    (hk : t.kind.isContainer = true) (p : Nat) :
    isBare (tokens.modify i fun t => { t with stop := stop }) p = isBare tokens p := by
  rw [Bool.eq_iff_iff, isBare_iff, isBare_iff]
  constructor
  · intro h j u hu
    by_cases hij : i = j
    · subst hij
      obtain rfl := Option.some.inj (ht.symm.trans hu)
      exact .inl hk
    · exact h j u (by rw [Array.getElem?_modify, if_neg hij, hu])
  · intro h j u hu
    rcases getElem?_closed ht hu with ⟨-, hu⟩ | ⟨-, rfl⟩
    · exact h j u hu
    · exact .inl hk

/-- The brackets up to the frontier. -/
def marks (s : Lexer) (done : List UInt8) : List (Nat × Sign) :=
  brackets (done.take s.frontier) s.tokens

theorem marks_of_between (hm : s.mode = .between) (hp : s.position = done.length) :
    s.marks done = brackets done s.tokens := by
  rw [marks, frontier, hm]
  dsimp only
  rw [hp, List.take_length]

/-- A string or a primitive that goes on leaves the frontier where it is. -/
theorem marks_of_frontier_eq (ht : s'.tokens = s.tokens) (hf : s'.frontier = s.frontier)
    (hle : s.frontier ≤ done.length) : s'.marks (done ++ bytes) = s.marks done := by
  rw [marks, marks, hf, ht, List.take_append_of_le_length hle]

/-- A byte that is no bracket, between two tokens. -/
theorem marks_of_not_isBracket {b : UInt8} (hm : s.mode = .between)
    (hp : s.position = done.length) (ht : s'.tokens = s.tokens)
    (hf : s'.frontier = s.position + 1) (hb : (Sign.of b).isBracket = false) :
    s'.marks (done ++ [b]) = s.marks done := by
  have hlength : s'.frontier = (done ++ [b]).length := by rw [hf, hp, List.length_append]; rfl
  rw [marks_of_between hm hp, marks, hlength, List.take_length, ht]
  refine brackets_append_of_none (fun _ _ => rfl) fun c hc => bracket?_of_not_isBracket ?_
  obtain rfl : c = (b, done.length) := by simpa using hc
  exact hb

/-- The bytes of a string or a primitive hold no bracket. -/
theorem marks_of_hung {kind : Kind} {start : Nat} {more : List UInt8}
    (hk : kind.isContainer = false) (hf : s.frontier = start) (hle : start ≤ done.length)
    (ht : s'.tokens = s.hung kind start done.length)
    (hf' : s'.frontier = (done ++ more).length)
    (hmore : ∀ b ∈ more, (Sign.of b).isBracket = false) :
    s'.marks (done ++ more) = s.marks done := by
  have hsplit : done ++ more = done.take start ++ (done.drop start ++ more) := by
    rw [← List.append_assoc, List.take_append_drop]
  have hlength : (done.take start).length = start := by rw [List.length_take]; omega
  rw [marks, hf', List.take_length, ht, marks, hf, hsplit]
  refine brackets_append_of_none (fun p hp => ?_) fun b hb => ?_
  · rw [hlength] at hp
    exact isBare_hung_of_lt s hk hp
  · rw [List.zipIdx_append, List.mem_append, hlength] at hb
    rcases hb with hb | hb
    · obtain ⟨hlo, hhi, -⟩ := List.mem_zipIdx hb
      refine bracket?_of_not_isBare ?_
      rw [List.length_drop] at hhi
      rw [← Bool.not_eq_true, isBare_hung s hk]
      omega
    · exact bracket?_of_not_isBracket (hmore b.1 (List.fst_mem_of_mem_zipIdx hb))

/-- The frontier moves with the end of a word. -/
theorem frontier_digit {start left : Nat} (hm : s.mode = .digits start left) :
    (s.advance (if left ≤ 1 then .string start else .digits start (left - 1))).frontier =
      s.frontier := by
  rw [frontier, frontier, hm]
  by_cases h : left ≤ 1
  · rw [if_pos h]
    rfl
  · rw [if_neg h]
    rfl

namespace Matches

theorem goOn (h : s.Matches (s.marks done)) (hle : s.frontier ≤ done.length)
    (ht : s'.tokens = s.tokens) (ho : s'.opened = s.opened) (hf : s'.frontier = s.frontier) :
    s'.Matches (s'.marks (done ++ bytes)) := by
  rw [marks_of_frontier_eq ht hf hle]
  exact h.pass ht ho

theorem skip {b : UInt8} (h : s.Matches (s.marks done)) (hm : s.mode = .between)
    (hp : s.position = done.length) (hb : (Sign.of b).isBracket = false)
    (ht : s'.tokens = s.tokens) (ho : s'.opened = s.opened)
    (hf : s'.frontier = s.position + 1) : s'.Matches (s'.marks (done ++ [b])) := by
  rw [marks_of_not_isBracket hm hp ht hf hb]
  exact h.pass ht ho

theorem word {kind : Kind} {start : Nat} (h : s.Matches (s.marks done))
    (hk : kind.isContainer = false) (hf : s.frontier = start) (hle : start ≤ done.length)
    (hmore : ∀ b ∈ bytes, (Sign.of b).isBracket = false)
    (ht : s'.tokens = s.hung kind start done.length) (ho : s'.opened = s.opened)
    (hf' : s'.frontier = (done ++ bytes).length) : s'.Matches (s'.marks (done ++ bytes)) := by
  rw [marks_of_hung hk hf hle ht hf' hmore]
  exact h.hang ht ho hk

/-- The brackets match the containers, whatever happens. -/
theorem reads (h : s.Matches (s.marks done)) (hn : s.Nested) (hp : s.position = done.length)
    (hr : Reads capacity s bytes s') : s'.Matches (s'.marks (done ++ bytes)) := by
  have hle : s.frontier ≤ done.length := hp ▸ hn.frontier_le
  have hlength : ∀ b : UInt8, s.position + 1 = (done ++ [b]).length := fun b => by
    rw [hp, List.length_append]
    rfl
  cases hr with
  | blank hm hb | colon hm hb | quote hm hb =>
    exact h.skip hm hp (by rw [hb]; rfl) rfl rfl rfl
  | comma hm hb =>
    rw [nextMember_eq]
    exact h.skip hm hp (by rw [hb]; rfl) rfl rfl rfl
  | @opening b kind hm hb =>
    have hk := isContainer_of_opening hb
    have hbare := isBare_opening s hk s.position s.position
    rw [marks_of_between rfl (hlength b), brackets_snoc (fun p _ => hbare p)
      ((hbare _).trans (isBare_of_frontier_le hn hle)) (by rw [hb]; rfl),
      ← marks_of_between hm hp, hb, ← hp]
    exact h.opening rfl rfl
  | @closing b i outer t hm hb ho ht =>
    have hk := hn.container i t (ho ▸ List.mem_cons_self) ht
    have hbare : ∀ p, isBare (s.tokens.modify i fun t => { t with stop := s.position + 1 }) p =
        isBare s.tokens p := isBare_closing ht hk
    rw [marks_of_between rfl (hlength b), brackets_snoc (fun p _ => hbare p)
      ((hbare _).trans (isBare_of_frontier_le hn hle)) (by rw [hb]; rfl),
      ← marks_of_between hm hp, hb, ← hp]
    exact h.close ho ht rfl rfl
  | plain hm | backslash hm | short hm | unicode hm | literal hm | more hm =>
    exact h.goOn hle rfl rfl (by simp only [frontier, Lexer.advance, hm])
  | digit hm => exact h.goOn hle rfl rfl (frontier_digit hm)
  | @unquote start hm =>
    have hf : s.frontier = start := by rw [frontier, hm]
    exact h.word rfl hf (hf ▸ hle) (List.forall_mem_singleton.2 rfl) (by rw [← hp]) rfl
      (hlength _)
  | @ended start hm =>
    have hf : s.frontier = start := by rw [frontier, hm]
    exact h.word rfl hf (hf ▸ hle) (List.forall_mem_nil _) (by rw [← hp]) rfl
      (by rw [List.append_nil]; exact hp)

end Matches

/-! ## Quotes -/

/-- The token of a string stands between quotes, and that of a primitive is one word. -/
def IsSpelled (text : List UInt8) (t : Token) : Prop :=
  match t.kind with
  | .string => ∃ before body after, text = before ++ 0x22 :: (body ++ 0x22 :: after) ∧
      IsBody body ∧ t.start = before.length + 1 ∧ t.stop = t.start + body.length
  | .primitive => ∃ before literal after, text = before ++ (literal ++ after) ∧
      IsLoose literal ∧ t.start = before.length ∧ t.stop = t.start + literal.length
  | .object | .array => True

theorem isSpelled_of_isContainer {text : List UInt8} {t : Token} (h : t.kind.isContainer = true) :
    IsSpelled text t := by
  unfold IsSpelled
  split
  case h_1 hk | h_2 hk =>
    rw [hk] at h
    cases h
  case h_3 | h_4 => trivial

theorem IsSpelled.append {text : List UInt8} {t : Token} (h : IsSpelled text t)
    (more : List UInt8) : IsSpelled (text ++ more) t := by
  unfold IsSpelled at h ⊢
  split at h
  · obtain ⟨before, body, after, rfl, hspan⟩ := h
    exact ⟨before, body, after ++ more, by simp, hspan⟩
  · obtain ⟨before, literal, after, rfl, hspan⟩ := h
    exact ⟨before, literal, after ++ more, by simp, hspan⟩
  · trivial
  · trivial

theorem IsSpelled.congr {text : List UInt8} {t u : Token} (h : IsSpelled text t)
    (hk : u.kind = t.kind) (hs : u.start = t.start) (he : u.stop = t.stop) : IsSpelled text u := by
  rwa [IsSpelled, hk, hs, he]

/-- The bytes of the word that has begun stand behind the frontier. -/
def Begun (done : List UInt8) (s : Lexer) : Prop :=
  ∃ o before pending, done = before ++ pending ∧ Pending o s.mode pending ∧
    s.frontier = before.length + s.mode.lead

theorem begun_of_between (hm : s.mode = .between) (hp : s.position = done.length) :
    Begun done s :=
  ⟨.initial, done, [], (List.append_nil _).symm, hm ▸ .between, by rw [frontier, hm]; exact hp⟩

/-- The word that has begun goes on. -/
theorem Begun.advance {mode : Mode} (h : Begun done s) (hf : (s.advance mode).frontier = s.frontier)
    (hl : mode.lead = s.mode.lead)
    (hnext : ∀ {o : Outline} {pending : List UInt8}, Pending o s.mode pending →
      Pending o mode (pending ++ bytes)) : Begun (done ++ bytes) (s.advance mode) := by
  obtain ⟨o, before, pending, rfl, hpending, hfrontier⟩ := h
  exact ⟨o, before, pending ++ bytes, List.append_assoc _ _ _, hnext hpending,
    by rw [hf, hfrontier, ← hl]; rfl⟩

theorem Begun.reads (h : Begun done s) (hp : s.position = done.length)
    (hr : Reads capacity s bytes s') : Begun (done ++ bytes) s' := by
  have hp' : s'.position = (done ++ bytes).length := by
    rw [hr.position_eq, hp, List.length_append]
  cases hr with
  | blank | colon | comma | opening | closing | unquote | ended => exact begun_of_between rfl hp'
  | @quote b hm hb =>
    obtain rfl : b = 0x22 := by simpa only [hb] using sign_spec b
    exact ⟨.initial, done, [0x22], rfl, .string .nil, congrArg (· + 1) hp⟩
  | @literal b hm hb =>
    have hfirst : b = 0x2d ∨ isDigit b ∨ b ∈ [0x74, 0x66, 0x6e] := by
      simpa only [hb] using sign_spec b
    exact ⟨.initial, done, [b], rfl, .primitive (.intro hfirst (by simp)) rfl, hp⟩
  | plain hm hq hs =>
    exact h.advance (by simp only [frontier, Lexer.advance, hm]) (by rw [hm])
      fun hpending => (hm ▸ hpending).plain hq hs
  | backslash hm =>
    exact h.advance (by simp only [frontier, Lexer.advance, hm]) (by rw [hm]; rfl)
      fun hpending => (hm ▸ hpending).backslash
  | short hm hb =>
    exact h.advance (by simp only [frontier, Lexer.advance, hm]) (by rw [hm]; rfl)
      fun hpending => (hm ▸ hpending).short hb
  | unicode hm =>
    exact h.advance (by simp only [frontier, Lexer.advance, hm]) (by rw [hm]; rfl)
      fun hpending => (hm ▸ hpending).unicode
  | digit hm hb =>
    exact h.advance (frontier_digit hm) (by rw [hm]; split <;> rfl)
      fun hpending => (hm ▸ hpending).digit hb
  | more hm hb =>
    exact h.advance (by simp only [frontier, Lexer.advance, hm]) (by rw [hm])
      fun hpending => (hm ▸ hpending).more hb

/-- All tokens so far are spelled. -/
def Spelled (done : List UInt8) (s : Lexer) : Prop :=
  ∀ (i : Nat) (t : Token), s.tokens[i]? = some t → IsSpelled done t

namespace Spelled

theorem pass (h : Spelled done s) (ht : s'.tokens = s.tokens) : Spelled (done ++ bytes) s' := by
  intro i t hi
  rw [ht] at hi
  exact (h i t hi).append bytes

theorem hang {kind : Kind} {start stop : Nat} (h : Spelled done s)
    (ht : s'.tokens = s.hung kind start stop)
    (hnew : ∀ t : Token, t.kind = kind → t.start = start → t.stop = stop →
      IsSpelled (done ++ bytes) t) : Spelled (done ++ bytes) s' := by
  intro i u hi
  rw [ht] at hi
  rcases span_of_getElem?_hung hi with ⟨t, ht, hk, hs, he⟩ | ⟨-, hk, hs, he⟩
  · exact ((h i t ht).congr hk hs he).append bytes
  · exact hnew u hk hs he

theorem reads (h : Spelled done s) (hb : Begun done s) (hn : s.Nested)
    (hp : s.position = done.length) (hr : Reads capacity s bytes s') :
    Spelled (done ++ bytes) s' := by
  cases hr with
  | blank | colon | quote | plain | backslash | short | unicode | digit | literal | more =>
    exact h.pass rfl
  | comma => exact h.pass (by rw [nextMember_eq]; rfl)
  | opening hm hb =>
    refine h.hang rfl fun t hk hs he => ?_
    exact isSpelled_of_isContainer (hk ▸ isContainer_of_opening hb)
  | @closing b i outer t hm hb ho ht =>
    have hk := hn.container i t (ho ▸ List.mem_cons_self) ht
    intro j u hj
    rcases getElem?_closed ht hj with ⟨-, hj⟩ | ⟨-, rfl⟩
    · exact (h j u hj).append _
    · exact isSpelled_of_isContainer hk
  | @unquote start hm =>
    refine h.hang rfl fun t hk hs he => ?_
    obtain ⟨o, before, pending, rfl, hpending, hf⟩ := hb
    rw [hm] at hpending
    simp only [frontier, hm, Mode.lead] at hf
    cases hpending with
    | @string _ body hbody =>
      rw [IsSpelled, hk]
      refine ⟨before, body, [], by simp, hbody, by omega, ?_⟩
      simp only [List.length_append, List.length_cons] at hp
      omega
  | @ended start hm =>
    refine h.hang rfl fun t hk hs he => ?_
    obtain ⟨o, before, pending, rfl, hpending, hf⟩ := hb
    rw [hm] at hpending
    simp only [frontier, hm, Mode.lead] at hf
    cases hpending with
    | primitive hl =>
      rw [IsSpelled, hk]
      refine ⟨before, pending, [], by simp, hl, by omega, ?_⟩
      simp only [List.length_append] at hp
      omega

end Spelled

end Lexer

/-! ## Accepted texts -/

section Accepted

variable {text : List UInt8} {tokens : Array Token} {t u : Token}

theorem exists_of_mem_brackets {p : Nat} {sign : Sign} (h : (p, sign) ∈ brackets text tokens) :
    ∃ b, text[p]? = some b ∧ Sign.of b = sign := by
  obtain ⟨⟨b, q⟩, hmem, hbracket⟩ := List.mem_filterMap.1 h
  unfold bracket? at hbracket
  split at hbracket
  · cases hbracket
    exact ⟨b, List.mem_zipIdx_iff_getElem?.1 hmem, rfl⟩
  · cases hbracket

/-- Between a container and a string behind it there is a quote. -/
theorem Encloses.stop_ne_start (h : Encloses (brackets text tokens) t) (hu : Lexer.IsSpelled text u)
    (hk : u.kind = .string) : t.stop ≠ u.start := by
  intro heq
  obtain ⟨marks, inner, more, q, hstop, -, hmarks⟩ := h
  obtain ⟨b, hb, hsign⟩ := exists_of_mem_brackets
    (show (q, Sign.closing t.kind) ∈ brackets text tokens by simp [hmarks])
  unfold Lexer.IsSpelled at hu
  rw [hk] at hu
  obtain ⟨before, body, after, rfl, -, hstart, -⟩ := hu
  obtain rfl : q = before.length := by omega
  rw [List.getElem?_append_right (Nat.le_refl _), Nat.sub_self] at hb
  cases hb
  cases hsign

/-- Only a string can be empty. -/
theorem Lexer.IsSpelled.start_lt_stop (h : IsSpelled text u) (hc : u.kind.isContainer = false)
    (hk : u.kind ≠ .string) : u.start < u.stop := by
  unfold IsSpelled at h
  split at h
  case h_1 hs => exact absurd hs hk
  case h_2 =>
    obtain ⟨before, literal, after, -, hl, -, hstop⟩ := h
    cases hl
    rw [hstop, List.length_cons]
    omega
  case h_3 ho | h_4 ho =>
    rw [ho] at hc
    cases hc

end Accepted

/-- How tokens stand in a text. -/
structure Arranged (text : List UInt8) (tokens : Array Token) : Prop where
  within {t : Token} (h : t ∈ tokens) : t.start ≤ t.stop ∧ t.stop ≤ text.length
  /-- A later token begins behind the first byte of an earlier one, and either behind all of it or
  ends before it as well; then the earlier one is a container. -/
  nests : tokens.toList.Pairwise Token.Nests
  /-- Strings stand between quotes, -/
  spelled {t : Token} (h : t ∈ tokens) : Lexer.IsSpelled text t
  /-- containers between brackets that match, -/
  encloses {t : Token} (h : t ∈ tokens) (hk : t.kind.isContainer) :
    Encloses (brackets text tokens) t
  /-- and all brackets do. -/
  balanced : Balanced (brackets text tokens)
  begun {p : Nat} {kind : Kind} (h : (p, .opening kind) ∈ brackets text tokens) :
    ∃ t ∈ tokens, t.kind = kind ∧ t.start = p
  back {i j : Nat} (h : Hangs tokens j i) : i < j
  /-- A token counts those that name it as the one from which they hang. -/
  counted {i : Nat} {t : Token} (h : tokens[i]? = some t) :
    t.size = (parents tokens).count (some i)
  /-- What stands inside a container hangs from it, in one step or more. -/
  holds {i j : Nat} {t u : Token} (hi : tokens[i]? = some t) (hj : tokens[j]? = some u)
    (hij : i ≠ j) (hk : t.kind.isContainer) (hstart : t.start ≤ u.start) (hstop : u.stop ≤ t.stop) :
    Relation.TransGen (Hangs tokens) j i

/-- Whatever text is accepted, its tokens are arranged, and they are those that are found by
following links. -/
theorem arranged_of_tokenize {capacity : Nat} {text : List UInt8} {tokens : Array Token}
    (h : tokenize capacity text = .ok tokens) :
    tokenizeLinked capacity text = .ok tokens ∧ Arranged text tokens := by
  obtain ⟨hnests, hwithin⟩ := nested_of_tokenize h
  obtain ⟨s, ⟨⟨-, hl⟩, hp, hmatches, -, hspelled⟩, hm, ho, rfl⟩ := Lexer.tokenize_induction
    (P := fun done s => s.Sound ∧ s.position = done.length ∧ s.Matches (s.marks done) ∧
      Lexer.Begun done s ∧ Lexer.Spelled done s)
    ⟨Lexer.sound_initial, rfl, ⟨.root .nil, by simp [Lexer.initial], nofun⟩,
      Lexer.begun_of_between rfl rfl, by simp [Lexer.Spelled, Lexer.initial]⟩
    (fun {done s bytes s'} h hr => ⟨h.1.reads hr,
      by rw [hr.position_eq, h.2.1, List.length_append], h.2.2.1.reads h.1.1 h.2.1 hr,
      h.2.2.2.1.reads h.2.1 hr, h.2.2.2.2.reads h.2.2.2.1 h.1.1 h.2.1 hr⟩) h
  rw [Lexer.marks_of_between hm hp] at hmatches
  refine ⟨(tokenizeLinked_eq capacity text).trans h, ?_⟩
  constructor
  case within => exact fun ht => hwithin _ ht
  case nests => exact hnests
  case spelled =>
    intro t ht
    obtain ⟨i, hi⟩ := Array.mem_iff_getElem?.1 ht
    exact hspelled i t hi
  case encloses =>
    intro t ht hk
    obtain ⟨i, hi⟩ := Array.mem_iff_getElem?.1 ht
    exact hmatches.closed i t hi hk (by simp [ho])
  case balanced =>
    have hlevels := hmatches.levels
    rw [ho] at hlevels
    cases hlevels with
    | root hb => exact hb
  case begun =>
    intro p kind hmem
    obtain ⟨i, t, ht, hkind, hstart⟩ := hmatches.begun p kind hmem
    exact ⟨t, Array.mem_of_getElem? ht, hkind, hstart⟩
  case back => exact fun hlink => hl.back _ _ hlink
  case counted => exact fun ht => hl.counted _ _ ht
  case holds =>
    intro i j t u hi hj hne hk hstart hstop
    have hc : (Cursor.mk text.toArray s.tokens).tokens.toList.Pairwise Token.Nests := hnests
    have hij : i < j := by
      refine (Nat.lt_or_gt_of_ne hne).resolve_right fun hji => ?_
      have := (Cursor.nests hc hji hj hi).1
      omega
    have hin : u.start < t.stop := by
      have hu := (hwithin u (Array.mem_of_getElem? hj)).1
      rcases (Cursor.nests hc hij hi hj).2 with hle | ⟨-, hlt⟩
      · -- the token would be empty, right behind the container
        have hspelled := hspelled j u hj
        have hencloses := hmatches.closed i t hi hk (by simp [ho])
        exfalso
        cases hkind : u.kind.isContainer with
        | true =>
          have hopen := (hl.unclosed_iff j u hj).1 (by simp [Token.isUnclosed, hkind]; omega)
          simp [ho] at hopen
        | false =>
          have hstring : u.kind ≠ .string := fun hs =>
            hencloses.stop_ne_start hspelled hs (by omega)
          have := hspelled.start_lt_stop hkind hstring
          omega
      · omega
    have hunder := hl.holds i j t u hij hi hj hk (.inr hin)
    exact (Relation.reflTransGen_iff_eq_or_transGen.1 hunder).resolve_left (by omega)

/-- In `[[1]:2,3]` the colon has no key before it. `2` hangs from `1`, inside an array that is
already closed. -/
theorem arranged_of_tokenize_stray :
    let text := [0x5b, 0x5b, 0x31, 0x5d, 0x3a, 0x32, 0x2c, 0x33, 0x5d]
    let tokens := #[⟨.array, 0, 9, 1, none⟩, ⟨.array, 1, 4, 2, some 0⟩,
      ⟨.primitive, 2, 3, 1, some 1⟩, ⟨.primitive, 5, 6, 0, some 2⟩, ⟨.primitive, 7, 8, 0, some 1⟩]
    tokenize 5 text = .ok tokens ∧ tokenizeLinked 5 text = .ok tokens ∧ Arranged text tokens := by
  intro text tokens
  have h : tokenize 5 text = .ok tokens := by decide +kernel
  exact ⟨h, arranged_of_tokenize h⟩

end ChatLink.Json
