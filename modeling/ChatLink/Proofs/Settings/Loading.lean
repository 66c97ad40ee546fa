import ChatLink.Proofs.Client.Answers
import ChatLink.Settings.Document
import Mathlib.Data.List.Nodup

/-!
# Settings that were loaded

`Settings.Spells` says which settings the entries of a document stand for : every key is known and
comes once, the endpoint is there, and what is missing otherwise has its default. Exactly these
settings are read (`Settings.ofEntries?_eq_some_iff`), in whatever order the entries come
(`Settings.load_eq_of_perm`). What is loaded has been checked (`Settings.load_eq_ok_iff`), and so a
client with settings that were loaded is never refused because of them
(`Client.isApproved_of_load`).
-/

namespace ChatLink

namespace Settings

open Yaml (Scalar)

variable {entries entries' : List (Scalar × Scalar)} {s : Settings} {text text' : String}

/-! ## Entries -/

/-- The entries give this value to the key. -/
def Gives (entries : List (Scalar × Scalar)) (name : String) (value : Scalar) : Prop :=
  ∃ key, (key, value) ∈ entries ∧ key.text = name

/-- The first value that the entries give to a key. -/
def value? (entries : List (Scalar × Scalar)) (name : String) : Option Scalar :=
  (entries.map fun (key, value) => (key.text, value)).lookup name

theorem value?_eq_none_iff {name : String} :
    value? entries name = none ↔ ∀ value, ¬Gives entries name value := by
  rw [value?, List.lookup_eq_none_iff, List.forall_mem_map]
  constructor
  · rintro h value ⟨key, hmem, rfl⟩
    simpa using h (key, value) hmem
  · rintro h ⟨key, value⟩ hmem
    exact bne_iff_ne.2 fun heq => h value ⟨key, hmem, heq.symm⟩

theorem gives_of_value? {name : String} {value : Scalar} (h : value? entries name = some value) :
    Gives entries name value := by
  obtain ⟨before, after, heq, -⟩ := List.lookup_eq_some_iff.1 h
  have hmem : (name, value) ∈ entries.map fun (key, value) => (key.text, value) := by
    rw [heq]
    exact List.mem_append_right _ List.mem_cons_self
  obtain ⟨⟨key, value'⟩, hentry, hpair⟩ := List.mem_map.1 hmem
  obtain ⟨rfl, rfl⟩ := Prod.mk.inj hpair
  exact ⟨key, hentry, rfl⟩

/-- A key that comes once has one value. -/
theorem Gives.unique (hn : (entries.map (·.1.text)).Nodup) {name : String} {value value' : Scalar}
    (h : Gives entries name value) (h' : Gives entries name value') : value = value' := by
  obtain ⟨key, hmem, hkey⟩ := h
  obtain ⟨key', hmem', hkey'⟩ := h'
  have heq := List.inj_on_of_nodup_map hn hmem hmem' (hkey.trans hkey'.symm)
  exact congrArg Prod.snd heq

theorem value?_eq_some_iff (hn : (entries.map (·.1.text)).Nodup) {name : String}
    {value : Scalar} : value? entries name = some value ↔ Gives entries name value := by
  refine ⟨gives_of_value?, fun h => ?_⟩
  cases hv : value? entries name with
  | none => exact absurd h (value?_eq_none_iff.1 hv value)
  | some value' => rw [h.unique hn (gives_of_value? hv)]

/-! ## What is read -/

/-- What is read of a key that need not be there. -/
def optional? {α : Type} (entries : List (Scalar × Scalar)) (name : String)
    (read : Scalar → Option α) (default : α) : Option α :=
  match value? entries name with
  | some value => read value
  | none => some default

/-- What a key stands for that need not be there. -/
def Reads {α : Type} (entries : List (Scalar × Scalar)) (name : String)
    (read : Scalar → Option α) (default result : α) : Prop :=
  (∃ value, Gives entries name value ∧ read value = some result) ∨
    (∀ value, ¬Gives entries name value) ∧ result = default

theorem optional?_eq_some_iff {α : Type} (hn : (entries.map (·.1.text)).Nodup) {name : String}
    {read : Scalar → Option α} {default result : α} :
    optional? entries name read default = some result ↔
      Reads entries name read default result := by
  rw [optional?]
  cases hv : value? entries name with
  | none =>
    have hnone := value?_eq_none_iff.1 hv
    simp only [Reads, hnone, false_and, exists_false, false_or, not_false_iff, implies_true,
      true_and, Option.some.injEq, eq_comm]
  | some value =>
    have hgives := gives_of_value? hv
    constructor
    · exact fun hread => .inl ⟨value, hgives, hread⟩
    · rintro (⟨value', hgives', hread⟩ | ⟨hnone, -⟩)
      · rwa [hgives.unique hn hgives']
      · exact absurd hgives (hnone value)

/-- The entries stand for the settings. -/
structure Spells (entries : List (Scalar × Scalar)) (s : Settings) : Prop where
  /-- No key comes twice, however it is written, -/
  nodup : (entries.map (·.1.text)).Nodup
  /-- and none is unknown. -/
  known {key value : Scalar} (h : (key, value) ∈ entries) : key.text ∈ keys
  endpoint : ∃ value, Gives entries "endpoint" value ∧ value.text = s.endpoint
  token : Reads entries "token" token? none s.token
  timeout : Reads entries "handshake_timeout_ms" timeout? defaultTimeout s.timeout

theorem Spells.of_perm (hp : entries.Perm entries') (h : Spells entries s) :
    Spells entries' s := by
  have hgives : Gives entries' = Gives entries := by
    funext name value
    simp only [Gives, hp.mem_iff]
  have hreads : ∀ {α : Type}, Reads (α := α) entries' = Reads entries := by
    intro α
    funext name read default result
    simp only [Reads, hgives]
  exact ⟨(hp.map _).nodup_iff.1 h.nodup, fun hmem => h.known (hp.mem_iff.2 hmem),
    hgives ▸ h.endpoint, hreads ▸ h.token, hreads ▸ h.timeout⟩

/-- The entries are read key by key. -/
theorem ofEntries?_eq (entries : List (Scalar × Scalar)) : ofEntries? entries =
    if (entries.map (·.1.text)).Nodup ∧ ∀ entry ∈ entries, entry.1.text ∈ keys then
      (value? entries "endpoint").bind fun endpoint =>
        (optional? entries "token" token? none).bind fun token =>
          (optional? entries "handshake_timeout_ms" timeout? defaultTimeout).bind fun timeout =>
            some ⟨endpoint.text, token, timeout⟩
    else none := by
  have hnames : ((entries.map fun (key, value) => (key.text, value)).map (·.1)) =
      entries.map (·.1.text) := by
    rw [List.map_map]
    rfl
  have hknown : ((entries.map (·.1.text)).all keys.contains = true) ↔
      ∀ entry ∈ entries, entry.1.text ∈ keys := by
    simp [List.all_eq_true]
  unfold ofEntries? optional? value?
  simp only [hnames, hknown]
  split
  · generalize entries.map (fun (key, value) => (key.text, value)) = fields
    cases fields.lookup "endpoint" <;> cases fields.lookup "token" <;>
      cases fields.lookup "handshake_timeout_ms" <;> rfl
  · rfl

/-- Settings are read exactly of the entries that stand for them. -/
theorem ofEntries?_eq_some_iff : ofEntries? entries = some s ↔ Spells entries s := by
  rw [ofEntries?_eq]
  constructor
  · intro h
    obtain ⟨⟨hn, hk⟩, h⟩ := Option.ite_none_right_eq_some.1 h
    obtain ⟨endpoint, hendpoint, h⟩ := Option.bind_eq_some_iff.1 h
    obtain ⟨token, htoken, h⟩ := Option.bind_eq_some_iff.1 h
    obtain ⟨timeout, htimeout, h⟩ := Option.bind_eq_some_iff.1 h
    cases h
    exact ⟨hn, fun hmem => hk _ hmem, ⟨endpoint, gives_of_value? hendpoint, rfl⟩,
      (optional?_eq_some_iff hn).1 htoken, (optional?_eq_some_iff hn).1 htimeout⟩
  · rintro ⟨hn, hk, ⟨endpoint, hendpoint, heq⟩, htoken, htimeout⟩
    rw [if_pos ⟨hn, fun entry hmem => hk hmem⟩, (value?_eq_some_iff hn).2 hendpoint,
      (optional?_eq_some_iff hn).2 htoken, (optional?_eq_some_iff hn).2 htimeout]
    simp only [Option.bind_some, heq]

theorem ofEntries?_eq_of_perm (hp : entries.Perm entries') :
    ofEntries? entries = ofEntries? entries' := by
  refine Option.ext fun s => ?_
  rw [ofEntries?_eq_some_iff, ofEntries?_eq_some_iff]
  exact ⟨.of_perm hp, .of_perm hp.symm⟩

/-! ## What is loaded -/

theorem checked_eq_ok_iff {s' : Settings} : s'.checked = .ok s ↔ s' = s ∧ s.check = .ok () := by
  have hchecked : s'.checked = .ok s ↔ s' = s ∧ s'.fault? = none := by
    unfold checked
    cases s'.fault? <;> simp
  have hcheck : s.check = .ok () ↔ s.fault? = none := by
    unfold check
    cases s.fault? <;> simp
  rw [hchecked, hcheck]
  exact and_congr_right fun heq => by rw [heq]

/-- Settings are loaded from a text if its entries stand for them, and nothing is wrong with
them. -/
theorem load_eq_ok_iff : load text = .ok s ↔
    ∃ entries, Yaml.entries? text = some entries ∧ Spells entries s ∧ s.check = .ok () := by
  unfold load ofText?
  cases Yaml.entries? text with
  | none => simp
  | some entries =>
    simp only [Option.bind_some, Option.some.injEq, exists_eq_left', ← ofEntries?_eq_some_iff]
    cases ofEntries? entries with
    | none => simp
    | some s' => simp [checked_eq_ok_iff]

example : load "token: t\nendpoint: ws://h\n" = .ok ⟨"ws://h", some "t", defaultTimeout⟩ := by
  decide +kernel

/-- The order in which the entries stand does not matter. -/
theorem load_eq_of_perm (h : Yaml.entries? text = some entries)
    (h' : Yaml.entries? text' = some entries') (hp : entries.Perm entries') :
    load text = load text' := by
  rw [load, load, ofText?, ofText?, h, h', Option.bind_some, Option.bind_some,
    ofEntries?_eq_of_perm hp]

theorem check_of_load (h : load text = .ok s) : s.check = .ok () := by
  obtain ⟨entries, -, -, hcheck⟩ := load_eq_ok_iff.1 h
  exact hcheck

end Settings

namespace Client

variable {settings : Settings} {c c' : Client} {told : List Occurrence} {es : List Entry}

/-- The client was never refused for its settings. -/
def IsApproved (told : List Occurrence) : Prop :=
  ∀ reason, .made .connect (.called (.refused (.invalidConfig reason))) ∉ told

theorem not_mem_callOccurrences_of_check (h : c.settings.check = .ok ()) (step : Step)
    (reason : String) :
    .made .connect (.called (.refused (.invalidConfig reason))) ∉ c.callOccurrences step := by
  rw [made_mem_callOccurrences]
  rintro ⟨rfl, hreply⟩
  rw [apply_connect, connect_of_check h] at hreply
  split at hreply
  · cases hreply
  · rw [Endpoint.parse] at hreply
    cases hread : Endpoint.read c.reader c.settings.endpoint with
    | ok endpoint =>
      rw [hread] at hreply
      cases hreply
    | error fault =>
      rw [hread] at hreply
      cases fault <;> cases hreply

/-- A client with settings that were loaded is never refused for its settings. -/
theorem isApproved_of_load {text : String} (h : Settings.load text = .ok settings)
    (reader : Address.Reader) (moves : List Move) :
    IsApproved (chronicle reader settings moves).2 := by
  have hcheck := Settings.check_of_load h
  have hinvariant : ∃ c, (Coherent settings c ∧ IsApproved (chronicle reader settings moves).2) ∧
      ∀ c' ∈ (chronicle reader settings moves).1, c' = c := by
    refine chronicle_invariant (fun c told => Coherent settings c ∧ IsApproved told)
      (fun step hc => ⟨hc.1.apply step, fun reason hmem => ?_⟩)
      (fun hc ht => ⟨hc.1.turn ht, fun reason hmem => ?_⟩)
      ⟨.new reader settings, fun reason => List.not_mem_nil⟩ moves
    · refine (List.mem_append.1 hmem).elim (hc.2 reason) ?_
      exact not_mem_callOccurrences_of_check (hc.1.settings_eq ▸ hcheck) step reason
    · refine (List.mem_append.1 hmem).elim (hc.2 reason) fun hturn => ?_
      cases isStep_turnOccurrences ht _ hturn
  obtain ⟨c, ⟨-, happroved⟩, -⟩ := hinvariant
  exact happroved

end Client

end ChatLink
