import LinkProbe.CommandLine.Program
import LinkProbe.Proofs.CommandLine.Uses
import LinkProbe.Proofs.Config.Layers

/-!
# Settings in layers

A setting has what the command line gives, else what the configuration file gives, else its
standard value.

* `Layered`: the rule for one setting.
* `Merged`: the rule for all of them.
* `merged_override`: the configuration in force follows it.
* `base_eq_map`: what the arguments build on is what the file gives.
-/

namespace LinkProbe.CommandLine

open Arguments

/-- The setting has what the flag's text means if the flag is given, else what the file gives, else
the standard value. -/
def Layered {α : Type} (uses : List Use) (flag : Flag) (Means : String → α → Prop)
    (file : Option α) (standard value : α) : Prop :=
  (∀ text, (flag, text) ∈ uses → Means text value) ∧
  ((∀ text, (flag, text) ∉ uses) → value = file.getD standard)

/-- Each setting follows the rule of its own flag, its own place in the file and its own standard
value. A number that a flag gives is the one that is written. -/
structure Merged (uses : List Use) (file : Config.Draft) (c : Config) : Prop where
  host : Layered uses .host (fun text host => host = text) file.host Config.standard.host c.host
  port : Layered uses .port (fun text n => Numeral text.toList n.toNat) file.port
    Config.standard.port c.port
  mode : Layered uses .mode
    (fun text mode => Mode.spellings.lookup (Text.lowerCase text) = some mode) file.mode
    Config.standard.mode c.mode
  intervalMs : Layered uses .intervalMs (fun text n => Numeral text.toList n.toNat)
    file.intervalMs Config.standard.intervalMs c.intervalMs
  count : Layered uses .count (fun text n => ∃ m ∈ n, Numeral text.toList m.toNat) file.count
    Config.standard.count c.count
  connectTimeoutMs : Layered uses .connectTimeoutMs
    (fun text n => ∃ m ∈ n, Numeral text.toList m.toNat) file.connectTimeoutMs
    Config.standard.connectTimeoutMs c.connectTimeoutMs
  strictUtf8 : Layered uses .strictUtf8 (fun text b => text = toString b) file.strictUtf8
    Config.standard.strictUtf8 c.strictUtf8
  readBufferSize : Layered uses .readBufferSize (fun text n => Numeral text.toList n.toNat)
    file.readBufferSize Config.standard.readBufferSize c.readBufferSize

variable {α : Type} {a : Arguments} {uses : List Use} {flag : Flag} {text : String}
  {Means : String → α → Prop} {file : Option α} {standard value : α} {machine : Machine}

/-! ## One setting -/

theorem lookup_of_mem {κ : Type} [BEq κ] [LawfulBEq κ] {entries : List (κ × α)} {key : κ}
    (hnodup : (entries.map Prod.fst).Nodup) (h : (key, value) ∈ entries) :
    entries.lookup key = some value := by
  induction entries with
  | nil => cases h
  | cons entry entries ih =>
    rw [List.map_cons, List.nodup_cons] at hnodup
    rcases List.mem_cons.mp h with rfl | hmem
    · exact List.lookup_cons_self
    · have hne : key ≠ entry.1 := fun heq => hnodup.1 (heq ▸ List.mem_map_of_mem hmem)
      rw [List.lookup_cons, beq_false_of_ne hne]
      exact ih hnodup.2 hmem

/-- A setting follows the rule if it is what the flag's text is read as over what lies below. -/
theorem layered (hmade : a.MadeOf uses) (read : String → Option α)
    (hmeans : ∀ text, Accepted (flag, text) → ∃ x, read text = some x ∧ Means text x)
    (hvalue : value = ((uses.lookup flag).bind read).getD (file.getD standard)) :
    Layered uses flag Means file standard value := by
  constructor
  · intro text hmem
    obtain ⟨x, hx, hmeans⟩ := hmeans text (hmade.accepted _ hmem)
    rw [lookup_of_mem hmade.nodup hmem, Option.bind_some, hx] at hvalue
    exact hvalue ▸ hmeans
  · intro hopen
    rw [lookup_of_not_given (by simpa using hopen)] at hvalue
    exact hvalue

/-! ## What texts mean -/

theorem means_word {change : UInt64 → Arguments} {next : Arguments}
    (h : (word text).map change = .ok next) :
    ∃ n, (word text).toOption = some n ∧ Numeral text.toList n.toNat := by
  obtain ⟨n, hn, -⟩ := exists_of_map_ok h
  exact ⟨n, by rw [hn]; rfl, numeral_word hn⟩

/-- A number that may be absent, but is not where the flag is given. -/
theorem means_some_word {change : UInt64 → Arguments} {next : Arguments}
    (h : (word text).map change = .ok next) :
    ∃ n, (word text).toOption.map some = some n ∧ ∃ m ∈ n, Numeral text.toList m.toNat := by
  obtain ⟨n, hn, hnumeral⟩ := means_word h
  exact ⟨some n, by rw [hn]; rfl, n, rfl, hnumeral⟩

theorem or_eq_getD (given : Option String) (read : String → Option α) (below : Option α) :
    (given.bind read).or below = (given.bind fun text => (read text).map some).getD below := by
  cases given with
  | none => rfl
  | some text =>
    rw [Option.bind_some, Option.bind_some]
    cases read text <;> rfl

theorem means_truth {b : Bool} (h : truth text = .ok b) : text = toString b := by
  rw [truth.eq_def] at h
  split at h
  · cases h
    rfl
  · cases h
    rfl
  · cases h

theorem means_mode {mode : Mode} (h : Mode.ofText text = .ok mode) :
    Mode.spellings.lookup (Text.lowerCase text) = some mode := by
  rw [Mode.ofText] at h
  split at h
  · next hlookup =>
    cases h
    exact hlookup
  · cases h

/-! ## All settings -/

/-- **Under the settings of the command line every setting follows the rule.** -/
theorem merged_override (hmade : a.MadeOf uses) (file : Config.Draft) :
    Merged uses file ((Config.ofDraft file).override a.settings) := by
  have hsettings : a.settings = (ofUses uses).settings := congrArg Arguments.settings hmade.eq
  rw [hsettings]
  constructor
  case host =>
    refine layered hmade some (fun text _ => ⟨text, rfl, rfl⟩) ?_
    rw [Option.bind_fun_some]
    rfl
  case port =>
    refine layered hmade (fun text => (port text).toOption) ?_ rfl
    rintro text ⟨a, next, h⟩
    obtain ⟨n, hn, -⟩ := exists_of_map_ok h
    exact ⟨n, by rw [hn]; rfl, numeral_port hn⟩
  case mode =>
    refine layered hmade (fun text => (Mode.ofText text).toOption) ?_ rfl
    rintro text ⟨a, next, h⟩
    rw [Arguments.set] at h
    cases hmode : Mode.ofText text with
    | ok mode => exact ⟨mode, rfl, means_mode hmode⟩
    | error unknown =>
      dsimp only at h
      rw [hmode] at h
      cases h
  case intervalMs | readBufferSize =>
    refine layered hmade (fun text => (word text).toOption) ?_ rfl
    rintro text ⟨a, next, h⟩
    exact means_word h
  case count | connectTimeoutMs =>
    refine layered hmade (fun text => (word text).toOption.map some) ?_ (or_eq_getD ..)
    rintro text ⟨a, next, h⟩
    exact means_some_word h
  case strictUtf8 =>
    refine layered hmade (fun text => (truth text).toOption) ?_ rfl
    rintro text ⟨a, next, h⟩
    obtain ⟨b, hb, -⟩ := exists_of_map_ok h
    exact ⟨b, by rw [hb]; rfl, means_truth hb⟩

/-! ## The file -/

/-- What the configuration file gives; nothing if there is none. -/
def loaded (machine : Machine) (a : Arguments) : Except ConfigFault Config.Draft :=
  match a.config with
  | some path => Config.Draft.ofFile path (machine.contentOf path)
  | none => .ok Config.record.blank

/-- What the arguments build on is what the file gives, with the gaps filled. -/
theorem base_eq_map (machine : Machine) (a : Arguments) :
    (Program.base machine a).1 = (loaded machine a).map Config.ofDraft := by
  rw [Program.base, loaded]
  cases a.config with
  | none => rfl
  | some path => exact Config.ofFile_eq_map path (machine.contentOf path)

/-- A file with members gives them, if they are settings. -/
theorem loaded_object {path document : String} {bytes : List UInt8}
    {ms : List (String × Json.Value)} {file : Config.Draft} (hpath : a.config = some path)
    (hcontent : machine.contentOf path = .ok bytes) (hdecode : Utf8.decode? bytes = some document)
    (hscalar : ∀ m ∈ ms, m.2.IsScalar) (hdocument : Json.Document (.object ms) document)
    (h : loaded machine a = .ok file) : Config.Settings ms ∧ file = .ofMembers ms := by
  simp only [loaded, hpath, Config.Draft.ofFile, hcontent, hdecode] at h
  exact Config.Draft.ofJson_members hscalar hdocument h

end LinkProbe.CommandLine
