import LinkProbe.Proofs.Config.Settings

/-!
# What a file gives

A configuration file is read into a draft, whose gaps are then filled. The draft tells which
settings the file gives.

* `Record.reader_eq_map`: a record that lacks nothing is its draft, read on its own.
* `Draft.ofJson`, `Draft.ofFile`: what a document or a file gives.
* `ofFile_eq_map`: a configuration is what its file gives, with the gaps filled.
* `Draft.ofJson_members`: what a document with members gives.
-/

namespace LinkProbe

namespace Json.Record

variable {σ α : Type} {r : Record σ α} {f : σ → α}

/-- The record that is its own draft. -/
def itself (r : Record σ α) : Record σ σ := { r with build := some }

theorem members_itself (r : Record σ α) (count : Nat) (draft : σ)
    (found : Option (List Char) × List Char) :
    r.itself.members count draft found = r.members count draft found := by
  induction count generalizing draft found with
  | zero => rcases found with ⟨_ | _, _⟩ <;> rfl
  | succ count ih =>
    rcases found with ⟨_ | afterQuote, rest⟩
    · rfl
    · have hrest : r.itself.members count = r.members count := funext fun _ => funext (ih _)
      rw [members, members, hrest]
      rfl

theorem object_eq_map (hbuild : ∀ draft, r.build draft = some (f draft)) (rest : List Char) :
    r.object rest = (r.itself.object rest).map fun (draft, rest) => (f draft, rest) := by
  have hmembers : r.itself.members (rest.length + 1) r.itself.blank =
    r.members (rest.length + 1) r.blank := funext (members_itself r _ _)
  rw [object, object, hmembers]
  cases (firstKey? rest >>= r.members (rest.length + 1) r.blank) with
  | error refusal => rfl
  | ok read =>
    simp only [bind, Except.bind, hbuild]
    rfl

theorem array_eq_map (hbuild : ∀ draft, r.build draft = some (f draft)) (rest : List Char) :
    r.array rest = (r.itself.array rest).map fun (draft, rest) => (f draft, rest) := by
  rw [array, array]
  show (elements true 0 r.blank r.fields rest >>= _) =
    (elements true 0 r.blank r.fields rest >>= _).map _
  cases elements true 0 r.blank r.fields rest with
  | error refusal => rfl
  | ok read =>
    obtain ⟨draft, count, rest⟩ := read
    simp only [bind, Except.bind, hbuild]
    show _ = ((arrayEnd rest).map _).map _
    cases arrayEnd rest <;> rfl

/-- A record that lacks nothing is its draft, read on its own. -/
theorem reader_eq_map (hbuild : ∀ draft, r.build draft = some (f draft)) (text : List Char) :
    r.reader text = (r.itself.reader text).map fun (draft, rest) => (f draft, rest) := by
  rw [reader, reader, token, token]
  split
  · rfl
  · split
    · exact object_eq_map hbuild _
    · exact array_eq_map hbuild _
    · rfl

/-- Members go into the draft, whatever becomes of it. -/
theorem Fills.itself {draft last : σ} {ms : List (String × Value)} (h : r.Fills draft ms last) :
    r.itself.Fills draft ms last := by
  induction h with
  | nil draft => exact .nil draft
  | cons hm _ ih => exact .cons hm ih

end Json.Record

namespace Config

open Json

/-- What a document gives. -/
def Draft.ofJson (document : String) : Except ConfigFault Draft :=
  (Json.read record.itself.reader document).mapError .malformed

/-- What a file gives, given what reading it yields. -/
def Draft.ofFile (path : String) (content : Except IoFailure (List UInt8)) :
    Except ConfigFault Draft :=
  match content with
  | .error failure => .error (.unreadable path failure)
  | .ok bytes =>
    match Utf8.decode? bytes with
    | some document => Draft.ofJson document
    | none => .error (.unreadable path notText)

theorem ofJson_eq_map (document : String) :
    ofJson document = (Draft.ofJson document).map ofDraft := by
  have hreader : record.reader = fun text =>
      (record.itself.reader text).map fun (draft, rest) => (ofDraft draft, rest) :=
    funext (Record.reader_eq_map fun _ => rfl)
  rw [ofJson, Draft.ofJson, hreader, Json.read, Json.read]
  dsimp only
  cases record.itself.reader document.toList with
  | error refusal => rfl
  | ok read =>
    rcases read with ⟨draft, rest⟩
    simp only [Except.map]
    cases skipSpace rest <;> rfl

/-- A configuration is what its file gives, with the gaps filled. -/
theorem ofFile_eq_map (path : String) (content : Except IoFailure (List UInt8)) :
    ofFile path content = (Draft.ofFile path content).map ofDraft := by
  rw [ofFile.eq_def, Draft.ofFile.eq_def]
  cases content with
  | error failure => rfl
  | ok bytes =>
    dsimp only
    cases Utf8.decode? bytes with
    | some document => exact ofJson_eq_map document
    | none => rfl

/-- A document with members gives them, if they are settings. -/
theorem Draft.ofJson_members {ms : List (String × Value)} {document : String} {draft : Draft}
    (hscalar : ∀ m ∈ ms, m.2.IsScalar) (hdocument : Document (.object ms) document)
    (h : Draft.ofJson document = .ok draft) : Settings ms ∧ draft = .ofMembers ms := by
  by_cases hsettings : Settings ms
  · have hreads : Reads record.itself.reader (.object ms) (Draft.ofMembers ms) :=
      Record.reads_object (@fills_of_settings [] ms hsettings).itself rfl
    rw [Draft.ofJson, read_of_reads hreads hdocument] at h
    exact ⟨hsettings, (Except.ok.inj h).symm⟩
  · obtain ⟨fault, hfault⟩ := ofJson_of_not_settings hscalar hdocument hsettings
    rw [ofJson_eq_map, h] at hfault
    cases hfault

end Config

end LinkProbe
