import LinkProbe.Proofs.CommandLine.Numerals
import LinkProbe.Proofs.CommandLine.Spelling

/-!
# What flags are for

The arguments that uses of flags make up: each part is the value of its own flag. A draft goes
from one use to the next, and in the end it holds the arguments of all.

* `Arguments.ofUses`: the arguments that uses make up.
* `Draft.Holds`: a draft after some uses.
* `holds_give`, `holds_giveAll`: one use, all uses.
* `MadeOf`, `madeOf_of_spells`: what a command line is read as.
-/

namespace LinkProbe.CommandLine.Arguments

/-- The value of a flag, if it is given. -/
def given {ε α : Type} (uses : List Use) (flag : Flag) (parse : String → Except ε α) : Option α :=
  (uses.lookup flag).bind fun text => (parse text).toOption

/-- The arguments that uses of flags make up. -/
def ofUses (uses : List Use) : Arguments where
  config := uses.lookup .config
  settings := {
    host := uses.lookup .host
    port := given uses .port port
    mode := given uses .mode Mode.ofText
    intervalMs := given uses .intervalMs word
    count := given uses .count word
    connectTimeoutMs := given uses .connectTimeoutMs word
    strictUtf8 := given uses .strictUtf8 truth
    readBufferSize := given uses .readBufferSize word }
  duration := ((given uses .duration word).map UInt64.toNat).getD 0
  output := uses.lookup .output
  format := (uses.lookup .format).getD "json"
  verbose := (uses.lookup .verbose).isSome

/-- The text is a value of the flag. -/
def Accepted (use : Use) : Prop := ∃ a next : Arguments, a.set use.1 use.2 = .ok next

variable {d next : Draft} {a : Arguments} {flag wanted : Flag} {value : String}
  {uses after : List Use} {arguments : List String}

/-! ## One use -/

theorem lookup_of_not_given (h : flag ∉ uses.map Prod.fst) : uses.lookup flag = none := by
  rw [List.lookup_eq_none_iff]
  intro use huse
  have hne : flag ≠ use.1 := fun heq => h (heq ▸ List.mem_map_of_mem huse)
  simpa using hne

theorem lookup_use (hnew : flag ∉ uses.map Prod.fst) (value : String) :
    (uses ++ [(flag, value)]).lookup flag = some value := by
  rw [List.lookup_append, lookup_of_not_given hnew, Option.none_or, List.lookup_cons_self]

theorem lookup_other (hne : wanted ≠ flag) (uses : List Use) (value : String) :
    (uses ++ [(flag, value)]).lookup wanted = uses.lookup wanted := by
  rw [List.lookup_append, List.lookup_cons, beq_false_of_ne hne]
  simp

theorem given_use {ε α : Type} {parse : String → Except ε α} {x : α}
    (hnew : flag ∉ uses.map Prod.fst) (h : parse value = .ok x) :
    given (uses ++ [(flag, value)]) flag parse = some x := by
  rw [given, lookup_use hnew, Option.bind_some, h]
  rfl

theorem given_other {ε α : Type} (hne : wanted ≠ flag) (uses : List Use) (value : String)
    (parse : String → Except ε α) :
    given (uses ++ [(flag, value)]) wanted parse = given uses wanted parse := by
  rw [given, given, lookup_other hne]

theorem exists_of_map_ok {ε α β : Type} {x : Except ε α} {f : α → β} {b : β}
    (h : x.map f = .ok b) : ∃ a, x = .ok a ∧ f a = b := by
  cases x with
  | error fault => cases h
  | ok a => exact ⟨a, rfl, Except.ok.inj h⟩

/-- A flag that has not been given is set as if it were the last of the uses. -/
theorem set_ofUses (hnew : flag ∉ uses.map Prod.fst) (h : (ofUses uses).set flag value = .ok a) :
    a = ofUses (uses ++ [(flag, value)]) := by
  cases flag with
  | help | version =>
    cases h
    simp [ofUses, lookup_other, given_other]
  | config | host | output | format | verbose =>
    cases h
    simp [ofUses, lookup_use hnew, lookup_other, given_other]
  | mode =>
    rw [set] at h
    dsimp only at h
    split at h
    · next mode hmode =>
      cases h
      simp [ofUses, given_use hnew hmode, lookup_other, given_other]
    · cases h
  | port | intervalMs | count | connectTimeoutMs | strictUtf8 | readBufferSize | duration =>
    obtain ⟨x, hx, rfl⟩ := exists_of_map_ok h
    simp [ofUses, given_use hnew hx, lookup_other, given_other]

/-! ## All uses -/

/-- The arguments come of the uses, in which every flag stands once and with one of its values. -/
structure MadeOf (a : Arguments) (uses : List Use) : Prop where
  nodup : (uses.map Prod.fst).Nodup
  accepted : ∀ use ∈ uses, Accepted use
  eq : a = ofUses uses

/-- The draft holds what the uses give. -/
structure Draft.Holds (d : Draft) (uses : List Use) : Prop where
  given : ∀ flag, flag ∈ d.given ↔ flag ∈ uses.map Prod.fst
  made : d.arguments.MadeOf uses

theorem holds_blank : Draft.blank.Holds [] where
  given := by simp [Draft.blank]
  made := ⟨List.nodup_nil, by simp, rfl⟩

theorem nodup_concat (h : (uses.map Prod.fst).Nodup) (hnew : flag ∉ uses.map Prod.fst)
    (value : String) : ((uses ++ [(flag, value)]).map Prod.fst).Nodup := by
  rw [List.map_append, List.nodup_append]
  refine ⟨h, by simp, ?_⟩
  rintro used hused _ hflag rfl
  obtain rfl : used = flag := by simpa using hflag
  exact hnew hused

/-- A flag is given if it has not been before and the value is one of its own. -/
theorem holds_give (h : d.Holds uses) (hgive : d.give flag value = .ok next) :
    next.Holds (uses ++ [(flag, value)]) := by
  obtain ⟨hgiven, hnodup, haccepted, harguments⟩ := h
  rw [Draft.give] at hgive
  split at hgive
  · cases hgive
  · next hnew =>
    rw [hgiven] at hnew
    split at hgive
    · cases hgive
    · split at hgive
      · next a hset =>
        cases hgive
        refine ⟨fun wanted => ?_, nodup_concat hnodup hnew value, ?_,
          set_ofUses hnew (harguments ▸ hset)⟩
        · simp [hgiven, or_comm]
        · rw [List.forall_mem_append, List.forall_mem_singleton]
          exact ⟨haccepted, d.arguments, a, hset⟩
      · cases hgive

/-- A draft that is given uses one after the other holds them all. -/
theorem holds_giveAll (h : d.Holds uses) (hgive : d.giveAll after = .ok next) :
    next.Holds (uses ++ after) := by
  induction after generalizing d uses with
  | nil =>
    cases hgive
    rwa [List.append_nil]
  | cons use after ih =>
    obtain ⟨first, hfirst, hgive⟩ := exists_of_bind_ok hgive
    rw [List.append_cons]
    exact ih (holds_give h hfirst) hgive

/-- **A command line is read as the arguments that its uses make up**, in whichever way it is
written. -/
theorem madeOf_of_spells (h : ofList arguments = .ok a) (hspells : Spells arguments uses) :
    a.MadeOf uses := by
  rw [ofList_of_spells hspells] at h
  obtain ⟨d, hgive, h⟩ := exists_of_bind_ok h
  cases h
  exact (holds_giveAll holds_blank hgive).made

end LinkProbe.CommandLine.Arguments
