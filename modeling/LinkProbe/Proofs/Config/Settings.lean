import LinkProbe.Config.Document
import LinkProbe.Config.Overrides
import LinkProbe.Proofs.Json.Objects
import LinkProbe.Proofs.Json.Printing

/-!
# Configurations as layers

A document with settings is a layer of overrides over the standard configuration. It is a
configuration if every member is a setting with a value of its type and no setting comes twice.

* `Config.Setting`, `Config.Settings`: the members that a configuration can have.
* `Overrides.ofMembers`: the layer that they make up.
* `Config.fills_of_settings`, `Config.sticks_of_not_settings`: one member after the other goes into
  the draft, or one is refused.
* `Config.ofJson_object`: what a document with members is read as.
-/

namespace LinkProbe

open Json

/-! ## Members -/

namespace Json.Value

/-- The text, if the value is one. -/
def text? : Value → Option String
  | .text s => some s
  | _ => none

/-- The number, if the value is one. -/
def natural? : Value → Option Nat
  | .natural n => some n
  | _ => none

/-- The truth value, if the value is one. -/
def boolean? : Value → Option Bool
  | .boolean b => some b
  | _ => none

end Json.Value

namespace Config

/-- A member that is a setting with a value of its type. -/
inductive Setting : String × Value → Prop
  | host (s : String) : Setting ("host", .text s)
  | port {n : Nat} (h : n ≤ 65535) : Setting ("port", .natural n)
  | mode {word : String} (h : word ∈ ["send", "receive", "recv"]) : Setting ("mode", .text word)
  | interval {n : Nat} (h : n < UInt64.size) : Setting ("interval_ms", .natural n)
  | noCount : Setting ("count", .null)
  | count {n : Nat} (h : n < UInt64.size) : Setting ("count", .natural n)
  | noTimeout : Setting ("connect_timeout_ms", .null)
  | timeout {n : Nat} (h : n < UInt64.size) : Setting ("connect_timeout_ms", .natural n)
  | strict (b : Bool) : Setting ("strict_utf8", .boolean b)
  | buffer {n : Nat} (h : n < UInt64.size) : Setting ("read_buffer_size", .natural n)

/-- The members are settings, and none comes twice. -/
def Settings (ms : List (String × Value)) : Prop :=
  (ms.map Prod.fst).Nodup ∧ ∀ m ∈ ms, Setting m

end Config

/-- The layer of the settings among the members; `null` leaves a setting open. -/
def Overrides.ofMembers (ms : List (String × Value)) : Overrides where
  host := (ms.lookup "host").bind Value.text?
  port := ((ms.lookup "port").bind Value.natural?).map .ofNat
  mode := ((ms.lookup "mode").bind Value.text?).bind fun word => Mode.spellings.lookup word
  intervalMs := ((ms.lookup "interval_ms").bind Value.natural?).map .ofNat
  count := ((ms.lookup "count").bind Value.natural?).map .ofNat
  connectTimeoutMs := ((ms.lookup "connect_timeout_ms").bind Value.natural?).map .ofNat
  strictUtf8 := (ms.lookup "strict_utf8").bind Value.boolean?
  readBufferSize := ((ms.lookup "read_buffer_size").bind Value.natural?).map .ofNat

namespace Config

variable {m : String × Value} {ms before after others : List (String × Value)} {key : String}
  {value : Value} {draft : Draft}

/-- The draft that the members make up. -/
def Draft.ofMembers (ms : List (String × Value)) : Draft where
  host := (ms.lookup "host").bind Value.text?
  port := ((ms.lookup "port").bind Value.natural?).map .ofNat
  mode := ((ms.lookup "mode").bind Value.text?).bind fun word => Mode.spellings.lookup word
  intervalMs := ((ms.lookup "interval_ms").bind Value.natural?).map .ofNat
  count := (ms.lookup "count").map fun value => value.natural?.map .ofNat
  connectTimeoutMs := (ms.lookup "connect_timeout_ms").map fun value => value.natural?.map .ofNat
  strictUtf8 := (ms.lookup "strict_utf8").bind Value.boolean?
  readBufferSize := ((ms.lookup "read_buffer_size").bind Value.natural?).map .ofNat

/-- The gaps of the draft are filled as the layer of its members is put over the standard. -/
theorem ofDraft_ofMembers (ms : List (String × Value)) :
    ofDraft (.ofMembers ms) = standard.override (.ofMembers ms) := by
  simp only [ofDraft, Draft.ofMembers, override, Overrides.ofMembers, standard, Option.or_none]
  cases ms.lookup "count" <;> cases ms.lookup "connect_timeout_ms" <;> rfl

/-! ## One member -/

theorem lookup_of_not_mem {β : Type} {entries : List (String × β)}
    (h : key ∉ entries.map Prod.fst) : entries.lookup key = none := by
  rw [List.lookup_eq_none_iff]
  intro m hm
  have hne : key ≠ m.1 := fun heq => h (heq ▸ List.mem_map_of_mem hm)
  simpa using hne

theorem lookup_concat (ms : List (String × Value)) (key : String) (value : Value)
    (wanted : String) : (ms ++ [(key, value)]).lookup wanted =
      (ms.lookup wanted).or (if wanted = key then some value else none) := by
  rw [List.lookup_append, List.lookup_cons, List.lookup_nil]
  by_cases h : wanted = key
  · simp [h]
  · simp [h, beq_false_of_ne h]

theorem reads_natural16 {n : Nat} (h : n ≤ 65535) : Reads natural16 (.natural n) (.ofNat n) :=
  (reads_naturalUpTo (by decide) h "u16").map UInt16.ofNat

theorem reads_word64 {n : Nat} (h : n < UInt64.size) (wanted : String) :
    Reads (word64 wanted) (.natural n) (.ofNat n) :=
  (reads_naturalUpTo (Nat.le_refl _) (Nat.le_pred_of_lt h) wanted).map UInt64.ofNat

theorem refuses_word64 (h : ∀ n, value = .natural n → UInt64.size ≤ n) (wanted : String) :
    Refuses (word64 wanted) value := by
  refine (refuses_naturalUpTo (fun n hn => ?_) wanted).map UInt64.ofNat
  exact Nat.lt_of_lt_of_le (by decide) (h n hn)

theorem refuses_nullable_word64 (hnull : value ≠ .null)
    (h : ∀ n, value = .natural n → UInt64.size ≤ n) (wanted : String) :
    Refuses (nullable (word64 wanted)) value :=
  refuses_nullable hnull (refuses_word64 h wanted)

theorem lookup_spellings {word : String} (h : word ∈ ["send", "receive", "recv"]) :
    ∃ mode, Mode.spellings.lookup word = some mode := by
  simp only [List.mem_cons, List.not_mem_nil, or_false] at h
  rcases h with rfl | rfl | rfl <;> exact ⟨_, rfl⟩

theorem lookup_spellings_eq_none {word : String} (h : word ∉ ["send", "receive", "recv"]) :
    Mode.spellings.lookup word = none :=
  lookup_of_not_mem h

/-- A setting that has not come before goes into the draft. -/
theorem takes_setting (hm : Setting m) (hnew : m.1 ∉ ms.map Prod.fst) :
    record.Takes (.ofMembers ms) m (.ofMembers (ms ++ [m])) := by
  have hnone := lookup_of_not_mem hnew
  cases hm with
  | host s =>
    exact Record.takes_of rfl (by simp [Draft.ofMembers, hnone]) (reads_textFor _ s)
      (by simp [Draft.ofMembers, lookup_concat, hnone, Value.text?])
  | port h =>
    exact Record.takes_of rfl (by simp [Draft.ofMembers, hnone]) (reads_natural16 h)
      (by simp [Draft.ofMembers, lookup_concat, hnone, Value.natural?])
  | mode h =>
    obtain ⟨mode, hmode⟩ := lookup_spellings h
    exact Record.takes_of rfl (by simp [Draft.ofMembers, hnone]) (reads_variant hmode)
      (by simp [Draft.ofMembers, lookup_concat, hnone, Value.text?, hmode])
  | interval h | buffer h =>
    exact Record.takes_of rfl (by simp [Draft.ofMembers, hnone]) (reads_word64 h _)
      (by simp [Draft.ofMembers, lookup_concat, hnone, Value.natural?])
  | noCount | noTimeout =>
    exact Record.takes_of rfl (by simp [Draft.ofMembers, hnone]) (reads_nullable_none _)
      (by simp [Draft.ofMembers, lookup_concat, hnone, Value.natural?])
  | count h | timeout h =>
    exact Record.takes_of rfl (by simp [Draft.ofMembers, hnone])
      (reads_nullable_some (by simp) (reads_word64 h _))
      (by simp [Draft.ofMembers, lookup_concat, hnone, Value.natural?])
  | strict b =>
    exact Record.takes_of rfl (by simp [Draft.ofMembers, hnone]) (reads_boolean b)
      (by simp [Draft.ofMembers, lookup_concat, hnone, Value.boolean?])

/-- A setting that has come before is refused. -/
theorem rejects_again (hms : ∀ m ∈ ms, Setting m) (hkey : key ∈ ms.map Prod.fst) (value : Value) :
    record.Rejects (.ofMembers ms) (key, value) := by
  obtain ⟨first, hlookup⟩ : ∃ first, ms.lookup key = some first := by
    obtain ⟨m, hmem, rfl⟩ := List.mem_map.mp hkey
    exact Option.isSome_iff_exists.mp (List.lookup_isSome_iff.mpr ⟨m, hmem, beq_self_eq_true m.1⟩)
  have hfirst : Setting (key, first) := by
    obtain ⟨front, back, rfl, -⟩ := List.lookup_eq_some_iff.mp hlookup
    exact hms _ (by simp)
  cases hfirst with
  | host s =>
    exact Record.rejects_of_set rfl (by simp [Draft.ofMembers, hlookup, Value.text?]) value
  | mode h =>
    obtain ⟨mode, hmode⟩ := lookup_spellings h
    exact Record.rejects_of_set rfl (by simp [Draft.ofMembers, hlookup, Value.text?, hmode]) value
  | port _ | interval _ | noCount | count _ | noTimeout | timeout _ | buffer _ =>
    exact Record.rejects_of_set rfl (by simp [Draft.ofMembers, hlookup, Value.natural?]) value
  | strict b =>
    exact Record.rejects_of_set rfl (by simp [Draft.ofMembers, hlookup, Value.boolean?]) value

/-- A member that is no setting is refused. -/
theorem rejects_of_not_setting (hscalar : value.IsScalar) (h : ¬ Setting (key, value))
    (draft : Draft) : record.Rejects draft (key, value) := by
  cases hfind : record.fields.find? (·.name = key) with
  | none => exact .inl ⟨hfind, rfl⟩
  | some field =>
    have hname : field.name = key := by simpa using List.find?_some hfind
    have hmem := List.mem_of_find?_eq_some hfind
    simp only [record, fields, List.mem_cons, List.not_mem_nil, or_false] at hmem
    have hword : ∀ {field : String}, (∀ n < UInt64.size, Setting (field, .natural n)) →
        field = key → ∀ n, value = .natural n → UInt64.size ≤ n := by
      rintro field hfits rfl n rfl
      exact Nat.le_of_not_lt fun hn => h (hfits n hn)
    rcases hmem with rfl | rfl | rfl | rfl | rfl | rfl | rfl | rfl <;> subst hname
    · refine Record.rejects_of rfl (refuses_textFor ?_ _) draft
      rintro s rfl
      exact h (.host s)
    · refine Record.rejects_of rfl ((refuses_naturalUpTo ?_ _).map _) draft
      rintro n rfl
      exact Nat.lt_of_not_le fun hle => h (.port hle)
    · refine Record.rejects_of rfl (refuses_variant hscalar ?_) draft
      rintro s rfl
      exact lookup_spellings_eq_none fun hmem => h (.mode hmem)
    · exact Record.rejects_of rfl (refuses_word64 (hword (fun n hn => .interval hn) rfl) _) draft
    · refine Record.rejects_of rfl (refuses_nullable_word64 ?_
        (hword (fun n hn => .count hn) rfl) _) draft
      rintro rfl
      exact h .noCount
    · refine Record.rejects_of rfl (refuses_nullable_word64 ?_
        (hword (fun n hn => .timeout hn) rfl) _) draft
      rintro rfl
      exact h .noTimeout
    · refine Record.rejects_of rfl (refuses_boolean ?_) draft
      rintro b rfl
      exact h (.strict b)
    · exact Record.rejects_of rfl (refuses_word64 (hword (fun n hn => .buffer hn) rfl) _) draft

/-! ## All members -/

theorem settings_nil : Settings [] := ⟨List.nodup_nil, by simp⟩

theorem settings_concat : Settings (ms ++ [m]) ↔
    Settings ms ∧ m.1 ∉ ms.map Prod.fst ∧ Setting m := by
  simp only [Settings, List.map_append, List.map_cons, List.map_nil, List.nodup_append,
    List.mem_append, List.mem_singleton]
  constructor
  · rintro ⟨⟨hnodup, -, hnew⟩, hall⟩
    exact ⟨⟨hnodup, fun n hn => hall n (.inl hn)⟩, fun hmem => hnew _ hmem _ rfl rfl,
      hall m (.inr rfl)⟩
  · rintro ⟨⟨hnodup, hall⟩, hnew, hm⟩
    refine ⟨⟨hnodup, by simp, ?_⟩, ?_⟩
    · rintro key hkey _ rfl rfl
      exact hnew hkey
    · rintro n (hn | rfl)
      · exact hall n hn
      · exact hm

theorem Settings.front (h : Settings (before ++ after)) : Settings before := by
  obtain ⟨hnodup, hall⟩ := h
  rw [List.map_append] at hnodup
  exact ⟨(List.nodup_append.mp hnodup).1, fun m hm => hall m (List.mem_append_left after hm)⟩

/-- Settings go into the draft one after the other. -/
theorem fills_of_settings (h : Settings (before ++ after)) :
    record.Fills (.ofMembers before) after (.ofMembers (before ++ after)) := by
  induction after generalizing before with
  | nil =>
    rw [List.append_nil]
    exact .nil _
  | cons m after ih =>
    rw [List.append_cons] at h ⊢
    obtain ⟨-, hnew, hm⟩ := settings_concat.mp h.front
    exact .cons (takes_setting hm hnew) (ih h)

/-- Of members that are no settings, or not all different, one is refused. -/
theorem sticks_of_not_settings (hscalar : ∀ m ∈ after, m.2.IsScalar) (hbefore : Settings before)
    (h : ¬ Settings (before ++ after)) : record.Sticks (.ofMembers before) after := by
  induction after generalizing before with
  | nil =>
    rw [List.append_nil] at h
    exact absurd hbefore h
  | cons m after ih =>
    by_cases hm : Setting m
    · by_cases hkey : m.1 ∈ before.map Prod.fst
      · exact .here (rejects_again hbefore.2 hkey m.2)
      · refine .later (takes_setting hm hkey) (ih ?_ (settings_concat.mpr ⟨hbefore, hkey, hm⟩) ?_)
        · exact fun n hn => hscalar n (List.mem_cons_of_mem m hn)
        · rwa [List.append_cons] at h
    · exact .here (rejects_of_not_setting (hscalar m List.mem_cons_self) hm _)

/-! ## Documents -/

theorem ofJson_of_settings {document : String} (hdocument : Document (.object ms) document)
    (h : Settings ms) : ofJson document = .ok (standard.override (.ofMembers ms)) := by
  have hreads : Reads record.reader (.object ms) (ofDraft (.ofMembers ms)) :=
    Record.reads_object (@fills_of_settings [] ms h) rfl
  rw [ofJson, read_of_reads hreads hdocument, ← ofDraft_ofMembers]
  rfl

theorem ofJson_of_not_settings {document : String} (hscalar : ∀ m ∈ ms, m.2.IsScalar)
    (hdocument : Document (.object ms) document) (h : ¬ Settings ms) :
    ∃ fault, ofJson document = .error (.malformed fault) := by
  have hrefuses : Refuses record.reader (.object ms) :=
    Record.refuses_object (sticks_of_not_settings hscalar settings_nil h)
  obtain ⟨fault, hread⟩ := read_of_refuses hrefuses hdocument
  exact ⟨fault, by rw [ofJson, hread]; rfl⟩

theorem settings_perm (h : others.Perm ms) : Settings others ↔ Settings ms := by
  simp only [Settings, (h.map Prod.fst).nodup_iff, h.mem_iff]

/-- Where no key comes twice, the order does not matter for a look-up. -/
theorem lookup_perm (h : others.Perm ms) (hnodup : (ms.map Prod.fst).Nodup) (key : String) :
    others.lookup key = ms.lookup key := by
  induction h with
  | nil => rfl
  | cons m _ ih =>
    rw [List.map_cons, List.nodup_cons] at hnodup
    rw [List.lookup_cons, List.lookup_cons, ih hnodup.2]
  | swap m n ms =>
    obtain ⟨first, value⟩ := m
    obtain ⟨second, other⟩ := n
    have hne : first ≠ second := by
      rw [List.map_cons, List.map_cons, List.nodup_cons] at hnodup
      exact fun heq => hnodup.1 (heq ▸ List.mem_cons_self)
    simp only [List.lookup_cons]
    cases hfirst : key == first <;> cases hsecond : key == second <;> try rfl
    exact absurd ((beq_iff_eq.mp hfirst).symm.trans (beq_iff_eq.mp hsecond)) hne
  | trans hfirst hsecond ihfirst ihsecond =>
    rw [ihfirst ((hsecond.map Prod.fst).nodup_iff.mpr hnodup), ihsecond hnodup]

theorem ofMembers_perm (h : others.Perm ms) (hnodup : (ms.map Prod.fst).Nodup) :
    Overrides.ofMembers others = Overrides.ofMembers ms := by
  simp only [Overrides.ofMembers, lookup_perm h hnodup]

/-- **A document with members is a configuration exactly if they are settings and all different.**
It is the standard configuration under the layer of its members, in whatever order they come and
whatever white space stands between them; any other is refused. -/
theorem ofJson_object {document : String} (hscalar : ∀ m ∈ ms, m.2.IsScalar)
    (hdocument : Document (.object ms) document) :
    ((∃ c, ofJson document = .ok c) ↔ (ms.map Prod.fst).Nodup ∧ ∀ m ∈ ms, Setting m) ∧
    (∀ c, ofJson document = .ok c → c = standard.override (.ofMembers ms)) ∧
    ((¬ ∃ c, ofJson document = .ok c) → ∃ fault, ofJson document = .error (.malformed fault)) ∧
    ∀ others other, others.Perm ms → Document (.object others) other →
      (ofJson other).toOption = (ofJson document).toOption := by
  by_cases h : Settings ms
  · have hjson := ofJson_of_settings hdocument h
    refine ⟨⟨fun _ => h, fun _ => ⟨_, hjson⟩⟩, ?_, fun hnone => absurd ⟨_, hjson⟩ hnone, ?_⟩
    · intro c hc
      rw [hjson] at hc
      exact (Except.ok.inj hc).symm
    · intro others other hperm hother
      rw [ofJson_of_settings hother ((settings_perm hperm).mpr h), hjson,
        ofMembers_perm hperm h.1]
  · obtain ⟨fault, hjson⟩ := ofJson_of_not_settings hscalar hdocument h
    refine ⟨⟨?_, fun hsettings => absurd hsettings h⟩, ?_, fun _ => ⟨fault, hjson⟩, ?_⟩
    · rintro ⟨c, hc⟩
      rw [hjson] at hc
      cases hc
    · intro c hc
      rw [hjson] at hc
      cases hc
    · intro others other hperm hother
      obtain ⟨other, hotherJson⟩ := ofJson_of_not_settings
        (fun m hm => hscalar m (hperm.mem_iff.mp hm)) hother (mt (settings_perm hperm).mp h)
      rw [hotherJson, hjson]
      rfl

/-- A short word for a mode, an absent number and the largest port, with an escape in a key and
white space of all kinds. -/
theorem ofJson_object_layered :
    ofJson "\t\x7b \"mo\\u0064e\" :\r\n\"recv\",\"count\":null , \"port\":65535\x7d\n" =
      .ok { standard with mode := .receive, port := 65535 } := by
  have hmode : Spelled ['m', 'o', 'd', 'e']
      (['m'] ++ (['o'] ++ (['\\', 'u', '0', '0', '6', '4'] ++ (['e'] ++ [])))) :=
    .cons (.plain (by decide) (by decide) (by decide)) <|
      .cons (.plain (by decide) (by decide) (by decide)) <|
      .cons (.unit ⟨rfl, by decide⟩) <| .cons (.plain (by decide) (by decide) (by decide)) .nil
  have hfirst : MemberWritten Written ("mode", .text "recv") _ :=
    .mk hmode blank_space (show Blank ['\r', '\n'] by decide) (written_compact (.text "recv"))
  have hsecond : MemberWritten Written ("count", .null) _ := member_compact ("count", .null)
  have hthird : MemberWritten Written ("port", .natural 65535) _ :=
    member_compact ("port", .natural 65535)
  have hwritten := Written.object blank_space hfirst <| .comma blank_nil blank_nil hsecond <|
    .comma blank_space blank_space hthird <| .close blank_nil
  have hdocument : Document (.object [("mode", .text "recv"), ("count", .null),
      ("port", .natural 65535)])
      "\t\x7b \"mo\\u0064e\" :\r\n\"recv\",\"count\":null , \"port\":65535\x7d\n" :=
    ⟨['\t'], _, ['\n'], by decide, hwritten, by decide, by decide⟩
  obtain ⟨⟨-, haccepted⟩, hlayer, -⟩ := ofJson_object (by simp [Value.IsScalar]) hdocument
  obtain ⟨c, hc⟩ := haccepted ⟨by decide, by
    simp only [List.mem_cons, List.not_mem_nil, or_false]
    rintro m (rfl | rfl | rfl)
    · exact .mode (by decide)
    · exact .noCount
    · exact .port (by decide)⟩
  rw [hc, hlayer c hc]
  rfl

end Config

end LinkProbe
