import LinkProbe.Address.Endpoint
import LinkProbe.Proofs.Address.Dotted

/-!
# What an address of eight groups is written like

The grammar of the texts that write an address, without the reader, and the reader against it.

* `Ipv6.WritesGroup`, `Ipv6.WritesGroups`: what stands between colons.
* `Ipv6.Spells`: the text writes the address.
* `Ipv6.parse?_eq_some_iff`: the reader takes what the grammar says.
* `IpAddress.parse?_eq_v6_iff`: a host of that form is taken for nothing else.
-/

namespace LinkProbe

namespace Ipv6

variable {dotted : Bool} {text part before after : List Char} {parts : List (List Char)}
  {group : UInt16} {groups : List UInt16} {a b : Ipv6}

/-! ## The grammar -/

/-- One to four hexadecimal digits write a group. -/
def WritesGroup (part : List Char) (group : UInt16) : Prop :=
  part.length ≤ 4 ∧ Digit.Writes 16 Digit.hex? part group.toNat

/-- The parts write the groups, each part one of them. If `dotted`, the last part may instead be
the dotted form of the last two groups. -/
inductive WritesGroups (dotted : Bool) : List (List Char) → List UInt16 → Prop
  | nil : WritesGroups dotted [] []
  | group {part : List Char} {parts : List (List Char)} {group : UInt16} {groups : List UInt16}
      (first : WritesGroup part group) (rest : WritesGroups dotted parts groups) :
      WritesGroups dotted (part :: parts) (group :: groups)
  | dotted (hdotted : dotted = true) (v4 : Ipv4) :
      WritesGroups dotted [v4.chars] (groupsOfIpv4 v4)

/-- The text writes the address: all its groups between colons, or those on either side of a
double colon that stands for one zero group or more. -/
inductive Spells : List Char → Ipv6 → Prop
  | full {parts : List (List Char)} {a : Ipv6} (written : WritesGroups true parts a.groups) :
      Spells ([':'].intercalate parts) a
  | gap {before after : List (List Char)} {left right : List UInt16} {missing : Nat} {a : Ipv6}
      (hbefore : WritesGroups false before left) (hafter : WritesGroups true after right)
      (hmissing : 0 < missing) (ha : a.groups = left ++ List.replicate missing 0 ++ right) :
      Spells ([':'].intercalate before ++ ':' :: ':' :: [':'].intercalate after) a

/-! ## Groups -/

theorem group?_eq_some_iff : group? part = some group ↔ WritesGroup part group := by
  constructor
  · intro h
    rw [group?] at h
    split at h
    · cases h
    · next hshort =>
      obtain ⟨n, hn, rfl⟩ := Option.map_eq_some_iff.mp h
      have hwrites := Digit.number?_eq_some_iff.mp hn
      have hlt : n < 2 ^ 16 := calc
        n < 16 ^ part.length := hwrites.lt_pow Digit.hex?_lt
        _ ≤ 16 ^ 4 := Nat.pow_le_pow_right (by decide) (by omega)
      exact ⟨by omega, by rwa [UInt16.toNat_ofNat_of_lt' hlt]⟩
  · rintro ⟨hshort, hwrites⟩
    rw [group?, if_neg (by omega), Digit.number?_eq_some_iff.mpr hwrites, Option.map_some,
      UInt16.ofNat_toNat]

/-- A dot is no hexadecimal digit. -/
theorem group?_dotted (v4 : Ipv4) : group? v4.chars = none := by
  rw [Option.eq_none_iff_forall_ne_some]
  intro group h
  obtain ⟨-, hwrites⟩ := group?_eq_some_iff.mp h
  obtain ⟨d, hd⟩ := hwrites.exists_digit (c := '.') (by simp [Ipv4.chars])
  exact absurd hd (by simp [show Digit.hex? '.' = none by decide])

theorem writesGroups_of_groupsOf? (h : groupsOf? dotted parts = some groups) :
    WritesGroups dotted parts groups := by
  fun_induction groupsOf? dotted parts generalizing groups with
  | case1 =>
    cases h
    exact .nil
  | case2 part group hgroup =>
    cases h
    exact .group (group?_eq_some_iff.mp hgroup) .nil
  | case3 part hgroup hdotted =>
    obtain ⟨v4, hv4, rfl⟩ := Option.map_eq_some_iff.mp h
    rw [Ipv4.parse?_eq_some_iff.mp hv4]
    exact .dotted hdotted v4
  | case4 part hgroup hdotted => cases h
  | case5 part parts hne ih =>
    obtain ⟨group, hgroup, h⟩ := Option.bind_eq_some_iff.mp h
    obtain ⟨groups, hgroups, h⟩ := Option.bind_eq_some_iff.mp h
    cases h
    exact .group (group?_eq_some_iff.mp hgroup) (ih hgroups)

theorem groupsOf?_of_writesGroups (h : WritesGroups dotted parts groups) :
    groupsOf? dotted parts = some groups := by
  induction h with
  | nil => rfl
  | @group part parts group groups first rest ih =>
    have hfirst := group?_eq_some_iff.mpr first
    cases parts with
    | nil =>
      cases rest
      rw [groupsOf?, hfirst]
    | cons next parts =>
      rw [groupsOf?, hfirst, ih]
      · rfl
      · exact List.cons_ne_nil next parts
  | dotted hdotted v4 =>
    rw [groupsOf?, group?_dotted, if_pos hdotted, Ipv4.parse?_eq_some_iff.mpr rfl, Option.map_some]

/-- Nothing but hexadecimal digits and dots stands in a part, and something does. -/
theorem WritesGroups.plain {c : Char} (hhex : Digit.hex? c = none) (hdigit : c.isDigit = false)
    (hdot : c ≠ '.') (h : WritesGroups dotted parts groups) :
    ∀ part ∈ parts, part ≠ [] ∧ c ∉ part := by
  induction h with
  | nil => simp
  | group first rest ih =>
    refine List.forall_mem_cons.mpr ⟨⟨first.2.ne_nil, fun hmem => ?_⟩, ih⟩
    obtain ⟨d, hd⟩ := first.2.exists_digit hmem
    rw [hhex] at hd
    cases hd
  | dotted hdotted v4 =>
    exact List.forall_mem_singleton.mpr ⟨by simp [Ipv4.chars], Ipv4.notMem_chars hdigit hdot v4⟩

/-- Neither an empty part nor one with a colon writes anything. -/
theorem WritesGroups.no_colon (h : WritesGroups dotted parts groups) :
    ∀ part ∈ parts, part ≠ [] ∧ ':' ∉ part :=
  h.plain (by decide) (by decide) (by decide)

/-- Only the dotted form writes more groups than there are parts. -/
theorem WritesGroups.length_le (h : WritesGroups dotted parts groups) :
    groups.length ≤ parts.length + 1 := by
  induction h with
  | nil => exact Nat.zero_le 1
  | group first rest ih => exact Nat.succ_le_succ ih
  | dotted hdotted v4 => exact Nat.le_refl 2

theorem WritesGroups.cut_intercalate (h : WritesGroups dotted parts groups) (hne : parts ≠ []) :
    cut ':' ([':'].intercalate parts) = parts :=
  LinkProbe.cut_intercalate (fun part hmem => (h.no_colon part hmem).2) hne

/-! ## The double colon -/

theorem head?_intercalate (hpart : part ≠ []) (parts : List (List Char)) (rest : List Char) :
    ([':'].intercalate (part :: parts) ++ rest).head? = part.head? := by
  obtain ⟨c, part, rfl⟩ := List.exists_cons_of_ne_nil hpart
  cases parts with
  | nil => rfl
  | cons next parts => rw [List.intercalate_cons_cons]; rfl

theorem splitGap?_eq_some (h : splitGap? text = some (before, after)) :
    text = before ++ ':' :: ':' :: after := by
  fun_induction splitGap? text generalizing before after with
  | case1 rest =>
    cases h
    rfl
  | case2 c rest hgap ih =>
    obtain ⟨⟨_, _⟩, hrest, h⟩ := Option.map_eq_some_iff.mp h
    cases h
    rw [ih hrest]
    rfl
  | case3 => cases h

theorem splitGap?_cons {c : Char} {rest : List Char} (h : c = ':' → rest.head? ≠ some ':') :
    splitGap? (c :: rest) = (splitGap? rest).map fun gap => (c :: gap.1, gap.2) := by
  rw [splitGap?]
  rintro rest' rfl rfl
  exact h rfl rfl

/-- No gap begins among characters that are no colons. -/
theorem splitGap?_append (hpart : ':' ∉ part) (rest : List Char) :
    splitGap? (part ++ rest) = (splitGap? rest).map fun gap => (part ++ gap.1, gap.2) := by
  induction part with
  | nil => exact (Option.map_id' ..).symm
  | cons c part ih =>
    have hc : c ≠ ':' := (List.ne_of_not_mem_cons hpart).symm
    rw [List.cons_append, splitGap?_cons fun heq => absurd heq hc,
      ih (List.not_mem_of_not_mem_cons hpart), Option.map_map]
    rfl

/-- Parts that are not empty leave no gap, not even before one more colon. -/
theorem splitGap?_intercalate (hparts : ∀ part ∈ parts, part ≠ [] ∧ ':' ∉ part)
    {rest : List Char} (hrest : rest = [] ∨ rest = [':']) :
    splitGap? ([':'].intercalate parts ++ rest) = none := by
  have hlast : splitGap? rest = none := by
    rcases hrest with rfl | rfl <;> rfl
  induction parts with
  | nil => exact hlast
  | cons part parts ih =>
    obtain ⟨hpart, hparts⟩ := List.forall_mem_cons.mp hparts
    cases parts with
    | nil => rw [List.intercalate_singleton, splitGap?_append hpart.2, hlast, Option.map_none]
    | cons next parts =>
      have hnext := (List.forall_mem_cons.mp hparts).1
      -- The colon behind this part begins no gap, for the next part begins with something else.
      rw [List.intercalate_cons_cons, List.append_assoc, List.append_assoc,
        splitGap?_append hpart.2, List.singleton_append, splitGap?_cons, ih hparts]
      · rfl
      · rw [head?_intercalate hnext.1]
        exact fun _ hhead => hnext.2 (List.mem_of_head? hhead)

/-- The first gap is the one behind a text that has none, not even with one more colon. -/
theorem splitGap?_gap (h : splitGap? (before ++ [':']) = none) (after : List Char) :
    splitGap? (before ++ ':' :: ':' :: after) = some (before, after) := by
  induction before with
  | nil => rfl
  | cons c before ih =>
    have hc : c = ':' → (before ++ [':']).head? ≠ some ':' := by
      rintro rfl hhead
      obtain ⟨rest, hrest⟩ := List.head?_eq_some_iff.mp hhead
      rw [List.cons_append, hrest, splitGap?] at h
      cases h
    rw [List.cons_append, splitGap?_cons hc, Option.map_eq_none_iff] at h
    rw [List.cons_append, splitGap?_cons, ih h]
    · rfl
    · simpa only [List.head?_append, List.head?_cons] using hc

/-! ## Addresses -/

theorem side?_eq_some_iff : side? dotted text = some groups ↔
    ∃ parts, text = [':'].intercalate parts ∧ WritesGroups dotted parts groups := by
  rw [side?]
  constructor
  · intro h
    split at h
    · next hempty =>
      cases h
      exact ⟨[], List.isEmpty_iff.mp hempty, .nil⟩
    · exact ⟨cut ':' text, (intercalate_cut ':' text).symm, writesGroups_of_groupsOf? h⟩
  · rintro ⟨parts, rfl, hwritten⟩
    rcases eq_or_ne parts [] with rfl | hne
    · cases hwritten
      rfl
    · have hcut := hwritten.cut_intercalate hne
      have htext : ¬([':'].intercalate parts).isEmpty := by
        obtain ⟨part, parts, rfl⟩ := List.exists_cons_of_ne_nil hne
        have hpart := (hwritten.no_colon part List.mem_cons_self).1
        rw [List.isEmpty_iff, ← List.head?_eq_none_iff, ← List.append_nil (List.intercalate ..),
          head?_intercalate hpart, List.head?_eq_none_iff]
        exact hpart
      rw [if_neg htext, hcut]
      exact groupsOf?_of_writesGroups hwritten

theorem spells_of_parse? (h : parse? text = some a) : Spells text a := by
  rw [parse?] at h
  split at h
  · split at h
    · next groups hgroups =>
      split at h
      · cases h
        rw [← intercalate_cut ':' text]
        exact .full (writesGroups_of_groupsOf? hgroups)
      · cases h
    · cases h
  · next before after hgap =>
    split at h
    · next left right hleft hright =>
      split at h
      · next hroom =>
        cases h
        obtain ⟨before, rfl, hbefore⟩ := side?_eq_some_iff.mp hleft
        obtain ⟨after, rfl, hafter⟩ := side?_eq_some_iff.mp hright
        rw [splitGap?_eq_some hgap]
        exact .gap hbefore hafter (by omega) rfl
      · cases h
    · cases h

theorem parse?_of_spells (h : Spells text a) : parse? text = some a := by
  cases h with
  | @full parts _ written =>
    have hne : parts ≠ [] := by
      rintro rfl
      have := written.length_le
      rw [a.length_groups] at this
      exact absurd this (by decide)
    have hgap := splitGap?_intercalate written.no_colon (.inl rfl)
    rw [List.append_nil] at hgap
    simp only [parse?, hgap, written.cut_intercalate hne, groupsOf?_of_writesGroups written,
      a.length_groups]
    rfl
  | @gap before after left right missing _ hbefore hafter hmissing ha =>
    have hgap := splitGap?_gap (splitGap?_intercalate hbefore.no_colon (.inr rfl))
      ([':'].intercalate after)
    have hleft := side?_eq_some_iff.mpr ⟨before, rfl, hbefore⟩
    have hright := side?_eq_some_iff.mpr ⟨after, rfl, hafter⟩
    have hlength : left.length + (missing + right.length) = 8 := by
      simpa [ha] using a.length_groups
    have hroom : left.length + right.length ≤ 7 := by omega
    have hzeros : 8 - (left.length + right.length) = missing := by omega
    simp only [parse?, hgap, hleft, hright, dif_pos hroom, hzeros, ← ha]

/-- **The reader takes the texts that write an address, and no others.** -/
theorem parse?_eq_some_iff : parse? text = some a ↔ Spells text a :=
  ⟨spells_of_parse?, parse?_of_spells⟩

/-- A text writes one address at most. -/
theorem Spells.unique (h : Spells text a) (h' : Spells text b) : a = b :=
  Option.some.inj ((parse?_of_spells h).symm.trans (parse?_of_spells h'))

instance (text : List Char) (a : Ipv6) : Decidable (Spells text a) :=
  decidable_of_iff _ parse?_eq_some_iff

theorem notMem_intercalate {c : Char} (hc : c ≠ ':') (hparts : ∀ part ∈ parts, c ∉ part) :
    c ∉ [':'].intercalate parts := by
  induction parts with
  | nil => simp
  | cons part parts ih =>
    obtain ⟨hpart, hparts⟩ := List.forall_mem_cons.mp hparts
    cases parts with
    | nil => rwa [List.intercalate_singleton]
    | cons next parts => simp [List.intercalate_cons_cons, hpart, hc, ih hparts]

/-- Nothing but hexadecimal digits, dots and colons stands in an address. -/
theorem Spells.notMem {c : Char} (hhex : Digit.hex? c = none) (hdigit : c.isDigit = false)
    (hdot : c ≠ '.') (hcolon : c ≠ ':') (h : Spells text a) : c ∉ text := by
  have hside : ∀ {dotted parts groups}, WritesGroups dotted parts groups →
      c ∉ [':'].intercalate parts := fun hwritten =>
    notMem_intercalate hcolon fun part hmem => (hwritten.plain hhex hdigit hdot part hmem).2
  cases h with
  | full written => exact hside written
  | gap hbefore hafter _ _ => simp [hside hbefore, hside hafter, hcolon]

theorem Spells.colon_mem (h : Spells text a) : ':' ∈ text := by
  cases h with
  | @full parts _ written =>
    have hlength := written.length_le
    rw [a.length_groups] at hlength
    match parts with
    | [] | [_] => simp at hlength
    | part :: next :: parts => simp [List.intercalate_cons_cons]
  | gap hbefore hafter hmissing ha => simp

end Ipv6

/-- A host is taken for an address with colons if it writes one. -/
theorem IpAddress.parse?_eq_v6_iff {host : String} {a : Ipv6} :
    IpAddress.parse? host = some (.v6 a) ↔ Ipv6.Spells host.toList a := by
  rw [IpAddress.parse?]
  constructor
  · intro h
    split at h
    · cases h
    · obtain ⟨_, ha, h⟩ := Option.map_eq_some_iff.mp h
      cases h
      exact Ipv6.spells_of_parse? ha
  · intro h
    have hv4 : Ipv4.parse? host.toList = none := by
      rw [Option.eq_none_iff_forall_ne_some]
      intro v4 hparse
      have hmem := h.colon_mem
      rw [Ipv4.parse?_eq_some_iff.mp hparse] at hmem
      exact Ipv4.notMem_chars (by decide) (by decide) v4 hmem
    rw [hv4, Ipv6.parse?_of_spells h]
    rfl

end LinkProbe
