import LinkProbe.Config
import LinkProbe.Proofs.Address.Literals
import Mathlib.Data.List.TakeWhile

/-!
# One name for each address

The text of an address is read back as the address, so that a target names the address of its
host, however that is written, and its port.

* `Ipv6.groups_run`: what the double colon stands for is zero.
* `Ipv6.spells_chars`: the canonical form writes the address.
* `targetText_inj`: when the names of two targets are the same.
* `Config.target_canonical`: the target of a configuration.
-/

namespace LinkProbe

namespace Ipv6

variable {groups : List UInt16} {a : Ipv6} {v4 : Ipv4}

/-! ## Groups -/

theorem writesGroup_toDigits (group : UInt16) :
    WritesGroup (Nat.toDigits 16 group.toNat) group := by
  refine ⟨?_, Digit.writes_toDigits (by decide) Digit.hex?_digitChar group.toNat⟩
  rw [Nat.length_toDigits_le_iff (by decide) (by decide)]
  exact group.toNat_lt

theorem writesGroups_toDigits (dotted : Bool) (groups : List UInt16) :
    WritesGroups dotted (groups.map fun group => Nat.toDigits 16 group.toNat) groups := by
  induction groups with
  | nil => exact .nil
  | cons group groups ih => exact .group (writesGroup_toDigits group) ih

/-! ## The longest run of zeros -/

/-- The front of a list is zero as far as `zeros` counts. -/
theorem take_of_le_zeros {n : Nat} (h : n ≤ zeros groups) :
    groups.take n = List.replicate n 0 := by
  have hlength : n ≤ groups.length := Nat.le_trans h (List.takeWhile_prefix _).length_le
  refine List.eq_replicate_iff.mpr ⟨List.length_take_of_le hlength, fun group hmem => ?_⟩
  have hfront : groups.take n <+: groups.takeWhile (· = 0) :=
    List.prefix_of_prefix_length_le (List.take_prefix n groups) (List.takeWhile_prefix _)
      (by rwa [List.length_take_of_le hlength])
  simpa using List.mem_takeWhile_imp (hfront.mem hmem)

/-- The groups that are zero from where the longest run begins are as many as it is long, at
least. -/
theorem longestRun_le (groups : List UInt16) :
    (longestRun groups).2 ≤ zeros (groups.drop (longestRun groups).1) := by
  unfold longestRun
  refine List.foldlRecOn
    (motive := fun best : Nat × Nat => best.2 ≤ zeros (groups.drop best.1)) _ _
    (Nat.zero_le _) fun best hbest start _ => ?_
  dsimp only
  split
  · exact Nat.le_refl _
  · exact hbest

/-- What the double colon stands for is zero. -/
theorem groups_run (groups : List UInt16) :
    groups = groups.take (longestRun groups).1 ++ List.replicate (longestRun groups).2 0 ++
      groups.drop ((longestRun groups).1 + (longestRun groups).2) := by
  rw [← take_of_le_zeros (longestRun_le groups), ← List.drop_drop, List.append_assoc,
    List.take_append_drop, List.take_append_drop]

/-! ## Four bytes in two groups -/

theorem group_of_bytes (group : UInt16) :
    (group / 256).toUInt8.toUInt16 * 256 + group.toUInt8.toUInt16 = group := by
  have := group.toNat_lt
  rw [← UInt16.toNat_inj]
  simp
  omega

theorem groups_of_mapped? (h : a.mapped? = some v4) :
    a.groups = List.replicate 5 0 ++ 0xFFFF :: groupsOfIpv4 v4 := by
  rw [mapped?] at h
  split at h
  · next high low hgroups =>
    cases h
    rw [hgroups, groupsOfIpv4, group_of_bytes, group_of_bytes]
    rfl
  · cases h

/-- **The canonical form of an address writes the address.** -/
theorem spells_chars (a : Ipv6) : Spells a.chars a := by
  rw [chars]
  split
  · next v4 hv4 =>
    have hafter : WritesGroups true [['f', 'f', 'f', 'f'], v4.chars] (0xFFFF :: groupsOfIpv4 v4) :=
      .group (writesGroup_toDigits 0xFFFF) (.dotted rfl v4)
    -- The five zero groups in front are the gap, and nothing stands before it.
    have hspells := Spells.gap .nil hafter (Nat.succ_pos 4) (groups_of_mapped? hv4)
    simpa [List.intercalate_cons_cons, List.intercalate_singleton] using hspells
  · dsimp only
    split
    · next hlong =>
      have hspells := Spells.gap (writesGroups_toDigits false _) (writesGroups_toDigits true _)
        (by omega) (groups_run a.groups)
      simpa [joined] using hspells
    · exact .full (writesGroups_toDigits true a.groups)

theorem spells_text (a : Ipv6) : Spells a.text.toList a := by
  rw [text, String.toList_ofList]
  exact spells_chars a

/-- Each address has its own canonical form. -/
theorem chars_injective : Function.Injective chars := by
  intro a b h
  have hb := spells_chars b
  rw [← h] at hb
  exact (spells_chars a).unique hb

end Ipv6

/-! ## Targets -/

variable {host other : String} {port otherPort : UInt16} {a b : Ipv6}

theorem targetText_of_spells (h : Ipv6.Spells host.toList a) (port : UInt16) :
    targetText host port = s!"[{a.text}]:{port.toNat}" := by
  rw [targetText, IpAddress.parse?_eq_v6_iff.mpr h]

theorem targetText_of_other (h : ∀ a, ¬Ipv6.Spells host.toList a) (port : UInt16) :
    targetText host port = s!"{host}:{port.toNat}" := by
  rw [targetText]
  split
  · next address hparse => exact absurd (IpAddress.parse?_eq_v6_iff.mp hparse) (h address)
  · rfl

/-- What stands for the host in a target. -/
def shownHost (host : String) : List Char :=
  match IpAddress.parse? host with
  | some (.v6 address) => '[' :: address.chars ++ [']']
  | _ => host.toList

theorem shownHost_of_spells (h : Ipv6.Spells host.toList a) :
    shownHost host = '[' :: a.chars ++ [']'] := by
  rw [shownHost, IpAddress.parse?_eq_v6_iff.mpr h]

theorem toList_targetText (host : String) (port : UInt16) :
    (targetText host port).toList = shownHost host ++ ':' :: Nat.toDigits 10 port.toNat := by
  have hplain : (host ++ ":" ++ toString port.toNat).toList =
      host.toList ++ ':' :: Nat.toDigits 10 port.toNat := by simp
  rw [targetText, shownHost]
  cases IpAddress.parse? host with
  | none => exact hplain
  | some ip =>
    cases ip with
    | v4 address => exact hplain
    | v6 address =>
      show ("[" ++ address.text ++ "]:" ++ toString port.toNat).toList = _
      simp [Ipv6.text]

theorem toDigits_injective : Function.Injective (Nat.toDigits 10) := by
  intro m n h
  rw [← Nat.ofDigitChars_ten_toDigits (n := m), h, Nat.ofDigitChars_ten_toDigits]

/-- Read from its end, a text stops at its last colon. -/
theorem span_last_colon {after : List Char} (hafter : ':' ∉ after) (before : List Char) :
    (before ++ ':' :: after).reverse.span (· ≠ ':') = (after.reverse, ':' :: before.reverse) := by
  have hword : ∀ c ∈ after.reverse, decide (c ≠ ':') = true := by
    intro c hc
    rw [decide_eq_true_eq]
    rintro rfl
    exact hafter (List.mem_reverse.mp hc)
  rw [List.reverse_append, List.reverse_cons, List.append_assoc, List.singleton_append]
  exact Json.span_append hword (by simp)

/-- The port stands behind the last colon, so that two targets are the same only if both the ports
and what stands for the hosts are. -/
theorem targetText_inj (h : targetText host port = targetText other otherPort) :
    shownHost host = shownHost other ∧ port = otherPort := by
  have hcolon : ∀ n, ':' ∉ Nat.toDigits 10 n := notMem_toDigits (by decide)
  have htext := congrArg (fun text => text.toList.reverse.span (· ≠ ':')) h
  simp only [toList_targetText, span_last_colon (hcolon _), Prod.mk.injEq, List.cons.injEq,
    List.reverse_inj, true_and] at htext
  obtain ⟨hport, hhost⟩ := htext
  exact ⟨hhost, UInt16.toNat_inj.mp (toDigits_injective hport)⟩

/-- Targets of addresses with colons are the same only if the addresses are. -/
theorem address_of_targetText (ha : Ipv6.Spells host.toList a) (hb : Ipv6.Spells other.toList b)
    (h : targetText host port = targetText other otherPort) : a = b := by
  have hhost := (targetText_inj h).1
  rw [shownHost_of_spells ha, shownHost_of_spells hb] at hhost
  exact Ipv6.chars_injective (List.append_cancel_right (List.cons.inj hhost).2)

namespace Config

open Ipv6 (Spells)

/-- **The target of a configuration is canonical.** An address with colons is named by its
canonical form, in brackets: that form writes the same address, and it takes the place of the host
without a change to the target. Every other host is named as it is. So targets are the same for
different spellings of one address, but neither for two addresses nor for two ports. -/
theorem target_canonical (c d : Config) :
    (∀ a, Spells c.host.toList a →
      c.target = s!"[{a.text}]:{c.port.toNat}" ∧ Spells a.text.toList a ∧
      { c with host := a.text }.target = c.target) ∧
    ((∀ a, ¬Spells c.host.toList a) → c.target = s!"{c.host}:{c.port.toNat}") ∧
    (∀ a b, Spells c.host.toList a → Spells d.host.toList b →
      (c.target = d.target ↔ c.port = d.port ∧ a = b)) ∧
    (c.port ≠ d.port → c.target ≠ d.target) := by
  refine ⟨fun a ha => ?_, fun h => targetText_of_other h c.port, fun a b ha hb => ?_,
    fun hport htarget => hport (targetText_inj htarget).2⟩
  · have htarget := targetText_of_spells ha c.port
    exact ⟨htarget, a.spells_text, (targetText_of_spells a.spells_text c.port).trans htarget.symm⟩
  · constructor
    · intro htarget
      exact ⟨(targetText_inj htarget).2, address_of_targetText ha hb htarget⟩
    · rintro ⟨hport, rfl⟩
      rw [target, target, targetText_of_spells ha, targetText_of_spells hb, hport]

/-- Two spellings of the address that stands for one of four bytes. -/
theorem target_canonical_mapped :
    let c := { Config.standard with host := "0:0::0:FFFF:102:0304" }
    let d := { Config.standard with host := "::ffff:1.2.3.4" }
    let a : Ipv6 := ⟨[0, 0, 0, 0, 0, 0xFFFF, 0x102, 0x304], rfl⟩
    Spells c.host.toList a ∧ Spells d.host.toList a ∧
      c.target = "[::ffff:1.2.3.4]:8999" ∧ c.target = d.target := by
  intro c d a
  have hc : Spells c.host.toList a := by decide
  have hd : Spells d.host.toList a := by decide
  obtain ⟨hcanonical, -, hsame, -⟩ := target_canonical c d
  exact ⟨hc, hd, (hcanonical a hc).1.trans (by decide), (hsame a a hc hd).mpr ⟨rfl, rfl⟩⟩

end Config

end LinkProbe
