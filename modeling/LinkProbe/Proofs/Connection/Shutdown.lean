import LinkProbe.Proofs.Connection.Delivery

/-!
# Telling the peer that no more will come

Closing a connection that is open shuts the sending side of the probe. Closing one that is over
leaves it as it is. A connection is over as well when a read has found that the peer has ended, and
then its sending side was not shut and never is.

* `Wire.Exchange.shut`, `Wire.Exchange.sound`: reads, writes and what the peer does shut nothing,
  and what is broken stays so.
* `Connection.Standing`: open, closed by the probe, or over because the peer had ended.
* `Connection.standing_perform`, `Connection.standing_performAll`: every deed leads from one of
  these to one of these.
* `Connection.shut_unless_ended`: when the peer is told that no more will come.
* `Connection.ended_never_shut`: a peer that is not.
-/

namespace LinkProbe

namespace Wire

variable {w v : Wire} {met : List Contact} {taken : List UInt8}

/-! ## The sending side -/

@[simp] theorem shut_conclude (w : Wire) (ending : Ending) : (w.conclude ending).shut = w.shut := by
  cases ending <;> rfl

@[simp] theorem shut_settle (w : Wire) : w.settle.shut = w.shut := by
  rcases w.settle_cases with h | ⟨-, -, -, ⟨part, parts, h⟩ | ⟨ending, h⟩ | h⟩ <;> simp [h]

theorem shut_act (act : Act) (w : Wire) : (act.apply w).shut = w.shut := by
  cases act with
  | send bytes => rw [Act.apply, send]; split <;> rfl
  | conclude ending => exact shut_conclude w ending
  | extend parts ending => rw [Act.apply, extend, shut_settle]
  | take | breakOff _ | limit _ => rfl

theorem Exchange.shut (h : w.Exchange met taken v) : v.shut = w.shut := by
  induction h with
  | start => rfl
  | @read v _ _ _ capacity ih =>
    rcases v.read_cases capacity with ⟨_, -, hread⟩ | ⟨-, -, -, hread⟩ | ⟨-, -, -, hread⟩ |
      ⟨-, -, hread⟩ <;> simpa [hread] using ih
  | @write v _ _ _ payload ih =>
    rcases v.write_cases payload with ⟨_, hwrite⟩ | ⟨_, hwrite⟩ <;> simpa [hwrite] using ih
  | act _ act ih => rw [shut_act, ih]

/-! ## A wire that is sound -/

theorem broken_of_settle (h : w.settle.broken = none) : w.broken = none := by
  rcases w.settle_cases with hsame | ⟨hbroken, -⟩
  · rwa [hsame] at h
  · exact hbroken

theorem broken_of_act {act : Act} (h : (act.apply w).broken = none) : w.broken = none := by
  cases act with
  | send bytes => rw [Act.apply, send] at h; split at h <;> exact h
  | conclude ending =>
    cases ending with
    | close => exact h
    | reset => cases h
  | extend parts ending =>
    exact @broken_of_settle { w with parts := w.parts ++ parts, ending := ending.or w.ending } h
  | take | limit _ => exact h
  | breakOff failure => cases h

/-- A wire that is sound was so all the time, and no read has failed. -/
theorem Exchange.sound (h : w.Exchange met taken v) (hsound : v.broken = none) :
    w.broken = none ∧ ∀ failure, .read (.failed failure) ∉ met := by
  induction h with
  | start => exact ⟨hsound, fun _ => List.not_mem_nil⟩
  | @read v met _ _ capacity ih =>
    -- A read that fails would have left the wire broken as it was.
    rcases v.read_cases capacity with ⟨failure, hbroken, hread⟩ | ⟨hbroken, -, -, hread⟩ |
      ⟨hbroken, -, -, hread⟩ | ⟨hbroken, -, hread⟩
    · rw [hread, hbroken] at hsound
      cases hsound
    all_goals
      obtain ⟨hw, hmet⟩ := ih hbroken
      exact ⟨hw, fun failure => by simp [hread, hmet failure]⟩
  | @write v met _ _ payload ih =>
    have hv : v.broken = none := by
      rcases v.write_cases payload with ⟨_, hwrite⟩ | ⟨_, hwrite⟩ <;> rwa [hwrite] at hsound
    obtain ⟨hw, hmet⟩ := ih hv
    exact ⟨hw, fun failure => by simp [hmet failure]⟩
  | act _ act ih => exact ih (broken_of_act hsound)

end Wire

namespace Connection

variable {c : Connection} {met : List Contact} {deed : Deed} {deeds : List Deed}

/-! ## How a connection stands -/

/-- How it stands with a connection when no read and no write has failed. -/
inductive Standing (met : List Contact) (c : Connection) : Prop
  | opened (state : c.state = .opened) (unshut : c.wire.shut = false)
      (going : .read .ended ∉ met)
  /-- The probe has closed it. -/
  | closed (state : c.state = .closed) (shut : c.wire.shut = true) (going : .read .ended ∉ met)
  /-- A read has found that the peer has ended. -/
  | ended (state : c.state = .closed) (unshut : c.wire.shut = false) (found : .read .ended ∈ met)

/-- When nothing fails, what ends a connection is the end of the peer. -/
theorem any_ends_iff (hread : ∀ failure, .read (.failed failure) ∉ met)
    (hwrite : ∀ payload failure, .write payload (.error failure) ∉ met) :
    met.any Contact.ends = true ↔ .read .ended ∈ met := by
  rw [List.any_eq_true]
  constructor
  · rintro ⟨contact, hmem, hends⟩
    match contact with
    | .read .ended => exact hmem
    | .read (.failed failure) => exact absurd hmem (hread failure)
    | .write payload (.error failure) => exact absurd hmem (hwrite payload failure)
    | .read (.data _) | .read .silent | .write _ (.ok _) => cases hends
  · exact fun hmem => ⟨_, hmem, rfl⟩

theorem ends_eq (hdeed : deed ≠ .close) : deed.ends c = (c.contacts deed).any Contact.ends := by
  cases deed with
  | close => exact absurd rfl hdeed
  | _ => rfl

theorem sound_of_perform (h : (c.perform deed).wire.broken = none) : c.wire.broken = none := by
  by_cases hdeed : deed = .close
  · rw [hdeed, perform, wire_close] at h
    split at h <;> exact h
  · exact ((c.exchange_perform hdeed).sound h).1

theorem sound_of_performAll (h : (c.performAll deeds).wire.broken = none) :
    c.wire.broken = none := by
  induction deeds generalizing c with
  | nil => exact h
  | cons deed deeds ih => exact sound_of_perform (ih h)

/-- One deed. -/
theorem standing_perform (h : Standing met c) (hsound : (c.perform deed).wire.broken = none)
    (hwrite : ∀ payload failure, .write payload (.error failure) ∉ c.contacts deed) :
    Standing (met ++ c.contacts deed) (c.perform deed) := by
  by_cases hdeed : deed = .close
  · subst hdeed
    rw [contacts, List.append_nil, perform]
    cases h with
    | opened hstate _ hgoing =>
      refine .closed (state_close hstate) ?_ hgoing
      rw [wire_close, if_neg (by rw [hstate]; decide)]
      rfl
    | closed hstate hshut hgoing => rw [close_closed hstate]; exact .closed hstate hshut hgoing
    | ended hstate hunshut hfound => rw [close_closed hstate]; exact .ended hstate hunshut hfound
  · have hexchange := c.exchange_perform hdeed
    have hshut := hexchange.shut
    cases h with
    | opened hstate hunshut hgoing =>
      have hends := any_ends_iff (hexchange.sound hsound).2 hwrite
      have hafter := state_perform hstate deed
      rw [ends_eq hdeed] at hafter
      by_cases hfound : .read .ended ∈ c.contacts deed
      · rw [if_pos (hends.mpr hfound)] at hafter
        exact .ended hafter (hshut.trans hunshut) (List.mem_append_right _ hfound)
      · rw [if_neg (mt hends.mp hfound)] at hafter
        exact .opened hafter (hshut.trans hunshut) (by simp [hgoing, hfound])
    | closed hstate hs hgoing =>
      rw [contacts_closed hstate, List.append_nil]
      exact .closed (state_perform_closed hstate deed) (hshut.trans hs) hgoing
    | ended hstate hunshut hfound =>
      rw [contacts_closed hstate, List.append_nil]
      exact .ended (state_perform_closed hstate deed) (hshut.trans hunshut) hfound

/-- Any number of deeds. -/
theorem standing_performAll (h : Standing met c)
    (hsound : (c.performAll deeds).wire.broken = none)
    (hwrite : ∀ payload failure, .write payload (.error failure) ∉ c.gather contacts deeds) :
    Standing (met ++ c.gather contacts deeds) (c.performAll deeds) := by
  induction deeds generalizing c met with
  | nil => rwa [gather, List.append_nil]
  | cons deed deeds ih =>
    rw [gather] at hwrite ⊢
    rw [← List.append_assoc]
    refine ih (standing_perform h (sound_of_performAll hsound) ?_) hsound ?_
    · exact fun payload failure => mt (List.mem_append_left _) (hwrite payload failure)
    · exact fun payload failure => mt (List.mem_append_right _) (hwrite payload failure)

/-! ## Closing it -/

theorem performAll_append (c : Connection) (first second : List Deed) :
    c.performAll (first ++ second) = (c.performAll first).performAll second :=
  List.foldl_append

theorem gather_append {α : Type} (c : Connection) (brings : Connection → Deed → List α)
    (first second : List Deed) : c.gather brings (first ++ second) =
      c.gather brings first ++ (c.performAll first).gather brings second := by
  induction first generalizing c with
  | nil => rfl
  | cons deed first ih =>
    rw [List.cons_append, gather, gather, ih, List.append_assoc]
    rfl

/-- Nothing shuts the sending side of a connection that is over, and nothing is written. -/
theorem performAll_over (h : c.state = .closed) (deeds : List Deed) :
    (c.performAll deeds).wire.shut = c.wire.shut ∧ c.gather contacts deeds = [] := by
  induction deeds generalizing c with
  | nil => exact ⟨rfl, rfl⟩
  | cons deed deeds ih =>
    have hshut : (c.perform deed).wire.shut = c.wire.shut := by
      by_cases hdeed : deed = .close
      · rw [hdeed, perform, close_closed h]
      · exact (c.exchange_perform hdeed).shut
    obtain ⟨hrest, hmet⟩ := ih (state_perform_closed h deed)
    exact ⟨hrest.trans hshut, by rw [gather, contacts_closed h, hmet, List.append_nil]⟩

theorem Standing.close (h : Standing met c) :
    c.close.state = .closed ∧ (c.close.wire.shut = true ↔ .read .ended ∉ met) ∧
      (.read .ended ∈ met → c.close = c) := by
  cases h with
  | opened hstate _ hgoing =>
    refine ⟨state_close hstate, iff_of_true ?_ hgoing, fun hfound => absurd hfound hgoing⟩
    rw [wire_close, if_neg (by rw [hstate]; decide)]
    rfl
  | closed hstate hshut hgoing =>
    rw [close_closed hstate]
    exact ⟨hstate, iff_of_true hshut hgoing, fun _ => rfl⟩
  | ended hstate hunshut hfound =>
    rw [close_closed hstate]
    exact ⟨hstate, iff_of_false (by rw [hunshut]; decide) (not_not_intro hfound), fun _ => rfl⟩

/-- **Closing a connection tells the peer that no more will come, unless a read has found that the
peer has ended.** This holds after any deeds in which the wire has stayed sound and no write has
failed. Whenever the peer looks from then on, it has taken or can take all that was written, and
behind that it finds the end, or it does not. A second close changes nothing, and neither does the
first one if a read has found the end of the peer. -/
theorem shut_unless_ended {parts : List (List UInt8)} {ending : Option Ending}
    (hopened : c.state = .opened) (hnew : c.wire = .plan parts ending) (deeds : List Deed)
    (hsound : (c.performAll deeds).wire.broken = none)
    (hwrite : ∀ payload failure, .write payload (.error failure) ∉ c.gather contacts deeds) :
    let d := (c.performAll deeds).close
    d.state = .closed ∧ d.close = d ∧
      (.read .ended ∈ c.gather contacts deeds → d = c.performAll deeds) ∧
      ∀ more : List Deed,
        c.gather taking (deeds ++ .close :: more) ++ (d.performAll more).wire.take.1 =
          (c.gather written deeds).flatten ∧
        ((d.performAll more).wire.take.2.1 = true ↔ .read .ended ∉ c.gather contacts deeds) := by
  intro d
  have hstart : Standing [] c :=
    .opened hopened (by rw [hnew, Wire.plan, Wire.shut_settle]) List.not_mem_nil
  obtain ⟨hstate, hshut, hleft⟩ := (standing_performAll hstart hsound hwrite).close
  refine ⟨hstate, close_closed hstate, hleft, fun more => ?_⟩
  have hafter : c.performAll (deeds ++ .close :: more) = d.performAll more :=
    performAll_append c deeds (.close :: more)
  obtain ⟨hsame, hnone⟩ := performAll_over (c := d) hstate more
  have hwritten : c.gather contacts (deeds ++ .close :: more) = c.gather contacts deeds := by
    rw [gather_append]
    show _ ++ ([] ++ d.gather contacts more) = _
    rw [hnone, List.append_nil, List.append_nil]
  refine ⟨?_, ?_⟩
  · have haccounts := accounts_performAll (c := c) (by rw [hnew]; exact Wire.accounts_plan _ _)
      (deeds ++ .close :: more)
    rw [List.nil_append, List.nil_append, hwritten, hafter] at haccounts
    rw [gather_written]
    exact haccounts.outbound.take.2
  · show (d.performAll more).wire.shut = true ↔ _
    rw [hsame]
    exact hshut

/-- The peer has ended as well, but the probe has not read that far when it closes the connection:
the peer finds the end behind the payload that was written. -/
theorem shut_unless_ended_unread : ∃ (c : Connection) (deeds : List Deed), c.state = .opened ∧
    deeds = [.peer (.send [0x68, 0x69]), .read (.exact 1), .write [0x6F], .peer (.conclude .close)] ∧
    (c.performAll deeds).wire.broken = none ∧ (c.performAll deeds).close.close =
      (c.performAll deeds).close ∧
    (c.performAll deeds).close.wire.take.1 = [0x6F] ∧
    (c.performAll deeds).close.wire.take.2.1 = true := by
  let c : Connection := ⟨⟨.v4 .loopback, 8999⟩, ⟨.v4 .loopback, 8999⟩, .opened, .plan [] none, #[]⟩
  let deeds : List Deed :=
    [.peer (.send [0x68, 0x69]), .read (.exact 1), .write [0x6F], .peer (.conclude .close)]
  have hmet : c.gather contacts deeds = [.read (.data [0x68]), .write [0x6F] (.ok 1)] := rfl
  obtain ⟨-, hagain, -, hlater⟩ :=
    @shut_unless_ended c [] none rfl rfl deeds rfl (by simp [hmet])
  obtain ⟨hwritten, hshut⟩ := hlater []
  exact ⟨c, deeds, rfl, rfl, rfl, hagain, hwritten, hshut.mpr (by simp [hmet])⟩

/-- A peer that has ended first, and whose end was read before the probe closed the connection: it
has nothing to read, but is not told that no more will come. -/
theorem ended_never_shut : ∃ (c : Connection) (deeds : List Deed), c.state = .opened ∧
    c.wire = .plan [] none ∧ deeds = [.peer (.conclude .close), .read (.exact 16)] ∧
    (c.performAll deeds).wire.broken = none ∧ c.gather contacts deeds = [.read .ended] ∧
    (c.performAll deeds).close.state = .closed ∧
    (c.performAll deeds).close.wire.take.1 = [] ∧
    (c.performAll deeds).close.wire.take.2.1 = false :=
  ⟨⟨⟨.v4 .loopback, 8999⟩, ⟨.v4 .loopback, 8999⟩, .opened, .plan [] none, #[]⟩,
    [.peer (.conclude .close), .read (.exact 16)], rfl, rfl, rfl, rfl, rfl, rfl, rfl, rfl⟩

end Connection

end LinkProbe
