import LinkProbe.Proofs.Connection.Deeds

/-!
# The life of an open connection

* `Connection.EndedBy`: one of the deeds ends the connection.
* `Connection.Over`: what can still be done when it is over, which is nothing.
* `Connection.opened_until_ended`: a connection is open until the first deed that ends it, and over
  from then on.
-/

namespace LinkProbe.Connection

variable {c : Connection} {deed : Deed} {deeds : List Deed}

/-- One of the deeds, done one after the other, ends the connection. -/
def EndedBy (c : Connection) (deeds : List Deed) : Prop :=
  ∃ before deed after, deeds = before ++ deed :: after ∧ deed.ends (c.performAll before)

theorem not_endedBy_nil : ¬ c.EndedBy [] := by
  rintro ⟨before, deed, after, h, -⟩
  simp at h

theorem endedBy_cons :
    c.EndedBy (deed :: deeds) ↔ deed.ends c ∨ (c.perform deed).EndedBy deeds := by
  constructor
  · rintro ⟨before, other, after, hdeeds, hends⟩
    cases before with
    | nil => cases hdeeds; exact .inl hends
    | cons first before => cases hdeeds; exact .inr ⟨before, other, after, rfl, hends⟩
  · rintro (hends | ⟨before, other, after, rfl, hends⟩)
    · exact ⟨[], deed, deeds, rfl, hends⟩
    · exact ⟨deed :: before, other, after, rfl, hends⟩

/-! ## The state after many deeds -/

theorem state_performAll_closed (h : c.state = .closed) (deeds : List Deed) :
    (c.performAll deeds).state = .closed := by
  induction deeds generalizing c with
  | nil => exact h
  | cons deed deeds ih => exact ih (state_perform_closed h deed)

/-- The state follows from whether one of the deeds ended the connection. -/
theorem state_performAll (h : c.state = .opened) (deeds : List Deed) :
    (¬ c.EndedBy deeds → (c.performAll deeds).state = .opened) ∧
      (c.EndedBy deeds → (c.performAll deeds).state = .closed) := by
  induction deeds generalizing c with
  | nil => exact ⟨fun _ => h, fun hended => absurd hended not_endedBy_nil⟩
  | cons deed deeds ih =>
    have hstate := state_perform h deed
    rw [endedBy_cons]
    by_cases hends : deed.ends c
    · rw [if_pos hends] at hstate
      exact ⟨fun hnot => absurd (.inl hends) hnot, fun _ => state_performAll_closed hstate deeds⟩
    · rw [if_neg hends] at hstate
      obtain ⟨hopen, hclosed⟩ := ih hstate
      exact ⟨fun hnot => hopen fun hended => hnot (.inr hended),
        fun hended => hclosed (hended.resolve_left hends)⟩

/-! ## What is left of it -/

/-- The failure of a write when the connection is over. -/
def writeRefused : Fault := .write (.stated .notConnected "connection is closed")

/-- A connection that is over brings nothing and takes nothing. -/
structure Over (c : Connection) : Prop where
  state : c.state = .closed
  /-- Nothing that is done with it reaches the wire. -/
  contacts : ∀ deed, c.contacts deed = []
  read : ∀ buffer, c.read buffer = (.ended, c)
  drain : ∀ capacity, c.drain capacity = (.ended, #[], c)
  write : ∀ payload, c.write payload = (.error writeRefused, c)
  close : c.close = c
  /-- A sender with payloads left fails when the first of them is due. -/
  send : ∀ (sender : Sender) stats, 0 < sender.intervalMs → sender.isDone = false →
    sender.run c stats none = (.failed writeRefused, ⟨sender, c, stats, sender.intervalMs⟩)
  /-- A receiver writes down what its decoder still holds. -/
  receive : ∀ (receiver : Receiver) sink stats, receiver.run c sink stats =
    (match (Receiver.Desk.finish ⟨receiver.decoder, sink, stats⟩).1 with
      | .ok () => .ended
      | .error fault => .failed fault,
      (Receiver.Desk.finish ⟨receiver.decoder, sink, stats⟩).2,
      c.noteAll (Receiver.leftover ⟨receiver.decoder, sink, stats⟩))

theorem over_of_closed (h : c.state = .closed) : c.Over where
  state := h
  contacts := contacts_closed h
  read := read_closed h
  drain capacity := consume_closed h collector capacity #[]
  write := write_closed h
  close := close_closed h
  send _ stats _ hdone := Sender.run_closed h hdone stats
  receive receiver := receiver.run_closed h

/-- **A connection is open until the first deed that ends it, and over from then on**, in whatever
order things are done with it and whatever the peer does meanwhile. A receiver that fails on a chunk
does not end it. -/
theorem opened_until_ended (hopened : c.state = .opened) (deeds : List Deed) :
    (¬ c.EndedBy deeds → (c.performAll deeds).state = .opened ∧
      ∀ (receiver : Receiver) sink stats fault desk d,
        (c.performAll deeds).consume Receiver.consumer receiver.capacity
          ⟨receiver.decoder, sink, stats⟩ = (.failed fault, desk, d) →
        ((∃ bad, fault = .decode bad) ∨ ∃ source, fault = .output source) →
        receiver.run (c.performAll deeds) sink stats = (.failed fault, desk, d) ∧
          d.state = .opened) ∧
      (c.EndedBy deeds → (c.performAll deeds).Over) := by
  obtain ⟨hopen, hclosed⟩ := state_performAll hopened deeds
  refine ⟨fun hnot => ⟨hopen hnot, ?_⟩, fun hended => over_of_closed (hclosed hended)⟩
  intro receiver sink stats fault desk d hconsume hfault
  refine ⟨receiver.run_refused hconsume, state_consume_refused (hopen hnot) hconsume ?_⟩
  rintro source rfl
  rcases hfault with ⟨bad, h⟩ | ⟨source', h⟩ <;> cases h

/-- A byte that begins no character stops a strict receiver, and the connection is open until a read
finds that the peer has closed it. -/
theorem opened_until_ended_bad_byte : ∃ c : Connection, c.state = .opened ∧
    ((Receiver.new .strict 16).run c (.empty none) .zero).1 = .failed (.decode ⟨0, [0xFF]⟩) ∧
    (c.performAll [.receive (.new .strict 16) (.empty none) .zero]).state = .opened ∧
    (c.performAll [.receive (.new .strict 16) (.empty none) .zero, .read (.exact 16)]).Over := by
  let start : Receiver.Desk := ⟨.new .strict, .empty none, .zero⟩
  let c : Connection := ⟨⟨.v4 .loopback, 8999⟩, ⟨.v4 .loopback, 8999⟩, .opened,
    .plan [[0xFF]] (some .close), #[]⟩
  let d : Connection := { c with wire := (c.wire.read 16).2 }
  have hstops : Stops Receiver.consumer 16 c start (.failed (.decode ⟨0, [0xFF]⟩))
      (d.note (.received 1)) { start with stats := start.stats.recordChunk 1 } :=
    @Stops.refused _ Receiver.consumer 16 c d start _ [0xFF] _ rfl rfl
  obtain ⟨hstate, hrefused⟩ := (opened_until_ended (c := c) rfl []).1 not_endedBy_nil
  obtain ⟨hrun, hopen⟩ :=
    hrefused (.new .strict 16) (.empty none) .zero _ _ _ hstops.consume (.inl ⟨_, rfl⟩)
  have hperform : c.perform (.receive (.new .strict 16) (.empty none) .zero) =
      d.note (.received 1) := congrArg (fun result => result.2.2) hrun
  refine ⟨c, hstate, congrArg Prod.fst hrun, ?_, (opened_until_ended (c := c) rfl _).2
    ⟨[.receive (.new .strict 16) (.empty none) .zero], .read (.exact 16), [], rfl, ?_⟩⟩
  · rw [performAll, List.foldl_cons, hperform]
    exact hopen
  · rw [performAll, List.foldl_cons, hperform]
    rfl

end LinkProbe.Connection
