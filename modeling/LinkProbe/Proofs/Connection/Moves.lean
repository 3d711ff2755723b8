import LinkProbe.Proofs.Connection.Deeds

/-!
# What the log tells of the moves of a connection

* `movesOf`: the moves that a log tells of; `stateLines`: its lines about them.
* `Connection.Tells`: the log of a connection that was opened tells of its end when it is over,
  once, and of no other move since.
* `Connection.tells_perform`: whatever is done with the connection, its log goes on like that.
-/

namespace LinkProbe

/-! ## Moves in a log -/

/-- The move of a connection that the event tells of. -/
def Event.move? : Event → Option (State × State)
  | .moved before after => some (before, after)
  | _ => none

/-- The moves that a log tells of, in order. -/
def movesOf (log : Array Event) : List (State × State) := log.toList.filterMap Event.move?

@[simp] theorem movesOf_push (log : Array Event) (event : Event) :
    movesOf (log.push event) = movesOf log ++ event.move?.toList := by
  rw [movesOf, Array.toList_push, List.filterMap_append, movesOf]
  cases hmove : event.move? <;> simp [hmove]

/-- Whether the line is one of those about the state of a connection. -/
def LogLine.tellsState (line : LogLine) : Bool :=
  decide (line.level = .debug) && "Connection state: ".toList.isPrefixOf line.text.toList

/-- The lines of a log about the state of the connection, in order. -/
def stateLines (log : Array Event) : List LogLine :=
  (log.toList.map Event.line).filter LogLine.tellsState

/-- The line about a move. -/
def moveLine (move : State × State) : LogLine := (Event.moved move.1 move.2).line

theorem LogLine.tellsState_debug (text : String) :
    LogLine.tellsState ⟨.debug, text⟩ = true ↔ "Connection state: ".toList <+: text.toList := by
  simp [tellsState]

/-- No other event is told of in such a line. -/
theorem Event.tellsState_line (event : Event) : event.line.tellsState = event.move?.isSome := by
  have other (text : String) (h : ¬ "Connection state: ".toList <+: text.toList) :
      LogLine.tellsState ⟨.debug, text⟩ = false :=
    Bool.eq_false_iff.mpr (mt (LogLine.tellsState_debug text).mp h)
  cases event with
  | moved before after =>
    refine (LogLine.tellsState_debug _).mpr ?_
    show _ <+: ("Connection state: " ++ before.name ++ " -> " ++ after.name).toList
    simp
  | trying address => exact other ("Connecting to " ++ address.text ++ "...") (by simp)
  | attemptFailed address failure =>
    exact other ("Connect to " ++ address.text ++ " failed: " ++ failure.message) (by simp)
  | sent payload => exact other ("Sent " ++ Text.quoted payload) (by simp)
  | senderStopped next =>
    exact other ("Sender stopped before payload " ++ toString next) (by simp)
  | received bytes => exact other ("Received chunk of " ++ toString bytes ++ " bytes") (by simp)
  | unfinished bytes =>
    exact other ("Peer closed with " ++ toString bytes ++ " bytes of an unfinished character")
      (by simp)
  | connecting _ | connected _ _ | peerClosed _ | closed _ | sending _ _ | logging _ | interrupted
  | timeOver | stopping | ended _ => rfl

theorem stateLines_eq (log : Array Event) : stateLines log = (movesOf log).map moveLine := by
  rw [stateLines, movesOf]
  induction log.toList with
  | nil => rfl
  | cons event events ih =>
    have htells := event.tellsState_line
    rw [List.map_cons]
    cases event with
    | moved before after =>
      rw [List.filter_cons_of_pos htells, ih]
      rfl
    | _ =>
      rw [List.filter_cons_of_neg (by rw [htells]; exact nofun), ih]
      rfl

namespace Connection

/-! ## Using the connection -/

/-- The connection is open or over, and since these moves its log tells of its end only, if it is
over. -/
structure Tells (c : Connection) (before : List (State × State)) : Prop where
  usable : c.state = .opened ∨ c.state = .closed
  moves : movesOf c.log = before ++ if c.state = .closed then [(.opened, .closed)] else []

variable {σ : Type} {consumer : Consumer σ} {capacity : Nat} {c d : Connection} {s t : σ}
  {chunks : List (List UInt8)} {flow : Flow} {before : List (State × State)}

namespace Tells

theorem note (h : c.Tells before) {event : Event} (hquiet : event.move? = none) :
    (c.note event).Tells before := by
  refine ⟨h.usable, ?_⟩
  show movesOf (c.log.push event) = _
  rw [movesOf_push, hquiet, h.moves]
  exact List.append_nil _

theorem noteAll (h : c.Tells before) {events : List Event}
    (hquiet : ∀ event ∈ events, event.move? = none) : (c.noteAll events).Tells before := by
  induction events generalizing c with
  | nil => exact h
  | cons event events ih =>
    exact ih (h.note (hquiet event List.mem_cons_self))
      fun other hother => hquiet other (List.mem_cons_of_mem event hother)

theorem onWire (h : c.Tells before) (wire : Wire) : ({ c with wire } : Connection).Tells before :=
  ⟨h.usable, h.moves⟩

/-- The one move that is left for the connection. -/
theorem markClosed (h : c.Tells before) : c.markClosed.Tells before := by
  rcases h.usable with hopened | hclosed
  · have hmoves := h.moves
    rw [if_neg (by rw [hopened]; exact nofun), List.append_nil] at hmoves
    rw [markClosed_opened hopened]
    refine ⟨.inr rfl, ?_⟩
    show movesOf (c.log.push (.moved .opened .closed)) = _
    rw [movesOf_push, hmoves]
    rfl
  · have hsame : c.markClosed = c := by simp [Connection.markClosed, hclosed, State.allows]
    rwa [hsame]

theorem read (h : c.Tells before) (buffer : Buffer) : (c.read buffer).2.Tells before := by
  rcases c.read_cases buffer with ⟨-, hread⟩ | ⟨-, ⟨failure, -, -, hread⟩ | ⟨-, hread⟩ |
    ⟨-, hread⟩ | ⟨bytes, wire, -, hread⟩⟩ <;> rw [hread]
  · exact h
  · exact h.markClosed
  · exact (h.note rfl).markClosed
  · exact h
  · exact h.onWire wire

theorem write (h : c.Tells before) (payload : List UInt8) : (c.write payload).2.Tells before := by
  rw [Connection.write]
  split
  · exact h
  · split
    · exact h.onWire _
    · exact (h.onWire _).markClosed

theorem close (h : c.Tells before) : c.close.Tells before := by
  rw [Connection.close]
  split
  · exact h
  · exact ((h.onWire _).markClosed).note rfl

theorem takes (h : c.Tells before)
    (hquiet : ∀ bytes, ∀ event ∈ consumer.notes bytes, event.move? = none)
    (htakes : Takes consumer capacity c s chunks d t) : d.Tells before := by
  induction htakes with
  | none => exact h
  | @chunk c d e s t u bytes chunks hread _ _ ih =>
    have hnext := h.read capacity
    rw [hread] at hnext
    exact ih (hnext.noteAll (hquiet bytes))

theorem stops (h : c.Tells before)
    (hquiet : ∀ bytes, ∀ event ∈ consumer.notes bytes, event.move? = none)
    (hstops : Stops consumer capacity c s flow d t) : d.Tells before := by
  have hlast := h.read capacity
  cases hstops with
  | ended hread | failed hread | waiting hread =>
    rw [hread] at hlast
    exact hlast
  | @refused _ _ _ bytes _ hread _ =>
    rw [hread] at hlast
    exact hlast.noteAll (hquiet bytes)

/-- Handing out chunks to a consumer that has other things to tell. -/
theorem consume (h : c.Tells before)
    (hquiet : ∀ bytes, ∀ event ∈ consumer.notes bytes, event.move? = none) (capacity : Nat)
    (s : σ) : (c.consume consumer capacity s).2.2.Tells before := by
  obtain ⟨chunks, d, t, htakes, hstops⟩ :=
    consume_iff.mp (rfl : c.consume consumer capacity s = _)
  exact (h.takes hquiet htakes).stops hquiet hstops

theorem works {stopAt : Option Nat} {r after : Sender.Run} {met : List Contact} {halt : Halt}
    (h : r.connection.Tells before) (hworks : Sender.Works stopAt r met halt after) :
    after.connection.Tells before := by
  induction hworks with
  | completed _ | stopped _ _ _ | endless => exact h
  | @failed r _ _ _ _ hwrite =>
    have hlast := h.write (bytesOf (payload r.sender.next))
    rwa [hwrite] at hlast
  | @tick r _ _ _ _ _ _ _ hwrite _ ih =>
    have hnext := h.write (bytesOf (payload r.sender.next))
    rw [hwrite] at hnext
    exact ih (hnext.note rfl)

end Tells

/-- **Whatever is done with a connection, its log tells of its end when it is over**, once, and of
no other move. -/
theorem tells_perform (h : c.Tells before) (deed : Deed) : (c.perform deed).Tells before := by
  cases deed with
  | read buffer => exact h.read buffer
  | write payload => exact h.write payload
  | close => exact h.close
  | drain capacity => exact h.consume (fun _ _ hmem => absurd hmem List.not_mem_nil) capacity #[]
  | send sender stats stopAt => exact h.works (sender.works_run c stats stopAt)
  | receive receiver sink stats =>
    obtain ⟨flow, desk, d, hconsume, hrun⟩ := receiver.run_cases c sink stats
    have hread : (c.consume Receiver.consumer receiver.capacity
        ⟨receiver.decoder, sink, stats⟩).2.2.Tells before :=
      h.consume (by simp [Receiver.consumer, Event.move?]) _ _
    rw [hconsume] at hread
    rw [perform]
    rcases hrun with ⟨-, hrun⟩ | ⟨-, hrun⟩ <;> rw [hrun]
    · refine hread.noteAll fun event hevent => ?_
      unfold Receiver.leftover at hevent
      split at hevent
      · cases hevent
      · rw [List.mem_singleton.mp hevent]
        rfl
    · exact hread
  | peer act => exact h.onWire _

end Connection

end LinkProbe
