import LinkProbe.Proofs.Decoder.Runs
import LinkProbe.Proofs.Wire.Plan
import LinkProbe.Receiver

/-!
# Runs of a receiver whose sink takes everything

* `Sink.line`: the pieces in which a line is offered.
* `linesOf`: the texts that make lines.
* `Receiver.Desk.after`: the desk after chunks whose texts were written down.
* `Receiver.Desk.take_unlimited`: one chunk; only a bad piece ends the work.
* `Receiver.desk_of_takes`: chunk after chunk.
* `Receiver.consume_follows`: all that a peer sends that keeps to its plan.
* `Receiver.run_close`: all that one sends that then closes the connection.
-/

namespace LinkProbe

open Decoder (Replies joined)

namespace Sink

/-- The pieces in which a line is offered; an empty text is none. -/
def line (text : String) : List String := if text = "" then [] else [text, "\n"]

theorem put_unlimited {s : Sink} (h : s.room = none) (piece : String) :
    s.put piece = (.ok (), ⟨s.accepted.push piece, none⟩) := by
  rw [put_ok (by rw [h]; exact nofun), h, Option.map_none]

theorem putLine_unlimited {s : Sink} (h : s.room = none) (text : String) :
    s.putLine text = (.ok (), ⟨s.accepted ++ (line text).toArray, none⟩) := by
  by_cases htext : text = ""
  · simp [putLine, line, htext, ← h]
  · have hempty : text.isEmpty = false := by simpa using htext
    simp only [putLine, hempty, put_unlimited h, line, htext]
    rw [put_unlimited rfl]
    simp [← Array.toList_inj]

end Sink

/-! ## What is on the lines -/

/-- The texts that make lines. -/
def linesOf (decoded : List Decoded) : List String :=
  (decoded.map Decoded.text).filter (· ≠ "")

theorem linesOf_append (first second : List Decoded) :
    linesOf (first ++ second) = linesOf first ++ linesOf second := by
  rw [linesOf, List.map_append, List.filter_append, linesOf, linesOf]

theorem join_linesOf (decoded : List Decoded) :
    .join (linesOf decoded) = (joined decoded).text := by
  induction decoded with
  | nil => rfl
  | cons d decoded ih =>
    by_cases htext : d.text = "" <;> simp_all [linesOf, joined, String.join_cons]

theorem join_flatMap_line (decoded : List Decoded) :
    String.join (decoded.flatMap fun d => Sink.line d.text) =
      .join ((linesOf decoded).map (· ++ "\n")) := by
  induction decoded with
  | nil => rfl
  | cons d decoded ih =>
    by_cases htext : d.text = "" <;>
      simp_all [linesOf, Sink.line, String.join_cons, String.append_assoc]

namespace Receiver

variable {capacity : Nat} {c d : Connection} {desk desk' : Desk} {chunks : List (List UInt8)}

/-- The desk after chunks whose texts were written down on lines of their own. -/
def Desk.after (d : Desk) (chunks : List (List UInt8)) (replies : Replies) : Desk where
  decoder := replies.decoder
  sink := { d.sink with
    accepted := d.sink.accepted ++
      (replies.decoded.flatMap fun decoded => Sink.line decoded.text).toArray }
  stats := { d.stats with
    chunksReceived := d.stats.chunksReceived + chunks.length
    bytesReceived := d.stats.bytesReceived + chunks.flatten.length
    replacements := d.stats.replacements + (joined replies.decoded).replacements }

theorem Desk.after_nil (d : Desk) : d.after [] ⟨[], none, d.decoder⟩ = d := by
  simp [after, joined]

/-- Chunks that are written down in two goes. -/
theorem Desk.after_after (d : Desk) (first second : List (List UInt8)) (r s : Replies) :
    (d.after first r).after second s =
      d.after (first ++ second) { s with decoded := r.decoded ++ s.decoded } := by
  simp only [after, Decoder.joined_append, List.flatMap_append, List.flatten_append,
    List.length_append, Array.append_assoc, ← List.append_toArray, Nat.add_assoc]

theorem Desk.put_unlimited {d : Desk} (h : d.sink.room = none) (decoded : Decoded) :
    d.put decoded = (.ok (), d.after [] ⟨[decoded], none, d.decoder⟩) := by
  rw [put, Sink.putLine_unlimited h]
  simp [after, joined, Stats.recordReplacements, h]

/-- Only a bad piece ends the work of a receiver whose sink takes everything, and the sink does not
take the text before it. -/
theorem Desk.take_unlimited {d : Desk} (h : d.sink.room = none) (chunk : List UInt8) :
    (∃ bad decoder, d.decoder.feed chunk = (.error bad, decoder) ∧
      d.take chunk =
        (.error (.decode bad), { d with decoder, stats := d.stats.recordChunk chunk.length })) ∨
    ∃ decoded decoder, d.decoder.feed chunk = (.ok decoded, decoder) ∧
      d.take chunk = (.ok (), d.after [chunk] ⟨[decoded], none, decoder⟩) := by
  unfold take
  match hfeed : d.decoder.feed chunk with
  | (.error bad, decoder) => exact .inl ⟨bad, decoder, rfl, rfl⟩
  | (.ok decoded, decoder) =>
    refine .inr ⟨decoded, decoder, rfl, ?_⟩
    simp only
    rw [put_unlimited (by exact h)]
    simp [after, Stats.recordChunk]

theorem Desk.finish_unlimited {d : Desk} (h : d.sink.room = none) :
    (∃ bad decoder, d.decoder.finish = (.error bad, decoder) ∧
      d.finish = (.error (.decode bad), { d with decoder })) ∨
    ∃ decoded decoder, d.decoder.finish = (.ok decoded, decoder) ∧
      d.finish = (.ok (), d.after [] ⟨[decoded], none, decoder⟩) := by
  unfold finish
  match hfinish : d.decoder.finish with
  | (.error bad, decoder) => exact .inl ⟨bad, decoder, rfl, rfl⟩
  | (.ok decoded, decoder) => exact .inr ⟨decoded, decoder, rfl, put_unlimited (by exact h) _⟩

/-- Chunks that were taken have been decoded without a failure and written down. -/
theorem desk_of_takes (h : c.Takes consumer capacity desk chunks d desk')
    (hroom : desk.sink.room = none) :
    (desk.decoder.feedAll chunks).failure = none ∧
      desk' = desk.after chunks (desk.decoder.feedAll chunks) := by
  induction h with
  | none => exact ⟨rfl, (Desk.after_nil _).symm⟩
  | @chunk c d e desk t u bytes chunks hread hstep _ ih =>
    rcases desk.take_unlimited hroom bytes with ⟨bad, _, -, hbad⟩ | ⟨decoded, decoder, hfeed, htake⟩
    · cases hbad.symm.trans hstep
    · cases htake.symm.trans hstep
      obtain ⟨hfailure, rfl⟩ := ih hroom
      simp only [Decoder.feedAll, hfeed]
      exact ⟨hfailure, Desk.after_after _ _ _ _ _⟩

/-- **All that a peer sends is taken and written down**, up to the first chunk that cannot be
decoded, when the sink takes everything. If there is none, the run comes to what the peer does at
the end. -/
theorem consume_follows {mode : DecodeMode} {sink : Sink} {stats : Stats} {ending : Option Ending}
    (hroom : sink.room = none) (hstate : c.state = .opened) (h : c.wire.Follows ending) :
    let start : Desk := ⟨.new mode, sink, stats⟩
    let fed := (Decoder.new mode).feedAll (c.wire.pieces capacity)
    (∃ bad desk e, fed.failure = some bad ∧
      c.consume consumer capacity start = (.failed (.decode bad), desk, e) ∧
      desk.sink = (start.after (c.wire.pieces capacity) fed).sink) ∨
    ∃ e, fed.failure = none ∧
      c.consume consumer capacity start =
        (Connection.lastFlow ending, start.after (c.wire.pieces capacity) fed, e) ∧
      e.state = if ending = none then .opened else .closed := by
  intro start fed
  rcases hconsume : c.consume consumer capacity start with ⟨flow, desk, e⟩
  obtain ⟨chunks, d, before, htakes, hstops⟩ := Connection.consume_iff.mp hconsume
  obtain ⟨htaken, hbefore⟩ := desk_of_takes htakes hroom
  obtain ⟨hfollows, hpieces⟩ := htakes.follows hstate h
  have hroom' : before.sink.room = none := by
    rw [hbefore]
    exact hroom
  rcases hstops.follows (htakes.state.trans hstate) hfollows with ⟨hnone, rfl, rfl, hend⟩ |
    ⟨bytes, rest, fault, hnext, hstep, rfl⟩
  · -- All chunks were taken.
    rw [hnone, List.append_nil] at hpieces
    subst hpieces
    exact .inr ⟨e, htaken, by rw [hbefore], hend⟩
  · -- A chunk was refused, which only its bytes can be the reason for.
    rcases before.take_unlimited hroom' bytes with ⟨bad, decoder, hfeed, htake⟩ |
      ⟨decoded, decoder, -, htake⟩
    · have hdecoder : before.decoder = ((Decoder.new mode).feedAll chunks).decoder := by
        rw [hbefore, Desk.after]
      rw [hdecoder] at hfeed
      have hfed : fed = ⟨((Decoder.new mode).feedAll chunks).decoded, some bad, decoder⟩ := by
        rw [← Decoder.feedAll_of_error htaken hfeed rest, ← hnext, ← hpieces]
      obtain ⟨rfl, hsink⟩ : fault = .decode bad ∧ desk.sink = before.sink := by
        cases htake.symm.trans hstep
        exact ⟨rfl, rfl⟩
      refine .inl ⟨bad, desk, e, by rw [hfed], rfl, ?_⟩
      rw [hsink, hbefore, hfed]
      rfl
    · cases hstep.symm.trans htake

/-- **All that a peer sends that then closes the connection is written down**, up to the first call
of the decoder that fails, by a receiver whose sink takes everything. -/
theorem run_close {mode : DecodeMode} {sink : Sink} {stats : Stats} (hroom : sink.room = none)
    (hstate : c.state = .opened) (h : c.wire.Follows (some .close)) :
    let start : Desk := ⟨.new mode, sink, stats⟩
    let replies := (Decoder.new mode).decodeAll (c.wire.pieces capacity)
    ∃ desk e, (new mode capacity).run c sink stats =
        (match replies.failure with
          | none => .ended
          | some bad => .failed (.decode bad), desk, e) ∧
      desk.sink = (start.after (c.wire.pieces capacity) replies).sink ∧
      (replies.failure = none →
        desk = start.after (c.wire.pieces capacity) replies ∧ e.state = .closed) := by
  intro start replies
  rcases @consume_follows capacity c mode sink stats _ hroom hstate h with
    ⟨bad, desk, e, hfailure, hconsume, hsink⟩ | ⟨e, hfailure, hconsume, hclosed⟩
  · have hall : replies = (Decoder.new mode).feedAll (c.wire.pieces capacity) := by
      simp only [replies, Decoder.decodeAll, hfailure]
    rw [hall, hfailure]
    exact ⟨desk, e, by rw [run, new, hconsume]; rfl, hsink, fun hnone => by cases hnone⟩
  · -- All chunks were taken, so what is left is the end.
    let desk := start.after (c.wire.pieces capacity)
      ((Decoder.new mode).feedAll (c.wire.pieces capacity))
    rcases @Desk.finish_unlimited desk hroom with ⟨bad, decoder, hend, hfinish⟩ |
      ⟨decoded, decoder, hend, hfinish⟩
    · have hall := Decoder.decodeAll_of_finish_error hfailure hend
      refine ⟨{ desk with decoder }, e.noteAll (leftover desk), ?_, ?_, ?_⟩
      · rw [run, new, hconsume, show replies = _ from hall]
        simp only [conclude, Connection.lastFlow, hfinish, desk, start]
      · rw [show replies = _ from hall]
        rfl
      · rw [show replies = _ from hall]
        intro hnone
        cases hnone
    · have hall := Decoder.decodeAll_of_finish hfailure hend
      have hdesk : desk.after [] ⟨[decoded], none, decoder⟩ =
          start.after (c.wire.pieces capacity) replies := by
        rw [show replies = _ from hall, Desk.after_after, List.append_nil]
      refine ⟨_, e.noteAll (leftover desk), ?_, congrArg _ hdesk, fun _ => ⟨hdesk, ?_⟩⟩
      · rw [run, new, hconsume, show replies = _ from hall]
        simp only [conclude, Connection.lastFlow, hfinish, desk, start]
      · rw [Connection.state_noteAll, hclosed]
        rfl

/-- A receiver that replaces bad pieces comes to the end of everything. -/
theorem run_lossy_close {sink : Sink} {stats : Stats} (hroom : sink.room = none)
    (hstate : c.state = .opened) (h : c.wire.Follows (some .close)) :
    ∃ chunks e, chunks.flatten = c.wire.toCome ∧
      chunks.length = c.wire.readsToCome capacity ∧ e.state = .closed ∧
      (new .lossy capacity).run c sink stats = (.ended,
        (⟨.new .lossy, sink, stats⟩ : Desk).after chunks ((Decoder.new .lossy).decodeAll chunks),
        e) := by
  have hfailure : ((Decoder.new .lossy).decodeAll (c.wire.pieces capacity)).failure = none := by
    rw [Decoder.decodeAll_lossy]
  obtain ⟨desk, e, hrun, -, hall⟩ := @run_close capacity c .lossy sink stats hroom hstate h
  obtain ⟨hdesk, hclosed⟩ := hall hfailure
  rw [hfailure, hdesk] at hrun
  exact ⟨_, e, c.wire.flatten_pieces capacity, c.wire.length_pieces capacity, hclosed, hrun⟩

end Receiver

end LinkProbe
