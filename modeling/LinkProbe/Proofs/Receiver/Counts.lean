import LinkProbe.Proofs.Connection.Accounts
import LinkProbe.Proofs.Decoder.Offsets

/-!
# What a receiver counts

A receiver counts every chunk that it is handed, also one that it cannot decode or write down, and
every replacement in the texts that it decodes.

* `Stats.addChunks`: the statistics after chunks.
* `Receiver.take_cases`, `Receiver.finish_cases`: all that becomes of a chunk, and of the end.
* `Receiver.stats_run`: a run counts the chunks that it meets on the wire.
* `Receiver.Desk.Balanced`: the counters fit together, which every chunk and the end keep
  (`balanced_run`).
-/

namespace LinkProbe

open Utf8

/-- The statistics after chunks that were received, with so many replacements. -/
def Stats.addChunks (s : Stats) (chunks : List (List UInt8)) (replaced : Nat) : Stats :=
  { s with
    chunksReceived := s.chunksReceived + chunks.length
    bytesReceived := s.bytesReceived + chunks.flatten.length
    replacements := s.replacements + replaced }

theorem Stats.addChunks_nil (s : Stats) : s.addChunks [] 0 = s := rfl

theorem Stats.addChunks_append (s : Stats) (first second : List (List UInt8)) (m n : Nat) :
    (s.addChunks first m).addChunks second n = s.addChunks (first ++ second) (m + n) := by
  simp only [addChunks, List.length_append, List.flatten_append, Nat.add_assoc]

/-- A chunk that is decoded replaces no more than it settles. -/
theorem Decoder.replacements_feed {d e : Decoder} {chunk : List UInt8} {decoded : Decoded}
    (hheld : Holdable d.held) (h : d.feed chunk = (.ok decoded, e)) :
    Holdable e.held ∧ decoded.replacements + e.held.length ≤ d.held.length + chunk.length := by
  rcases d.feed_cases chunk with hfeed | ⟨bad, -, hfeed⟩ <;> rw [hfeed] at h <;> cases h
  have hsettles := settles_scan hheld chunk
  refine ⟨hsettles.holdable, ?_⟩
  have hcount := hsettles.countP_isBad_le
  rwa [List.length_append] at hcount

namespace Receiver

variable {capacity : Nat} {c d : Connection} {desk desk' : Desk} {chunks : List (List UInt8)}
  {flow : Flow}

/-! ## One chunk -/

/-- Putting a text down counts its replacements, whether the sink takes it or not. -/
theorem put_cases (d : Desk) (decoded : Decoded) : ∃ result sink,
    (result = .ok () ∨ result = .error (.output Sink.full)) ∧ d.put decoded =
      (result, { d with sink, stats := d.stats.addChunks [] decoded.replacements }) :=
  ⟨_, _, d.sink.putLine_cases decoded.text, rfl⟩

/-- A chunk is counted. Then it cannot be decoded, or its text is put down. -/
theorem take_cases (d : Desk) (chunk : List UInt8) :
    (∃ bad decoder, d.decoder.feed chunk = (.error bad, decoder) ∧
      d.take chunk = (.error (.decode bad),
        { d with decoder, stats := d.stats.addChunks [chunk] 0 })) ∨
    ∃ decoded decoder result sink, d.decoder.feed chunk = (.ok decoded, decoder) ∧
      (result = .ok () ∨ result = .error (.output Sink.full)) ∧
      d.take chunk = (result,
        ⟨decoder, sink, d.stats.addChunks [chunk] decoded.replacements⟩) := by
  have hrecord : d.stats.recordChunk chunk.length = d.stats.addChunks [chunk] 0 := by
    simp [Stats.recordChunk, Stats.addChunks]
  cases hfeed : d.decoder.feed chunk with
  | mk outcome decoder =>
    cases outcome with
    | error bad =>
      refine .inl ⟨bad, decoder, rfl, ?_⟩
      rw [Desk.take, hfeed, ← hrecord]
    | ok decoded =>
      obtain ⟨result, sink, hresult, hput⟩ := put_cases
        { d with decoder, stats := d.stats.addChunks [chunk] 0 } decoded
      refine .inr ⟨decoded, decoder, result, sink, rfl, hresult, ?_⟩
      rw [Desk.take, hfeed, hrecord]
      simp only [hput, Stats.addChunks_append, List.append_nil, Nat.zero_add]

/-- What was held is refused at the end, or its text is put down. -/
theorem finish_cases (d : Desk) :
    (∃ bad decoder, d.decoder.finish = (.error bad, decoder) ∧
      d.finish = (.error (.decode bad), { d with decoder })) ∨
    ∃ decoded decoder result sink, d.decoder.finish = (.ok decoded, decoder) ∧
      (result = .ok () ∨ result = .error (.output Sink.full)) ∧
      d.finish = (result, ⟨decoder, sink, d.stats.addChunks [] decoded.replacements⟩) := by
  cases hfinish : d.decoder.finish with
  | mk outcome decoder =>
    cases outcome with
    | error bad => exact .inl ⟨bad, decoder, rfl, by rw [Desk.finish, hfinish]⟩
    | ok decoded =>
      obtain ⟨result, sink, hresult, hput⟩ := put_cases { d with decoder } decoded
      refine .inr ⟨decoded, decoder, result, sink, rfl, hresult, ?_⟩
      rw [Desk.finish, hfinish]
      exact hput

/-! ## Runs -/

theorem stats_take (d : Desk) (chunk : List UInt8) :
    ∃ replaced, (d.take chunk).2.stats = d.stats.addChunks [chunk] replaced := by
  rcases take_cases d chunk with ⟨bad, decoder, -, htake⟩ | ⟨decoded, decoder, result, sink, -, -,
    htake⟩ <;> rw [htake]
  · exact ⟨0, rfl⟩
  · exact ⟨decoded.replacements, rfl⟩

theorem stats_finish (d : Desk) :
    ∃ replaced, d.finish.2.stats = d.stats.addChunks [] replaced := by
  rcases finish_cases d with ⟨bad, decoder, -, hfinish⟩ | ⟨decoded, decoder, result, sink, -, -,
    hfinish⟩ <;> rw [hfinish]
  · exact ⟨0, rfl⟩
  · exact ⟨decoded.replacements, rfl⟩

theorem stats_of_takes (h : c.Takes consumer capacity desk chunks d desk') :
    ∃ replaced, desk'.stats = desk.stats.addChunks chunks replaced := by
  induction h with
  | none => exact ⟨0, rfl⟩
  | @chunk c d e desk t u bytes chunks _ hstep _ ih =>
    obtain ⟨first, hfirst⟩ := stats_take desk bytes
    obtain ⟨rest, hrest⟩ := ih
    rw [show desk.take bytes = _ from hstep] at hfirst
    refine ⟨first + rest, ?_⟩
    rw [hrest, hfirst, Stats.addChunks_append, List.singleton_append]

theorem stats_of_stops (h : c.Stops consumer capacity desk flow d desk') :
    ∃ replaced, desk'.stats =
      desk.stats.addChunks (Contact.chunks (c.asked capacity)) replaced := by
  rw [Connection.chunks_asked]
  cases h with
  | ended hread | failed hread | waiting hread => exact ⟨0, by rw [hread, Stats.addChunks_nil]⟩
  | @refused _ _ _ bytes fault hread hstep =>
    obtain ⟨replaced, hstats⟩ := stats_take desk bytes
    rw [show desk.take bytes = _ from hstep] at hstats
    exact ⟨replaced, by rw [hread]; exact hstats⟩

/-- **A run counts the chunks that it meets on the wire**, however it ends. -/
theorem stats_run (r : Receiver) (c : Connection) (sink : Sink) (stats : Stats) :
    ∃ replaced, (r.run c sink stats).2.1.stats = stats.addChunks
      (Contact.chunks (c.contacts (.receive r sink stats))) replaced := by
  obtain ⟨flow, desk, d, hconsume, hrun⟩ := r.run_cases c sink stats
  obtain ⟨chunks, e, desk', htakes, hstops⟩ := Connection.consume_iff.mp hconsume
  obtain ⟨before, hbefore⟩ := stats_of_takes htakes
  obtain ⟨last, hlast⟩ := stats_of_stops hstops
  have hmet : Contact.chunks (c.contacts (.receive r sink stats)) =
      chunks ++ Contact.chunks (e.asked r.capacity) :=
    Connection.chunks_consumeContacts htakes hstops
  have hread : desk.stats = stats.addChunks
      (Contact.chunks (c.contacts (.receive r sink stats))) (before + last) := by
    rw [hlast, hbefore, Stats.addChunks_append, hmet]
  rcases hrun with ⟨-, hrun⟩ | ⟨-, hrun⟩ <;> rw [hrun]
  · obtain ⟨atEnd, hfinish⟩ := stats_finish desk
    exact ⟨before + last + atEnd, by rw [hfinish, hread, Stats.addChunks_append, List.append_nil]⟩
  · exact ⟨before + last, hread⟩

/-! ## Counters that fit together -/

/-- No chunk was empty or larger than a read has room for, and every replacement and every held byte
takes up received bytes of its own. -/
structure Desk.Balanced (capacity : Nat) (d : Desk) : Prop where
  holdable : Holdable d.decoder.held
  chunks_le : d.stats.chunksReceived ≤ d.stats.bytesReceived
  bytes_le : d.stats.bytesReceived ≤ d.stats.chunksReceived * Wire.room capacity
  replaced_le : d.stats.replacements + d.decoder.held.length ≤ d.stats.bytesReceived

namespace Desk.Balanced

theorem new (capacity : Nat) (mode : DecodeMode) (sink : Sink) :
    Desk.Balanced capacity ⟨.new mode, sink, .zero⟩ :=
  ⟨.nil, Nat.le_refl _, Nat.zero_le _, Nat.le_refl _⟩

theorem take (h : desk.Balanced capacity) {chunk : List UInt8} (hpos : 0 < chunk.length)
    (hle : chunk.length ≤ Wire.room capacity) : (desk.take chunk).2.Balanced capacity := by
  obtain ⟨hheld, hchunks, hbytes, hreplaced⟩ := h
  have hroom : (desk.stats.chunksReceived + 1) * Wire.room capacity =
      desk.stats.chunksReceived * Wire.room capacity + Wire.room capacity :=
    Nat.add_one_mul _ _
  rcases take_cases desk chunk with ⟨bad, decoder, hfeed, htake⟩ |
    ⟨decoded, decoder, result, sink, hfeed, -, htake⟩ <;> rw [htake]
  · rcases desk.decoder.feed_cases chunk with hother | ⟨_, -, hother⟩ <;> rw [hfeed] at hother <;>
      cases hother
    refine ⟨.nil, ?_, ?_, ?_⟩ <;>
      simp only [Stats.addChunks, List.length_singleton, List.flatten_singleton,
        List.length_nil] <;>
      omega
  · obtain ⟨hheld', hsettled⟩ := Decoder.replacements_feed hheld hfeed
    refine ⟨hheld', ?_, ?_, ?_⟩ <;>
      simp only [Stats.addChunks, List.length_singleton, List.flatten_singleton] <;>
      omega

theorem finish (h : desk.Balanced capacity) : desk.finish.2.Balanced capacity := by
  obtain ⟨hheld, hchunks, hbytes, hreplaced⟩ := h
  rcases finish_cases desk with ⟨bad, decoder, hend, hfinish⟩ |
    ⟨decoded, decoder, result, sink, hend, -, hfinish⟩ <;> rw [hfinish]
  · have hnone := desk.decoder.held_finish
    rw [hend] at hnone
    refine ⟨.inl hnone, hchunks, hbytes, ?_⟩
    simp only [show decoder.held = [] from hnone, List.length_nil]
    omega
  · have hnone := desk.decoder.held_finish
    rw [hend] at hnone
    have hone : decoded.replacements ≤ desk.decoder.held.length := by
      by_cases hempty : desk.decoder.held = []
      · rw [Decoder.finish, if_pos (by simp [hempty])] at hend
        cases hend
        exact Nat.zero_le _
      · have hpos := List.length_pos_iff.mpr hempty
        rw [Decoder.finish, if_neg (by simp [hempty])] at hend
        cases hmode : desk.decoder.mode <;> rw [hmode] at hend <;> cases hend
        exact hpos
    refine ⟨.inl hnone, ?_, ?_, ?_⟩ <;>
      simp only [Stats.addChunks, List.length_nil, List.flatten_nil, Nat.add_zero,
        show decoder.held = [] from hnone] <;>
      omega

theorem takes (h : desk.Balanced capacity)
    (htakes : c.Takes consumer capacity desk chunks d desk') : desk'.Balanced capacity := by
  induction htakes with
  | none => exact h
  | @chunk c d e desk t u bytes chunks hread hstep _ ih =>
    obtain ⟨hpos, hle⟩ := Connection.length_read hread
    have htake := h.take hpos hle
    rw [show desk.take bytes = _ from hstep] at htake
    exact ih htake

theorem stops (h : desk.Balanced capacity)
    (hstops : c.Stops consumer capacity desk flow d desk') : desk'.Balanced capacity := by
  cases hstops with
  | ended _ | failed _ | waiting _ => exact h
  | @refused _ _ _ bytes fault hread hstep =>
    obtain ⟨hpos, hle⟩ := Connection.length_read hread
    have htake := h.take hpos hle
    rwa [show desk.take bytes = _ from hstep] at htake

end Desk.Balanced

/-- **The counters of a run fit together**, however it ends. -/
theorem balanced_run {r : Receiver} {sink : Sink} {stats : Stats}
    (h : Desk.Balanced r.capacity ⟨r.decoder, sink, stats⟩) (c : Connection) :
    (r.run c sink stats).2.1.Balanced r.capacity := by
  obtain ⟨flow, desk, d, hconsume, hrun⟩ := r.run_cases c sink stats
  obtain ⟨chunks, e, desk', htakes, hstops⟩ := Connection.consume_iff.mp hconsume
  have hread : desk.Balanced r.capacity := (h.takes htakes).stops hstops
  rcases hrun with ⟨-, hrun⟩ | ⟨-, hrun⟩ <;> rw [hrun]
  · exact hread.finish
  · exact hread

end Receiver

end LinkProbe
