import LinkProbe.Proofs.Connection.Unread
import LinkProbe.Proofs.Receiver.Counts
import LinkProbe.Proofs.Receiver.Runs

/-!
# What a run of a receiver leaves, however it ends

A run ends when the connection is over, when a read fails, or when a chunk or the end of the stream
cannot be decoded or written down.

* `Sink.Prints`, `Sink.Refuses`: a sink takes all of the texts that it is offered, or not the last.
* `Receiver.replies`: what the decoder says in the course of a run.
* `Receiver.offered`: the texts that the sink is offered in the course of a run.
* `Receiver.Exits`: what a run leaves.
* `Receiver.exits_run`: every run leaves that.
-/

namespace LinkProbe

open Decoder (Replies joined)

/-! ## What a sink is offered -/

namespace Sink

/-- The sink takes all of the texts, each on a line of its own. -/
def Prints (before : Sink) (texts : List String) (after : Sink) : Prop :=
  after.accepted.toList = before.accepted.toList ++ texts.flatMap line

/-- The sink takes all of the texts but the last, which it refuses. -/
def Refuses (before : Sink) (texts : List String) (after : Sink) : Prop :=
  ∃ printed last sink, texts = printed ++ [last] ∧ before.Prints printed sink ∧
    sink.putLine last = (.error (.output full), after)

variable {s t u : Sink} {first second : List String}

theorem Prints.nil (s : Sink) : s.Prints [] s := (List.append_nil _).symm

theorem Prints.append (h : s.Prints first t) (h' : t.Prints second u) :
    s.Prints (first ++ second) u := by
  rw [Prints] at h h' ⊢
  rw [h', h, List.append_assoc, List.flatMap_append]

theorem Prints.refuses (h : s.Prints first t) (h' : t.Refuses second u) :
    s.Refuses (first ++ second) u := by
  obtain ⟨printed, last, sink, rfl, hprinted, hlast⟩ := h'
  exact ⟨first ++ printed, last, sink, by rw [List.append_assoc], h.append hprinted, hlast⟩

theorem accepted_put_ok {piece : String} (h : s.put piece = (.ok (), t)) :
    t.accepted = s.accepted.push piece := by
  unfold put at h
  split at h <;> cases h
  rfl

/-- A text that is offered is taken or refused, if it is not empty. -/
theorem putLine_told (s : Sink) (decoded : Decoded) :
    (∃ sink, s.putLine decoded.text = (.ok (), sink) ∧ s.Prints (linesOf [decoded]) sink) ∨
    ∃ sink, s.putLine decoded.text = (.error (.output full), sink) ∧
      s.Refuses (linesOf [decoded]) sink := by
  by_cases htext : decoded.text = ""
  · exact .inl ⟨s, by simp [putLine, htext], by simp [linesOf, htext, Prints]⟩
  · have hlines : linesOf [decoded] = [decoded.text] := by simp [linesOf, htext]
    have hempty : decoded.text.isEmpty = false := by simpa using htext
    rw [hlines]
    rcases hput : s.putLine decoded.text with ⟨result, sink⟩
    have hresult := s.putLine_cases decoded.text
    rw [hput] at hresult
    rcases hresult with rfl | rfl
    · refine .inl ⟨sink, rfl, ?_⟩
      rw [putLine, if_neg (by rw [hempty]; decide)] at hput
      rcases s.put_cases decoded.text with ⟨t, hfirst⟩ | hfirst <;> rw [hfirst] at hput
      · rcases t.put_cases "\n" with ⟨u, hsecond⟩ | hsecond <;> simp only [hsecond] at hput <;>
          cases hput
        rw [Prints, accepted_put_ok hsecond, accepted_put_ok hfirst]
        simp [line, htext]
      · cases hput
    · exact .inr ⟨sink, rfl, [], decoded.text, s, rfl, .nil s, hput⟩

/-- What a sink gets of what a decoder says, and what comes of it. -/
inductive Gets (before : Sink) (replies : Replies) : Except Fault Unit → Sink → Prop
  | all {after : Sink} (decoded : replies.failure = none)
      (prints : before.Prints (linesOf replies.decoded) after) : Gets before replies (.ok ()) after
  /-- The decoder fails in the end. -/
  | undecodable {after : Sink} {bad : Malformed} (failed : replies.failure = some bad)
      (prints : before.Prints (linesOf replies.decoded) after) :
      Gets before replies (.error (.decode bad)) after
  /-- The sink refuses the last text. -/
  | refused {after : Sink} (decoded : replies.failure = none)
      (refuses : before.Refuses (linesOf replies.decoded) after) :
      Gets before replies (.error (.output full)) after

theorem Gets.decoded {replies : Replies} (h : s.Gets replies (.ok ()) t) :
    replies.failure = none := by
  cases h with
  | all hdecoded _ => exact hdecoded

end Sink

/-- The end of the stream comes behind all chunks. -/
theorem Decoder.decodeAll_eq {d : Decoder} {chunks : List (List UInt8)}
    (h : (d.feedAll chunks).failure = none) : d.decodeAll chunks =
      { (d.feedAll chunks).decoder.decodeAll [] with
        decoded := (d.feedAll chunks).decoded ++
          ((d.feedAll chunks).decoder.decodeAll []).decoded } := by
  rw [decodeAll, decodeAll, h, feedAll]
  simp only
  rcases (d.feedAll chunks).decoder.finish with ⟨bad | decoded, decoder⟩
  · simp only [List.append_nil]
  · rfl

namespace Receiver

variable {capacity : Nat} {c d : Connection} {desk desk' mid : Desk} {chunks : List (List UInt8)}
  {flow : Flow} {first second : List (List UInt8)} {r s : Replies} {result : Except Fault Unit}

/-! ## What a desk is told -/

/-- The desk was handed the chunks, and this is what the decoder said. -/
structure Desk.Told (before : Desk) (chunks : List (List UInt8)) (replies : Replies)
    (result : Except Fault Unit) (after : Desk) : Prop where
  decoder : after.decoder = replies.decoder
  stats : after.stats = before.stats.addChunks chunks (joined replies.decoded).replacements
  sink : before.sink.Gets replies result after.sink

theorem Desk.Told.nil (d : Desk) : d.Told [] ⟨[], none, d.decoder⟩ (.ok ()) d :=
  ⟨rfl, rfl, .all rfl (.nil _)⟩

/-- What is told in two goes. -/
theorem Desk.Told.append (h : desk.Told first r (.ok ()) mid)
    (h' : mid.Told second s result desk') :
    desk.Told (first ++ second) { s with decoded := r.decoded ++ s.decoded } result desk' := by
  obtain ⟨-, hstats, hsink⟩ := h
  obtain ⟨hdecoder', hstats', hsink'⟩ := h'
  cases hsink with
  | all _ hprinted =>
    refine ⟨hdecoder', ?_, ?_⟩
    · rw [hstats', hstats, Stats.addChunks_append, Decoder.joined_append]
    · cases hsink' with
      | all hdecoded hmore =>
        exact .all hdecoded (by rw [linesOf_append]; exact hprinted.append hmore)
      | undecodable hfailed hmore =>
        exact .undecodable hfailed (by rw [linesOf_append]; exact hprinted.append hmore)
      | refused hdecoded hmore =>
        exact .refused hdecoded (by rw [linesOf_append]; exact hprinted.refuses hmore)

/-- Putting down what the decoder said. -/
theorem Desk.told_put (d : Desk) (decoded : Decoded) :
    d.Told [] ⟨[decoded], none, d.decoder⟩ (d.put decoded).1 (d.put decoded).2 := by
  have hstats : (d.put decoded).2.stats =
      d.stats.addChunks [] (joined [decoded]).replacements := by
    simp [put, Stats.recordReplacements, Stats.addChunks, joined]
  refine ⟨rfl, hstats, ?_⟩
  rw [put]
  rcases d.sink.putLine_told decoded with ⟨sink, hput, hprints⟩ | ⟨sink, hput, hrefuses⟩ <;>
    rw [hput]
  · exact .all rfl hprints
  · exact .refused rfl hrefuses

/-- A chunk. -/
theorem Desk.told_take (d : Desk) (chunk : List UInt8) :
    d.Told [chunk] (d.decoder.feedAll [chunk]) (d.take chunk).1 (d.take chunk).2 := by
  have hcount : d.stats.recordChunk chunk.length = d.stats.addChunks [chunk] 0 := by
    simp [Stats.recordChunk, Stats.addChunks]
  rw [take, hcount, Decoder.feedAll]
  rcases d.decoder.feed chunk with ⟨bad | decoded, decoder⟩
  · exact ⟨rfl, rfl, .undecodable rfl (.nil _)⟩
  · have hcounted : d.Told [chunk] ⟨[], none, decoder⟩ (.ok ())
        { d with decoder, stats := d.stats.addChunks [chunk] 0 } := ⟨rfl, rfl, .all rfl (.nil _)⟩
    exact hcounted.append (told_put _ decoded)

/-- The end. -/
theorem Desk.told_finish (d : Desk) :
    d.Told [] (d.decoder.decodeAll []) d.finish.1 d.finish.2 := by
  rw [finish, Decoder.decodeAll, Decoder.feedAll]
  simp only
  rcases d.decoder.finish with ⟨bad | decoded, decoder⟩
  · exact ⟨rfl, rfl, .undecodable rfl (.nil _)⟩
  · have hflushed : d.Told [] ⟨[], none, decoder⟩ (.ok ()) { d with decoder } :=
      ⟨rfl, rfl, .all rfl (.nil _)⟩
    exact hflushed.append (told_put _ decoded)

/-! ## What a run tells -/

/-- The texts that the desk offers its sink for a chunk. -/
def Desk.offers (d : Desk) (chunk : List UInt8) : List String :=
  match (d.decoder.feed chunk).1 with
  | .ok decoded => linesOf [decoded]
  | .error _ => []

/-- The texts that it offers at the end. -/
def Desk.offersAtEnd (d : Desk) : List String :=
  match d.decoder.finish.1 with
  | .ok decoded => linesOf [decoded]
  | .error _ => []

theorem Desk.offers_eq (d : Desk) (chunk : List UInt8) :
    d.offers chunk = linesOf (d.decoder.feedAll [chunk]).decoded := by
  rw [offers, Decoder.feedAll]
  rcases d.decoder.feed chunk with ⟨bad | decoded, decoder⟩ <;> rfl

theorem Desk.offersAtEnd_eq (d : Desk) :
    d.offersAtEnd = linesOf (d.decoder.decodeAll []).decoded := by
  rw [offersAtEnd, Decoder.decodeAll, Decoder.feedAll]
  simp only
  rcases d.decoder.finish with ⟨bad | decoded, decoder⟩ <;> rfl

/-- The receiver as a consumer that keeps a record of the texts that its sink is offered, whether it
takes them or not. -/
def recorder : Consumer (Desk × List String) where
  notes := consumer.notes
  step s chunk := ((s.1.take chunk).1, (s.1.take chunk).2, s.2 ++ s.1.offers chunk)

/-- Chunks that were taken. -/
theorem told_of_takes (h : c.Takes consumer capacity desk chunks d desk') :
    desk.Told chunks (desk.decoder.feedAll chunks) (.ok ()) desk' ∧
      ∀ texts, c.Takes recorder capacity (desk, texts) chunks d
        (desk', texts ++ linesOf (desk.decoder.feedAll chunks).decoded) := by
  induction h with
  | none => exact ⟨.nil _, fun texts => by simpa [linesOf, Decoder.feedAll] using .none⟩
  | @chunk c d e desk mid desk' bytes chunks hread hstep _ ih =>
    have htake : desk.take bytes = (.ok (), mid) := hstep
    have hfirst := desk.told_take bytes
    rw [htake] at hfirst
    obtain ⟨hrest, hrecord⟩ := ih
    rw [hfirst.decoder] at hrest hrecord
    have hfed := hfirst.sink.decoded
    have hall : desk.decoder.feedAll ([bytes] ++ chunks) = _ := Decoder.feedAll_append hfed
    rw [List.singleton_append] at hall
    rw [hall]
    refine ⟨hfirst.append hrest, fun texts => ?_⟩
    have hrecorded : recorder.step (desk, texts) bytes =
        (.ok (), (mid, texts ++ desk.offers bytes)) := by simp only [recorder, htake]
    have hmore := hrecord (texts ++ desk.offers bytes)
    rw [List.append_assoc, desk.offers_eq, ← linesOf_append] at hmore
    rw [desk.offers_eq] at hrecorded
    exact .chunk hread hrecorded hmore

/-- How a run of reads ends, when this has come of the last chunk. -/
inductive Halts (c : Connection) : Except Fault Unit → Flow → Connection → Prop
  | ended {d : Connection} : Halts c (.ok ()) .ended d
  | failed {d : Connection} {source : IoFailure} : Halts c (.ok ()) (.failed (.read source)) d
  | waiting {d : Connection} : Halts c (.ok ()) .waiting d
  /-- On the chunk: what comes behind it is left to others. -/
  | refused {d : Connection} {fault : Fault} (going : c.state ≠ .closed) (state : d.state = c.state)
      (readable : d.wire.Readable) (planned : ∀ ending, c.wire.Follows ending →
        d.wire.Follows ending) :
      Halts c (.error fault) (.failed fault) d

/-- The last read, and the chunk that it may bring. -/
theorem told_of_stops (h : c.Stops consumer capacity desk flow d desk') :
    ∃ result, desk.Told (Contact.chunks (c.asked capacity))
        (desk.decoder.feedAll (Contact.chunks (c.asked capacity))) result desk' ∧
      Halts c result flow d := by
  rw [Connection.chunks_asked]
  cases h with
  | ended hread =>
    rw [hread]
    exact ⟨_, .nil _, .ended⟩
  | waiting hread =>
    rw [hread]
    exact ⟨_, .nil _, .waiting⟩
  | failed hread =>
    obtain ⟨source, rfl⟩ := Connection.read_failed hread
    rw [hread]
    exact ⟨_, .nil _, .failed⟩
  | @refused _ _ _ bytes fault hread hstep =>
    have htake : desk.take bytes = (.error fault, desk') := hstep
    have htold := desk.told_take bytes
    rw [htake] at htold
    obtain ⟨hgoing, wire, hdata, rfl⟩ := Connection.read_chunk hread
    rw [Buffer.spare_exact] at hdata
    rw [hread]
    refine ⟨_, htold, .refused hgoing (Connection.state_noteAll _ _) ?_ fun ending hfollows => ?_⟩
    · rw [Connection.wire_noteAll]
      exact (Wire.unread_read hdata).2
    · rw [Connection.wire_noteAll]
      rcases hfollows.read capacity with ⟨-, hlast⟩ | ⟨bytes', wire', hdata', hnext, -⟩
      · rw [hdata] at hlast
        exact absurd (congrArg Prod.fst hlast).symm (Wire.lastArrival_ne_data ending)
      · rw [hdata] at hdata'
        cases hdata'
        exact hnext

/-- Keeping a record changes nothing else. -/
theorem recorded_of_stops (h : c.Stops consumer capacity desk flow d desk') (texts : List String) :
    c.Stops recorder capacity (desk, texts) flow d (desk', texts ++
      linesOf (desk.decoder.feedAll (Contact.chunks (c.asked capacity))).decoded) := by
  rw [Connection.chunks_asked]
  cases h with
  | ended hread =>
    rw [hread]
    simpa [linesOf, Decoder.feedAll] using .ended hread
  | waiting hread =>
    rw [hread]
    simpa [linesOf, Decoder.feedAll] using .waiting hread
  | failed hread =>
    rw [hread]
    simpa [linesOf, Decoder.feedAll] using .failed hread
  | @refused _ _ _ bytes fault hread hstep =>
    have htake : desk.take bytes = (.error fault, desk') := hstep
    rw [hread, ← desk.offers_eq]
    refine .refused hread ?_
    simp only [recorder, htake]

/-- All chunks up to the last read. -/
theorem told_of_consume (h : c.consume consumer capacity desk = (flow, desk', d)) :
    let chunks := Contact.chunks (c.consumeContacts consumer capacity desk)
    (∃ result e, desk.Told chunks (desk.decoder.feedAll chunks) result desk' ∧
      Halts e result flow d ∧ e.state = c.state ∧
      (c.state = .opened → ∀ ending, c.wire.Follows ending → e.wire.Follows ending)) ∧
    c.consume recorder capacity (desk, []) =
      (flow, (desk', linesOf (desk.decoder.feedAll chunks).decoded), d) := by
  intro chunks
  obtain ⟨taken, e, mid, htakes, hstops⟩ := Connection.consume_iff.mp h
  obtain ⟨htold, hrecord⟩ := told_of_takes htakes
  obtain ⟨result, hlast, hhalts⟩ := told_of_stops hstops
  have hfed := htold.sink.decoded
  have hchunks : chunks = taken ++ Contact.chunks (e.asked capacity) :=
    Connection.chunks_consumeContacts htakes hstops
  rw [htold.decoder] at hlast
  have hall : desk.decoder.feedAll (taken ++ Contact.chunks (e.asked capacity)) = _ :=
    Decoder.feedAll_append hfed
  rw [hchunks, hall]
  refine ⟨⟨result, e, htold.append hlast, hhalts, htakes.state,
    fun hopened ending hfollows => (htakes.follows hopened hfollows).1⟩, ?_⟩
  rw [(hrecord []).consume, (recorded_of_stops hstops _).consume, List.nil_append, htold.decoder,
    ← linesOf_append]

variable {sink : Sink} {stats : Stats}

/-- What the decoder says in the course of a run; at the end of the connection it is told so. -/
def replies (r : Receiver) (c : Connection) (sink : Sink) (stats : Stats) : Replies :=
  match (c.consume consumer r.capacity ⟨r.decoder, sink, stats⟩).1 with
  | .ended => r.decoder.decodeAll (c.handedOut (.receive r sink stats))
  | .failed _ | .waiting => r.decoder.feedAll (c.handedOut (.receive r sink stats))

/-- The texts that the sink is offered in the course of a run, whether it takes them or not. -/
def offered (r : Receiver) (c : Connection) (sink : Sink) (stats : Stats) : List String :=
  match c.consume recorder r.capacity (⟨r.decoder, sink, stats⟩, []) with
  | (.ended, (desk, texts), _) => texts ++ desk.offersAtEnd
  | (.failed _, (_, texts), _) | (.waiting, (_, texts), _) => texts

/-- How a run ends, when this has come of the last text. -/
inductive Speaks : Except Fault Unit → Flow → Prop
  | ended : Speaks (.ok ()) .ended
  | failed (source : IoFailure) : Speaks (.ok ()) (.failed (.read source))
  | waiting : Speaks (.ok ()) .waiting
  | refused (fault : Fault) : Speaks (.error fault) (.failed fault)

theorem Speaks.prints {before after : Sink} (h : Speaks result flow)
    (hsink : before.Gets r result after) (hflow : ∀ source, flow ≠ .failed (.output source)) :
    before.Prints (linesOf r.decoded) after := by
  cases hsink with
  | all _ hprints | undecodable _ hprints => exact hprints
  | refused _ _ =>
    cases h
    exact absurd rfl (hflow _)

theorem Speaks.refuses {before after : Sink} {source : IoFailure}
    (h : Speaks result (.failed (.output source))) (hsink : before.Gets r result after) :
    before.Refuses (linesOf r.decoded) after := by
  cases h
  cases hsink with
  | refused _ hrefuses => exact hrefuses

theorem Speaks.undecodable {before after : Sink} {bad : Malformed} (h : Speaks result flow)
    (hsink : before.Gets r result after) :
    flow = .failed (.decode bad) ↔ r.failure = some bad := by
  cases hsink with
  | all hdecoded _ => cases h <;> simp [hdecoded]
  | undecodable hfailed _ => cases h; simp [hfailed]
  | refused hdecoded _ => cases h; simp [hdecoded]

/-- What a run makes of the desk. -/
theorem told_run (r : Receiver) (c : Connection) (sink : Sink) (stats : Stats) :
    (∃ result, Desk.Told ⟨r.decoder, sink, stats⟩ (c.handedOut (.receive r sink stats))
        (r.replies c sink stats) result (r.run c sink stats).2.1 ∧
      Speaks result (r.run c sink stats).1) ∧
    r.offered c sink stats = linesOf (r.replies c sink stats).decoded := by
  rcases hconsume : c.consume consumer r.capacity ⟨r.decoder, sink, stats⟩ with ⟨flow, desk, d⟩
  obtain ⟨⟨result, e, htold, hhalts, -⟩, hrecord⟩ := told_of_consume hconsume
  rw [Connection.handedOut_eq, Connection.contacts, replies, hconsume, Connection.handedOut_eq,
    Connection.contacts, offered, hrecord]
  by_cases hflow : flow = .ended
  · subst hflow
    cases hhalts
    have hfed := htold.sink.decoded
    rw [r.run_of_ended hconsume]
    simp only
    rw [Decoder.decodeAll_eq hfed, desk.offersAtEnd_eq, ← htold.decoder, ← linesOf_append]
    have hall := htold.append desk.told_finish
    rw [List.append_nil] at hall
    refine ⟨⟨_, hall, ?_⟩, rfl⟩
    rcases desk.finish.1 with fault | _
    · exact .refused fault
    · exact .ended
  · rw [r.run_of_consume hconsume hflow]
    cases hhalts with
    | ended => exact absurd rfl hflow
    | failed => exact ⟨⟨_, htold, .failed _⟩, rfl⟩
    | waiting => exact ⟨⟨_, htold, .waiting⟩, rfl⟩
    | refused _ _ _ _ => exact ⟨⟨_, htold, .refused _⟩, rfl⟩

/-- What a run leaves, however it ends. -/
structure Exits (r : Receiver) (c : Connection) (sink : Sink) (stats : Stats) : Prop where
  /-- The chunks are what was taken from the connection. -/
  taken : (c.handedOut (.receive r sink stats)).flatten ++ (r.run c sink stats).2.2.wire.toCome =
    c.wire.toCome
  /-- They have been counted, and so have the replacements in what was decoded of them. -/
  counted : (r.run c sink stats).2.1.stats = stats.addChunks (c.handedOut (.receive r sink stats))
    (joined (r.replies c sink stats).decoded).replacements
  decoder : (r.run c sink stats).2.1.decoder = (r.replies c sink stats).decoder
  /-- The sink was offered what was decoded. -/
  texts : r.offered c sink stats = linesOf (r.replies c sink stats).decoded
  /-- It has taken all of it, or refused the last text, with which the run ended. -/
  prints : (∀ source, (r.run c sink stats).1 ≠ .failed (.output source)) →
    sink.Prints (r.offered c sink stats) (r.run c sink stats).2.1.sink
  refuses : ∀ source, (r.run c sink stats).1 = .failed (.output source) →
    sink.Refuses (r.offered c sink stats) (r.run c sink stats).2.1.sink
  /-- A failure of the decoder is told of. -/
  undecodable : ∀ bad, (r.run c sink stats).1 = .failed (.decode bad) ↔
    (r.replies c sink stats).failure = some bad
  /-- A chunk that cannot be decoded or written down does not end the connection, and what comes
  behind it can be read: all that is there, and all that is to come from a peer that keeps to its
  plan. -/
  readable : ∀ fault desk d, c.consume consumer r.capacity ⟨r.decoder, sink, stats⟩ =
      (.failed fault, desk, d) → ((∃ bad, fault = .decode bad) ∨ ∃ source, fault = .output source) →
    r.run c sink stats = (.failed fault, desk, d) ∧ d.state = c.state ∧
      ∀ capacity, d.wire.unread <+: (d.drain capacity).2.1.toList.flatten ∧
        (c.state = .opened → ∀ ending, c.wire.Follows ending →
          (d.drain capacity).2.1.toList.flatten = d.wire.toCome)

/-- **Every run leaves that**, however it ends. -/
theorem exits_run (r : Receiver) (c : Connection) (sink : Sink) (stats : Stats) :
    r.Exits c sink stats := by
  obtain ⟨⟨result, ⟨hdecoder, hstats, hsink⟩, hspeaks⟩, htexts⟩ := r.told_run c sink stats
  refine ⟨?_, hstats, hdecoder, htexts, ?_, ?_, ?_, ?_⟩
  · rw [Connection.handedOut_eq, r.wire_run]
    exact c.toCome_consume consumer r.capacity _
  · rw [htexts]
    exact hspeaks.prints hsink
  · intro source hflow
    rw [hflow] at hspeaks
    rw [htexts]
    exact hspeaks.refuses hsink
  · exact fun bad => hspeaks.undecodable hsink
  · intro fault desk d hconsume hfault
    obtain ⟨⟨_, e, -, hhalts, hstate, hplanned⟩, -⟩ := told_of_consume hconsume
    refine ⟨r.run_refused hconsume, ?_⟩
    cases hhalts with
    | failed => rcases hfault with ⟨_, h⟩ | ⟨_, h⟩ <;> cases h
    | refused hgoing hsame hreadable hnext =>
      refine ⟨hsame.trans hstate, fun capacity =>
        ⟨Connection.unread_drain (hsame ▸ hgoing) hreadable capacity, ?_⟩⟩
      intro hopened ending hfollows
      have hd : d.state = .opened := hsame.trans (hstate.trans hopened)
      exact Connection.toCome_drain hd (hnext ending (hplanned hopened ending hfollows)) capacity

end Receiver

end LinkProbe
