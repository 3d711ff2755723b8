import LinkProbe.Proofs.Session.Agreement
import LinkProbe.Proofs.Session.Course
import LinkProbe.Proofs.Utf8.Tails

/-!
# How the peer ends and what that changes

Sessions that receive the same parts go the same way until all have been read. Then the peer
closes the connection, breaks it off, or waits until the session is asked to stop.

* `Decoder.decodeAll_whole`, `Decoder.decodeAll_lossy_inside`, `Decoder.decodeAll_strict_inside`:
  what the end of the stream adds.
* `Session.run_feed`: a session, from what its decoder says of the chunks.
* `Session.ending_matters_at_the_end`: three sessions that differ in the end of the peer only.
-/

namespace LinkProbe

open Decoder (Replies joined FailsInside shown)
open Utf8 (Extendable EndsInside scan)

/-! ## The end of a stream -/

theorem DecodeMode.ofStrict_eq_strict {strict : Bool} :
    ofStrict strict = .strict ↔ strict = true := by
  cases strict <;> simp [ofStrict]

namespace Decoder

variable {mode : DecodeMode} {bytes tail : List UInt8} {chunks : List (List UInt8)}

theorem finish_after_whole (h : ∀ tail, ¬ EndsInside bytes tail) :
    (after mode bytes).finish = (.ok ⟨"", 0⟩, { after mode bytes with held := [] }) := by
  have hheld : (scan [] bytes).held = [] :=
    Decidable.byContradiction fun hne => h _ (Utf8.endsInside_iff.mpr ⟨rfl, hne⟩)
  simp [finish, after, hheld]

theorem finish_after_lossy_inside (h : EndsInside bytes tail) : (after .lossy bytes).finish =
    (.ok ⟨"\uFFFD", 1⟩, { after .lossy bytes with held := [] }) := by
  obtain ⟨rfl, hne⟩ := Utf8.endsInside_iff.mp h
  simp [finish, after, hne]

theorem finish_after_strict_inside (h : EndsInside bytes tail) : (after .strict bytes).finish =
    (.error ⟨bytes.length - tail.length, tail⟩, { after .strict bytes with held := [] }) := by
  obtain ⟨rfl, hne⟩ := Utf8.endsInside_iff.mp h
  simp [finish, after, hne]

/-- Chunks that do not end inside a character are all there is. -/
theorem decodeAll_whole (hext : mode = .strict → Extendable chunks.flatten)
    (h : ∀ tail, ¬ EndsInside chunks.flatten tail) : ∃ decoder,
    (new mode).decodeAll chunks = ⟨shown [] chunks ++ [⟨"", 0⟩], none, decoder⟩ := by
  refine ⟨{ after mode chunks.flatten with held := [] }, ?_⟩
  rw [decodeAll, feedAll_new hext]
  dsimp only
  rw [finish_after_whole h]

/-- What there is of the last character is replaced. -/
theorem decodeAll_lossy_inside (h : EndsInside chunks.flatten tail) : ∃ decoder,
    (new .lossy).decodeAll chunks = ⟨shown [] chunks ++ [⟨"\uFFFD", 1⟩], none, decoder⟩ := by
  refine ⟨{ after .lossy chunks.flatten with held := [] }, ?_⟩
  rw [decodeAll, feedAll_new (fun hstrict => by cases hstrict)]
  dsimp only
  rw [finish_after_lossy_inside h]

/-- Or it is refused. -/
theorem decodeAll_strict_inside (hext : Extendable chunks.flatten)
    (h : EndsInside chunks.flatten tail) : ∃ decoder, (new .strict).decodeAll chunks =
      ⟨shown [] chunks, some ⟨chunks.flatten.length - tail.length, tail⟩, decoder⟩ := by
  refine ⟨{ after .strict chunks.flatten with held := [] }, ?_⟩
  rw [decodeAll, feedAll_new fun _ => hext]
  dsimp only
  rw [finish_after_strict_inside h]

end Decoder

namespace Session

variable {network : Network} {config : Config} {c : Connection} {shutdown : Shutdown}
  {timestamp : String} {parts : List (List UInt8)} {ending : Option Ending}

/-- What comes of a run of a receiver that does not come to the end of the stream. -/
theorem conclude_receive {w : Work} {flow : Flow} {desk : Receiver.Desk} {e : Connection}
    (timestamp : String) (hchunks : shutdown.moment.chunks = none)
    (hrun : (receiverOf config).run (beginReceive config w).connection w.sink w.stats =
      (flow, desk, e)) :
    let t := conclude config shutdown timestamp (receive config shutdown.moment w)
    t.sink = desk.sink ∧
      (∀ fault, flow = .failed fault → t.result = some (.error fault)) ∧
      (flow = .waiting → shutdown.moment.endsWait = true → e.state = .opened →
        t.result = some (.ok ⟨timestamp, config.target, config.mode,
          shutdown.moment.elapsed w.elapsedMs / 1000, .closed, .shutdown, desk.stats⟩)) := by
  intro t
  simp only [t, receive_of_run hchunks hrun]
  cases flow with
  | ended => exact ⟨rfl, fun _ hfailed => (by cases hfailed), fun hwaits => (by cases hwaits)⟩
  | failed fault =>
    refine ⟨rfl, fun other hother => ?_, fun hwaits => (by cases hwaits)⟩
    cases hother
    rfl
  | waiting =>
    cases hends : shutdown.moment.endsWait with
    | false => simp [Flow.outcome, hends, conclude]
    | true =>
      refine ⟨by simp [Flow.outcome, hends, conclude, conclude.finish],
        fun _ hfailed => (by cases hfailed), fun _ _ hstate => ?_⟩
      have hclosed : (e.noteAll (shutdown.notes ++ [.stopping])).close.state = .closed :=
        Connection.state_close (by rw [Connection.state_noteAll, hstate])
      simp [Flow.outcome, hends, conclude, conclude.finish, report, Connection.note, hclosed]

/-- A session fails with the first chunk that cannot be decoded. If there is none, it fails when the
peer breaks the connection off, and reports when it is asked to stop. -/
theorem run_feed (shutdown : Shutdown) (timestamp : String) (hvalid : config.validate = .ok ())
    (hmode : config.mode = .receive) (hopened : dial network config = .opened c)
    (hpeer : c.wire = .plan parts ending) (hchunks : shutdown.moment.chunks = none) :
    let chunks := chunksOf config parts
    let fed := (Decoder.new (.ofStrict config.strictUtf8)).feedAll chunks
    let t := run network config (.empty none) shutdown timestamp
    (∀ bad, fed.failure = some bad →
      t.result = some (.error (.decode bad)) ∧ t.sink = printed fed.decoded) ∧
    (fed.failure = none → ending = some .reset →
      t.result = some (.error (.read .resetByPeer)) ∧ t.sink = printed fed.decoded) ∧
    (fed.failure = none → ending = none → shutdown.moment.endsWait = true →
      t.result = some (.ok ⟨timestamp, config.target, config.mode,
        shutdown.moment.elapsed 0 / 1000, .closed, .shutdown,
        Stats.zero.addChunks chunks (joined fed.decoded).replacements⟩) ∧
      t.sink = printed fed.decoded) := by
  intro chunks fed t
  let start : Work := ⟨c, ⟨#[notice, "\n"], none⟩, .zero, 0⟩
  let d := c.note (.logging (.ofStrict config.strictUtf8))
  have hrun : t = conclude config shutdown timestamp (receive config shutdown.moment start) := by
    simp only [t, run_noticed hvalid hopened, runMode, hmode, start]
  have hstate : c.state = .opened := Connection.state_connect hopened
  have hpieces : d.wire.pieces config.readBufferSize.toNat = chunks := by
    show c.wire.pieces _ = chunks
    rw [hpeer, Wire.pieces_plan]
    rfl
  have hconsumed := @Receiver.consume_follows config.readBufferSize.toNat d
    (.ofStrict config.strictUtf8) start.sink .zero ending rfl hstate
    (hpeer ▸ Wire.follows_plan parts ending)
  rw [hpieces] at hconsumed
  rw [hrun]
  let receiver := receiverOf config
  rcases hconsumed with ⟨bad, desk, e, hfailure, hconsume, hsink⟩ | ⟨e, hfailure, hconsume, hend⟩
  · obtain ⟨hprinted, hfault, -⟩ := @conclude_receive config shutdown start _ _ _ timestamp hchunks
      (receiver.run_of_consume hconsume fun hended => by cases hended)
    refine ⟨fun other hother => ?_, fun hnone => ?_, fun hnone => ?_⟩
    · cases hfailure.symm.trans hother
      exact ⟨hfault _ rfl, hprinted.trans hsink⟩
    · cases hfailure.symm.trans hnone
    · cases hfailure.symm.trans hnone
  · refine ⟨fun bad hbad => ?_, fun _ hreset => ?_, fun _ hwaits hends => ?_⟩
    · cases hfailure.symm.trans hbad
    · subst hreset
      obtain ⟨hprinted, hfault, -⟩ := @conclude_receive config shutdown start _ _ _ timestamp
        hchunks (receiver.run_of_consume hconsume fun hended => by cases hended)
      exact ⟨hfault _ rfl, hprinted⟩
    · subst hwaits
      obtain ⟨hprinted, -, hreport⟩ := @conclude_receive config shutdown start _ _ _ timestamp
        hchunks (receiver.run_of_consume hconsume fun hended => by cases hended)
      exact ⟨hreport rfl hends hend, hprinted⟩

theorem printed_nothing (decoded : List Decoded) :
    printed (decoded ++ [⟨"", 0⟩]) = printed decoded := by
  simp [printed, Sink.line]

theorem text_printed_replacement (decoded : List Decoded) :
    (printed (decoded ++ [⟨"\uFFFD", 1⟩])).text = (printed decoded).text ++ "\uFFFD\n" := by
  have hline : linesOf [⟨"\uFFFD", 1⟩] = ["\uFFFD"] := by decide
  have hlast : String.join ["\uFFFD" ++ "\n"] = "\uFFFD\n" := by decide
  rw [printed, text_of_lines, linesOf_append, hline, List.map_append, String.join_append, printed,
    text_of_lines, String.append_assoc]
  congr 2

theorem flatten_chunksOf (config : Config) (parts : List (List UInt8)) :
    (chunksOf config parts).flatten = parts.flatten := by
  have hcome := (Wire.plan parts none).flatten_pieces config.readBufferSize.toNat
  rwa [Wire.pieces_plan, Wire.toCome_plan] at hcome

/-- What a session has counted whose chunks have all been decoded. -/
def counted (chunks : List (List UInt8)) : Stats :=
  Stats.zero.addChunks chunks (joined (shown [] chunks)).replacements

/-- The session reports that it ended like this after that time and has counted that. -/
def Reports (config : Config) (timestamp : String) (t : Transcript) (elapsedMs : Nat)
    (termination : Termination) (stats : Stats) : Prop :=
  t.result = some (.ok
    ⟨timestamp, config.target, config.mode, elapsedMs / 1000, .closed, termination, stats⟩)

/-- What the end of the stream adds, when all chunks have been decoded and the peer closes. -/
theorem run_close_of_decoded (timestamp : String) (hvalid : config.validate = .ok ())
    (hmode : config.mode = .receive) (hopened : dial network config = .opened c)
    (hpeer : c.wire = .plan parts (some .close))
    (hext : config.strictUtf8 = true → Extendable parts.flatten) :
    let chunks := chunksOf config parts
    let t := run network config (.empty none) .never timestamp
    ((∀ tail, ¬ EndsInside parts.flatten tail) →
      Reports config timestamp t 0 .peerClosed (counted chunks) ∧
        t.sink = printed (shown [] chunks)) ∧
    ∀ tail, EndsInside parts.flatten tail →
      (config.strictUtf8 = false →
        Reports config timestamp t 0 .peerClosed ((counted chunks).recordReplacements 1) ∧
        t.sink = printed (shown [] chunks ++ [⟨"\uFFFD", 1⟩])) ∧
      (config.strictUtf8 = true →
        t.result = some (.error (.decode ⟨parts.flatten.length - tail.length, tail⟩)) ∧
        t.sink = printed (shown [] chunks)) := by
  intro chunks t
  rw [← flatten_chunksOf config] at hext ⊢
  obtain ⟨hresult, hsink⟩ := @run_peer_close network config c parts timestamp hvalid hmode hopened
    hpeer
  have hreplacements (last : Decoded) : (joined (shown [] chunks ++ [last])).replacements =
      (joined (shown [] chunks)).replacements + last.replacements := by
    rw [Decoder.joined_append]
    simp [joined]
  refine ⟨fun hwhole => ?_, fun tail htail => ⟨fun hlossy => ?_, fun hstrict => ?_⟩⟩
  · obtain ⟨decoder, hall⟩ :=
      Decoder.decodeAll_whole (fun hmode => hext (DecodeMode.ofStrict_eq_strict.mp hmode)) hwhole
    rw [resultOf, hall] at hresult
    rw [hall] at hsink
    refine ⟨hresult.trans ?_, hsink.trans (printed_nothing _)⟩
    rw [hreplacements]
    rfl
  · obtain ⟨decoder, hall⟩ := Decoder.decodeAll_lossy_inside htail
    have hmode : DecodeMode.ofStrict config.strictUtf8 = .lossy := by rw [hlossy]; rfl
    rw [resultOf, hmode, hall] at hresult
    rw [hmode, hall] at hsink
    refine ⟨hresult.trans ?_, hsink⟩
    rw [hreplacements]
    rfl
  · obtain ⟨decoder, hall⟩ := Decoder.decodeAll_strict_inside (hext hstrict) htail
    rw [resultOf, DecodeMode.ofStrict_eq_strict.mpr hstrict, hall] at hresult
    rw [DecodeMode.ofStrict_eq_strict.mpr hstrict, hall] at hsink
    exact ⟨hresult, hsink⟩

/-- **How the peer ends changes the end of a session only.** Of three sessions that receive the same
parts, the peer of one closes the connection, that of another breaks it off, and that of the third
waits until the session is asked to stop. If a chunk cannot be decoded, they fail alike. Otherwise
they print the same for the parts, and only the first goes on: it replaces or refuses what there is
of a character that is not complete. -/
theorem ending_matters_at_the_end {network : Option Ending → Network}
    {c : Option Ending → Connection} (hvalid : config.validate = .ok ())
    (hmode : config.mode = .receive)
    (hopened : ∀ ending, dial (network ending) config = .opened (c ending))
    (hpeer : ∀ ending, (c ending).wire = .plan parts ending)
    (hmoment : shutdown.moment = .drained ∨ ∃ ms, 0 < ms ∧ shutdown.moment = .after ms) :
    let closing := run (network (some .close)) config (.empty none) .never timestamp
    let stopped := run (network none) config (.empty none) shutdown timestamp
    let broken := run (network (some .reset)) config (.empty none) .never timestamp
    (∀ bad, config.strictUtf8 = true → FailsInside (chunksOf config parts) bad →
      (∀ t ∈ [closing, stopped, broken], t.result = some (.error (.decode bad))) ∧
      closing.sink = stopped.sink ∧ broken.sink = stopped.sink) ∧
    ((config.strictUtf8 = true → ∀ bad, ¬ FailsInside (chunksOf config parts) bad) → ∃ stats,
      Reports config timestamp stopped (shutdown.moment.elapsed 0) .shutdown stats ∧
      broken.result = some (.error (.read .resetByPeer)) ∧ broken.sink = stopped.sink ∧
      ((∀ tail, ¬ EndsInside parts.flatten tail) →
        Reports config timestamp closing 0 .peerClosed stats ∧ closing.sink = stopped.sink) ∧
      ∀ tail, EndsInside parts.flatten tail →
        (config.strictUtf8 = false →
          Reports config timestamp closing 0 .peerClosed (stats.recordReplacements 1) ∧
          closing.sink.text = stopped.sink.text ++ "\uFFFD\n") ∧
        (config.strictUtf8 = true →
          closing.result =
            some (.error (.decode ⟨parts.flatten.length - tail.length, tail⟩)) ∧
          closing.sink = stopped.sink)) := by
  intro closing stopped broken
  let chunks := chunksOf config parts
  let fed := (Decoder.new (.ofStrict config.strictUtf8)).feedAll chunks
  have hwaits : shutdown.moment.chunks = none ∧ shutdown.moment.endsWait = true := by
    rcases hmoment with hdrained | ⟨_ | ms, hpos, hafter⟩
    · rw [hdrained]
      exact ⟨rfl, rfl⟩
    · exact absurd hpos (Nat.lt_irrefl 0)
    · rw [hafter]
      exact ⟨rfl, rfl⟩
  obtain ⟨hclosingBad, -⟩ := run_feed .never timestamp hvalid hmode
    (hopened (some .close)) (hpeer (some .close)) rfl
  obtain ⟨hstoppedBad, -, hstopped⟩ := run_feed shutdown timestamp hvalid hmode
    (hopened none) (hpeer none) hwaits.1
  obtain ⟨hbrokenBad, hbroken, -⟩ := run_feed .never timestamp hvalid hmode
    (hopened (some .reset)) (hpeer (some .reset)) rfl
  refine ⟨fun bad hstrict hfails => ?_, fun hfine => ?_⟩
  · have hfailure : fed.failure = some bad := by
      simp only [fed, hstrict, DecodeMode.ofStrict]
      exact hfails.failure_feedAll
    obtain ⟨hclosing, hclosingSink⟩ := hclosingBad bad hfailure
    obtain ⟨hstopped, hstoppedSink⟩ := hstoppedBad bad hfailure
    obtain ⟨hbroken, hbrokenSink⟩ := hbrokenBad bad hfailure
    refine ⟨?_, hclosingSink.trans hstoppedSink.symm, hbrokenSink.trans hstoppedSink.symm⟩
    simp only [List.mem_cons, List.not_mem_nil, or_false]
    rintro t (rfl | rfl | rfl)
    · exact hclosing
    · exact hstopped
    · exact hbroken
  · have hext : config.strictUtf8 = true → Extendable chunks.flatten := by
      intro hstrict
      refine Classical.byContradiction fun hnot => ?_
      obtain ⟨bad, hbad⟩ := Decoder.exists_failsInside_iff.mpr hnot
      exact hfine hstrict bad hbad
    have hfed := Decoder.feedAll_new fun hmode => hext (DecodeMode.ofStrict_eq_strict.mp hmode)
    have hfailure : fed.failure = none := by simp only [fed, chunks, hfed]
    obtain ⟨hstopped, hstoppedSink⟩ := hstopped hfailure rfl hwaits.2
    obtain ⟨hbroken, hbrokenSink⟩ := hbroken hfailure rfl
    rw [hfed] at hstopped hstoppedSink hbrokenSink
    obtain ⟨hwhole, hinside⟩ := run_close_of_decoded timestamp hvalid hmode
      (hopened (some .close)) (hpeer (some .close)) (flatten_chunksOf config parts ▸ hext)
    refine ⟨counted chunks, hstopped, hbroken, hbrokenSink.trans hstoppedSink.symm, ?_, ?_⟩
    · intro hnone
      obtain ⟨hreports, hsink⟩ := hwhole hnone
      exact ⟨hreports, hsink.trans hstoppedSink.symm⟩
    · intro tail htail
      obtain ⟨hlossy, hstrict⟩ := hinside tail htail
      refine ⟨fun hmode => ?_, fun hmode => ?_⟩
      · obtain ⟨hreports, hsink⟩ := hlossy hmode
        refine ⟨hreports, ?_⟩
        rw [hsink, text_printed_replacement, hstoppedSink]
      · obtain ⟨hfailed, hsink⟩ := hstrict hmode
        exact ⟨hfailed, hsink.trans hstoppedSink.symm⟩

/-- A session that receives `a` and half an `é`, with three ends. -/
theorem ending_matters_at_the_end_cut :
    let config := { Config.standard with mode := .receive }
    let session (ending : Option Ending) (shutdown : Shutdown) :=
      run ⟨fun _ => .ok [.v4 .loopback], fun address =>
        .accepts address address (.plan [[0x61, 0xC3]] ending)⟩ config (.empty none) shutdown ""
    ∃ stats, Reports config "" (session none ⟨.drained, []⟩) 0 .shutdown stats ∧
      (session (some .reset) .never).result = some (.error (.read .resetByPeer)) ∧
      Reports config "" (session (some .close) .never) 0 .peerClosed
        (stats.recordReplacements 1) := by
  intro config session
  obtain ⟨-, hdecoded⟩ := @ending_matters_at_the_end config ⟨.drained, []⟩ "" [[0x61, 0xC3]]
    (fun ending => ⟨fun _ => .ok [.v4 .loopback], fun address =>
      .accepts address address (.plan [[0x61, 0xC3]] ending)⟩) _
    (Config.validate_eq_ok.mpr (by decide)) rfl (fun _ => rfl) (fun _ => rfl) (.inl rfl)
  obtain ⟨stats, hstopped, hbroken, -, -, hinside⟩ := hdecoded nofun
  have hends : EndsInside [0x61, 0xC3] [0xC3] := Utf8.endsInside_iff.mpr (by decide)
  exact ⟨stats, hstopped, hbroken, ((hinside _ hends).1 rfl).1⟩

end Session

end LinkProbe
