import LinkProbe.Proofs.Receiver.Exits

/-!
# Runs of a receiver in a row

A sink that refuses a text ends a run, and the receiver can be run again. It goes on where it was:
the chunk whose text was refused has been received, and of a character that it cut the decoder still
holds the first bytes.

* `Receiver.Resumed`: runs in a row, of which the last one comes to the end of the connection.
* `Receiver.Stage`: how far a lossy receiver has come with a stream.
* `Receiver.stage_run`, `Receiver.resumed_told`: one run, and all of them.
* `Receiver.counts_on_every_exit`: what is counted on every exit, and what all runs make of a
  stream.
-/

namespace LinkProbe

open Decoder (Replies joined shown after)
open Utf8 (Replaced shownText divide scan unfinished)

namespace Connection

/-- A connection that is open or over is so after anything that the peer does. -/
theorem state_acts (c : Connection) (acts : List Wire.Act) :
    (c.performAll (acts.map .peer)).state = c.state := by
  induction acts generalizing c with
  | nil => rfl
  | cons act acts ih => exact ih _

/-- No more chunks come when the connection is over. -/
theorem state_of_ended {σ : Type} {consumer : Consumer σ} {capacity : Nat} {c d : Connection}
    {s t : σ} (husable : c.state = .opened ∨ c.state = .closed)
    (h : c.consume consumer capacity s = (.ended, t, d)) : d.state = .closed := by
  obtain ⟨chunks, e, u, htakes, hstops⟩ := consume_iff.mp h
  have he := htakes.state
  cases hstops with
  | ended hread =>
    rcases e.read_cases capacity with ⟨hclosed, hlast⟩ | ⟨hgoing, ⟨_, -, -, hlast⟩ | ⟨-, hlast⟩ |
      ⟨-, hlast⟩ | ⟨_, _, -, hlast⟩⟩ <;> rw [hread] at hlast <;> cases hlast
    · exact hclosed
    · have hopened : e.state = .opened := (he ▸ husable).resolve_right hgoing
      rw [markClosed_opened (by exact hopened)]

end Connection

namespace Receiver

variable {r : Receiver} {c d : Connection} {sink : Sink} {stats : Stats} {bytes : List UInt8}
  {said : Decoded}

/-- Runs of a receiver in a row, each with a sink of its own. All but the last end because the sink
refuses a text, and the last one comes to the end of the connection. Between them the peer may do
anything. With them go the texts that the sinks were offered, the chunks that were received and the
statistics in the end. -/
inductive Resumed : Receiver → Connection → Stats → List String → List (List UInt8) → Stats → Prop
  | ended {r : Receiver} {c d : Connection} {sink : Sink} {stats : Stats} {desk : Desk}
      (run : r.run c sink stats = (.ended, desk, d)) :
      Resumed r c stats (r.offered c sink stats) (c.handedOut (.receive r sink stats)) desk.stats
  | refused {r : Receiver} {c d : Connection} {sink : Sink} {stats last : Stats} {desk : Desk}
      {source : IoFailure} {acts : List Wire.Act} {texts : List String}
      {chunks : List (List UInt8)}
      (run : r.run c sink stats = (.failed (.output source), desk, d))
      (rest : Resumed { r with decoder := desk.decoder } (d.performAll (acts.map .peer)) desk.stats
        texts chunks last) :
      Resumed r c stats (r.offered c sink stats ++ texts)
        (c.handedOut (.receive r sink stats) ++ chunks) last

/-! ## One run -/

/-- How far a lossy receiver has come with a stream of which it has received these bytes, and what
it has said to them. -/
inductive Stage (bytes : List UInt8) (said : Decoded) (decoder : Decoder) (c : Connection) : Prop
  | midway (usable : c.state = .opened ∨ c.state = .closed) (decoder : decoder = after .lossy bytes)
      (said : said = shownText (scan [] bytes).pieces.toList)
  /-- The end of the stream was told of. -/
  | finished (state : c.state = .closed)
      (decoder : decoder = { after .lossy bytes with held := [] })
      (said : said = shownText (divide bytes))

/-- Nothing that the peer does changes it. -/
theorem Stage.acts {decoder : Decoder} (h : Stage bytes said decoder c) (acts : List Wire.Act) :
    Stage bytes said decoder (c.performAll (acts.map .peer)) := by
  cases h with
  | midway husable hdecoder hsaid =>
    exact .midway (by rwa [Connection.state_acts]) hdecoder hsaid
  | finished hstate hdecoder hsaid =>
    exact .finished ((Connection.state_acts c acts).trans hstate) hdecoder hsaid

/-- What a lossy receiver says to the chunks of a run and, if it comes to that, to the end. -/
theorem said_midway (bytes : List UInt8) (chunks : List (List UInt8)) :
    let so_far := shownText (scan [] bytes).pieces.toList
    let fed := (after .lossy bytes).feedAll chunks
    let all := (after .lossy bytes).decodeAll chunks
    (⟨so_far.text ++ (joined fed.decoded).text,
        so_far.replacements + (joined fed.decoded).replacements⟩ : Decoded) =
      shownText (scan [] (bytes ++ chunks.flatten)).pieces.toList ∧
    (⟨so_far.text ++ (joined all.decoded).text,
        so_far.replacements + (joined all.decoded).replacements⟩ : Decoded) =
      shownText (divide (bytes ++ chunks.flatten)) := by
  have hlast (decoded : Decoded) : joined [decoded] = decoded := by simp [joined]
  simp only [Decoder.feedAll_after_lossy, Decoder.decodeAll_after_lossy]
  refine ⟨(Decoder.shownText_scan_append bytes chunks).symm, ?_⟩
  rw [divide, Decoder.shownText_append, Decoder.shownText_scan_append, Decoder.joined_append, hlast]
  simp only [String.append_assoc, Nat.add_assoc]

/-- A receiver that was told of the end has nothing more to say. -/
theorem run_over (hstate : c.state = .closed) (hheld : r.decoder.held = []) (sink : Sink)
    (stats : Stats) : (r.run c sink stats).1 = .ended ∧
      c.handedOut (.receive r sink stats) = [] ∧
      (r.replies c sink stats).decoded = [⟨"", 0⟩] := by
  have hnone : c.handedOut (.receive r sink stats) = [] := by
    rw [Connection.handedOut_eq, Connection.contacts_closed hstate]
    rfl
  have hfinish : r.decoder.finish = (.ok ⟨"", 0⟩, { r.decoder with held := [] }) := by
    rw [Decoder.finish, if_pos (by rw [hheld]; rfl)]
  refine ⟨?_, hnone, ?_⟩
  · rw [r.run_closed hstate, Desk.finish, hfinish]
    rfl
  · rw [replies, Connection.consume_closed hstate, hnone]
    simp only [Decoder.decodeAll, Decoder.feedAll, hfinish]
    rfl

/-- What is said in the course of a run goes on with what was said before. -/
theorem stage_run (h : Stage bytes said r.decoder c) (sink : Sink) (stats : Stats) :
    let stream := bytes ++ (c.handedOut (.receive r sink stats)).flatten
    let now : Decoded := ⟨said.text ++ (joined (r.replies c sink stats).decoded).text,
      said.replacements + (joined (r.replies c sink stats).decoded).replacements⟩
    ((r.run c sink stats).1 = .ended → now = shownText (divide stream)) ∧
      ∀ source, (r.run c sink stats).1 = .failed (.output source) →
        Stage stream now (r.run c sink stats).2.1.decoder (r.run c sink stats).2.2 := by
  intro stream now
  cases h with
  | finished hstate hdecoder hsaid =>
    obtain ⟨hended, hnone, hempty⟩ := run_over hstate (by rw [hdecoder]) sink stats
    refine ⟨fun _ => ?_, fun source hfailed => by rw [hended] at hfailed; cases hfailed⟩
    simp only [now, stream, hnone, hempty, hsaid]
    simp [joined]
  | midway husable hdecoder hsaid =>
    obtain ⟨hfed, hall⟩ := said_midway bytes (c.handedOut (.receive r sink stats))
    have hlast := (r.exits_run c sink stats).decoder
    rcases hconsume : c.consume consumer r.capacity ⟨r.decoder, sink, stats⟩ with ⟨flow, desk, d⟩
    by_cases hflow : flow = .ended
    · -- The decoder was told of the end, whether its text was refused or not.
      subst hflow
      have hreplies : r.replies c sink stats =
          r.decoder.decodeAll (c.handedOut (.receive r sink stats)) := by rw [replies, hconsume]
      have hnow : now = shownText (divide stream) := by
        simp only [now, hreplies, hsaid, hdecoder]
        exact hall
      refine ⟨fun _ => hnow, fun source _ => .finished ?_ ?_ hnow⟩
      · rw [r.state_run, hconsume]
        exact Connection.state_of_ended husable hconsume
      · rw [hlast, hreplies, hdecoder, Decoder.decodeAll_after_lossy]
    · have hrun := r.run_of_consume hconsume hflow
      have hreplies : r.replies c sink stats =
          r.decoder.feedAll (c.handedOut (.receive r sink stats)) := by
        rw [replies, hconsume]
        cases flow with
        | ended => exact absurd rfl hflow
        | failed _ | waiting => rfl
      refine ⟨fun hended => absurd (by rw [hrun] at hended; exact hended) hflow,
        fun source hfailed => .midway ?_ ?_ ?_⟩
      · rw [hrun] at hfailed
        obtain rfl : flow = .failed (.output source) := hfailed
        obtain ⟨-, hstate, -⟩ :=
          (r.exits_run c sink stats).readable (.output source) desk d hconsume (.inr ⟨_, rfl⟩)
        rw [hrun]
        show d.state = .opened ∨ d.state = .closed
        rwa [hstate]
      · rw [hlast, hreplies, hdecoder, Decoder.feedAll_after_lossy]
      · simp only [now, hreplies, hsaid, hdecoder]
        exact hfed

/-! ## Runs in a row -/

variable {texts : List String} {chunks : List (List UInt8)} {last : Stats}

/-- All that was said, before the runs and in the course of them, is what is shown for the stream,
and the statistics have counted it. -/
theorem resumed_told (h : Resumed r c stats texts chunks last)
    (hstage : Stage bytes said r.decoder c) :
    ∃ replaced, last = stats.addChunks chunks replaced ∧
      (⟨said.text ++ .join texts, said.replacements + replaced⟩ : Decoded) =
        shownText (divide (bytes ++ chunks.flatten)) := by
  induction h generalizing bytes said with
  | @ended r c d sink stats desk hrun =>
    obtain ⟨hend, -⟩ := stage_run hstage sink stats
    have hexits := r.exits_run c sink stats
    have hcounted := hexits.counted
    rw [hrun] at hend hcounted
    refine ⟨_, hcounted, ?_⟩
    rw [hexits.texts, join_linesOf]
    exact hend rfl
  | @refused r c d sink stats last desk source acts texts chunks hrun _ ih =>
    obtain ⟨-, hmore⟩ := stage_run hstage sink stats
    have hexits := r.exits_run c sink stats
    have hcounted := hexits.counted
    rw [hrun] at hmore hcounted
    obtain ⟨replaced, hlast, hall⟩ := ih ((hmore source rfl).acts acts)
    refine ⟨_, by rw [hlast, hcounted, Stats.addChunks_append], ?_⟩
    rw [String.join_append, hexits.texts, join_linesOf, List.flatten_append, ← List.append_assoc,
      ← hall, String.append_assoc, Nat.add_assoc]

/-- **Every exit of a run leaves the counters, the decoder and the connection as they must be**, and
so a lossy receiver that is run again whenever a sink refuses a text, up to the end of the
connection, offers its sinks what is shown for all bytes that the runs have received where bad
pieces are replaced, and counts these. -/
theorem counts_on_every_exit (c : Connection) (stats : Stats) :
    (∀ (r : Receiver) (sink : Sink), r.Exits c sink stats) ∧
    ∀ (capacity : Nat) (texts : List String) (chunks : List (List UInt8)) (last : Stats),
      c.state = .opened ∨ c.state = .closed →
      Resumed (.new .lossy capacity) c stats texts chunks last →
      ∃ replaced, last = stats.addChunks chunks replaced ∧
        ∀ whole, Replaced chunks.flatten whole ↔ whole = ⟨.join texts, replaced⟩ := by
  refine ⟨fun r sink => r.exits_run c sink stats,
    fun capacity texts chunks last husable hresumed => ?_⟩
  have hstart : Stage [] ⟨"", 0⟩ (Decoder.new .lossy) c := .midway husable rfl rfl
  obtain ⟨replaced, hlast, hall⟩ := resumed_told hresumed hstart
  refine ⟨replaced, hlast, fun whole => ?_⟩
  rw [Utf8.replaced_iff, ← List.nil_append chunks.flatten, ← hall, String.empty_append,
    Nat.zero_add]

/-- A euro sign that is cut in two by the end of a chunk, whose text the first sink refuses: the
second run completes it. -/
theorem counts_on_every_exit_euro : ∃ (c : Connection) (texts : List String)
    (chunks : List (List UInt8)) (last : Stats), c.state = .opened ∧
    Resumed (.new .lossy 16) c .zero texts chunks last ∧
    chunks.flatten = [0x61, 0xE2, 0x82, 0xAC] ∧ .join texts = "a€" ∧
    last.bytesReceived = 4 ∧ last.replacements = 0 := by
  let c : Connection := ⟨⟨.v4 .loopback, 8999⟩, ⟨.v4 .loopback, 8999⟩, .opened,
    .plan [[0x61, 0xE2], [0x82, 0xAC]] (some .close), #[]⟩
  let r : Receiver := new .lossy 16
  let start : Desk := ⟨r.decoder, .empty (some 0), .zero⟩
  let middle : Desk := ⟨⟨.lossy, [0xE2], 1⟩, .empty (some 0), ⟨0, 0, 1, 2, 0⟩⟩
  let d : Connection := ({ c with wire := (c.wire.read 16).2 } : Connection).note (.received 2)
  have hstops : c.Stops consumer 16 start (.failed (.output Sink.full)) d middle :=
    @Connection.Stops.refused _ consumer 16 c _ start middle [0x61, 0xE2] _ rfl rfl
  have hfirst : r.run c start.sink start.stats = _ := r.run_refused hstops.consume
  let r' : Receiver := { r with decoder := middle.decoder }
  let again : Desk := ⟨r'.decoder, .empty none, middle.stats⟩
  let done : Desk := ⟨⟨.lossy, [], 4⟩, ⟨#["€", "\n"], none⟩, ⟨0, 0, 2, 4, 0⟩⟩
  let e : Connection := ({ d with wire := (d.wire.read 16).2 } : Connection).note (.received 2)
  have htakes : d.Takes consumer 16 again [[0x82, 0xAC]] e done :=
    @Connection.Takes.chunk _ consumer 16 d _ _ again _ done [0x82, 0xAC] [] rfl rfl .none
  have hlast : e.Stops consumer 16 done .ended (e.read (.exact 16)).2 done := .ended rfl
  have hsecond : r'.run d again.sink again.stats = _ :=
    r'.run_of_ended (htakes.consume.trans hlast.consume)
  let texts := r.offered c start.sink .zero ++ r'.offered d again.sink again.stats
  let chunks := c.handedOut (.receive r start.sink .zero) ++
    d.handedOut (.receive r' again.sink again.stats)
  have hresumed : Resumed r c .zero texts chunks done.stats :=
    @Resumed.refused r c d start.sink .zero done.stats middle _ [] _ _ hfirst (.ended hsecond)
  obtain ⟨hexits, hall⟩ := counts_on_every_exit c .zero
  obtain ⟨_, -, hwhole⟩ := hall 16 texts chunks done.stats (.inl rfl) hresumed
  -- Both runs together have taken everything.
  have hfirstTaken := (hexits r start.sink).taken
  have hsecondTaken := ((counts_on_every_exit d middle.stats).1 r' again.sink).taken
  rw [hfirst] at hfirstTaken
  rw [hsecond] at hsecondTaken
  have hchunks : chunks.flatten = [0x61, 0xE2, 0x82, 0xAC] := by
    rw [show chunks.flatten = _ from List.flatten_append,
      (List.append_nil _).symm.trans hsecondTaken]
    exact hfirstTaken
  rw [hchunks] at hwhole
  have hshown : Replaced [0x61, 0xE2, 0x82, 0xAC] ⟨"a€", 0⟩ := Utf8.replaced_iff.mpr rfl
  obtain ⟨htext, -⟩ := Decoded.mk.inj ((hwhole _).mp hshown)
  exact ⟨c, texts, chunks, done.stats, rfl, hresumed, hchunks, htext.symm, rfl, rfl⟩

end Receiver

end LinkProbe
