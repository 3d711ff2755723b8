import LinkProbe.Proofs.Decoder.Agreement
import LinkProbe.Proofs.Session.Coherence

/-!
# Strict and lossy sessions

Two sessions that differ only in what they do with bytes that begin no character go the same way up
to the first such byte.

* `Session.run_peer_close`: a session with a peer that sends its parts and then closes, from the
  replies of its decoder.
* `Session.agree_until_bad_byte`: what two such sessions have in common.
-/

namespace LinkProbe.Session

open Decoder (Replies joined FailsAt)
open Utf8 (WellFormed BrokenAt)

variable {network : Network} {config : Config} {c : Connection} {parts : List (List UInt8)}
  {timestamp : String}

/-- The sink of a session that has taken the notice and the lines of these texts. -/
def printed (decoded : List Decoded) : Sink :=
  ⟨#[notice, "\n"] ++ (decoded.flatMap fun d => Sink.line d.text).toArray, none⟩

/-- The chunks that a session receives, when its peer sends these parts. -/
def chunksOf (config : Config) (parts : List (List UInt8)) : List (List UInt8) :=
  parts.flatMap (Wire.cut config.readBufferSize.toNat)

/-- What comes of a session that receives, from the replies of its decoder: it fails when that
does, and otherwise reports what it has counted. -/
def resultOf (config : Config) (timestamp : String) (chunks : List (List UInt8))
    (replies : Replies) : Except Fault Report :=
  match replies.failure with
  | some bad => .error (.decode bad)
  | none => .ok ⟨timestamp, config.target, config.mode, 0, .closed, .peerClosed,
      Stats.zero.addChunks chunks (joined replies.decoded).replacements⟩

/-- **A session with a peer that sends its parts and then closes** fails with the first failure of
its decoder, or reports on all parts, and has printed what was decoded. -/
theorem run_peer_close (hvalid : config.validate = .ok ()) (hmode : config.mode = .receive)
    (hopened : Connection.connect network config.host config.port
      (config.connectTimeoutMs.map UInt64.toNat) #[.connecting config.target] = .opened c)
    (hpeer : c.wire = .plan parts (some .close)) :
    let chunks := chunksOf config parts
    let replies := (Decoder.new (.ofStrict config.strictUtf8)).decodeAll chunks
    let t := run network config (.empty none) .never timestamp
    t.result = some (resultOf config timestamp chunks replies) ∧
      t.sink = printed replies.decoded := by
  intro chunks replies t
  let start : Work := ⟨c, ⟨#[notice, "\n"], none⟩, .zero, 0⟩
  have hrun : t = conclude config .never timestamp (receive config .never start) := by
    simp only [t, run, hvalid, hopened, runMode, hmode]
    rfl
  have hstate := Connection.state_connect hopened
  have hpieces : c.wire.pieces config.readBufferSize.toNat = chunks := by
    rw [hpeer, Wire.pieces_plan]
    rfl
  let d := c.note (.logging (.ofStrict config.strictUtf8))
  obtain ⟨desk, e, hreceiver, hsink, hall⟩ :=
    @Receiver.run_close config.readBufferSize.toNat d (.ofStrict config.strictUtf8) start.sink .zero
      rfl hstate (hpeer ▸ Wire.follows_plan parts (some .close))
  rw [show d.wire.pieces _ = chunks from hpieces] at hreceiver hsink hall
  rw [hrun, receive_of_run (w := start) rfl hreceiver]
  cases hfailure : replies.failure with
  | some bad =>
    rw [resultOf, hfailure]
    exact ⟨rfl, hsink⟩
  | none =>
    obtain ⟨hdesk, hclosed⟩ := hall hfailure
    rw [resultOf, hfailure]
    refine ⟨?_, hsink⟩
    have hfinal : e.close.state = .closed := by
      rw [Connection.close_closed hclosed, hclosed]
    show some (Except.ok (Report.mk timestamp config.target config.mode (0 / 1000)
      e.close.state .peerClosed desk.stats)) = _
    rw [hfinal, hdesk]
    rfl

/-- **Strict and lossy sessions agree until the first bad byte.** Where the parts encode a text,
both end with the same report and output. Otherwise the strict session fails with the first bad
piece of the parts, however they and the reads cut it, and has printed what the lossy session prints
for the chunks before the call that fails. -/
theorem agree_until_bad_byte (hvalid : config.validate = .ok ()) (hmode : config.mode = .receive)
    (hopened : Connection.connect network config.host config.port
      (config.connectTimeoutMs.map UInt64.toNat) #[.connecting config.target] = .opened c)
    (hpeer : c.wire = .plan parts (some .close)) :
    let session (strictUtf8 : Bool) :=
      run network { config with strictUtf8 } (.empty none) .never timestamp
    let chunks := chunksOf config parts
    (WellFormed parts.flatten → ∃ report, (session true).result = some (.ok report) ∧
      (session false).result = some (.ok report) ∧ report.stats.replacements = 0 ∧
      (session true).sink = (session false).sink) ∧
    (¬ WellFormed parts.flatten → ∃ bad report n decoded more,
      (session true).result = some (.error (.decode bad)) ∧
      (∀ other, BrokenAt parts.flatten other ↔ other = bad) ∧
      (session false).result = some (.ok report) ∧ 1 ≤ report.stats.replacements ∧
      FailsAt (.new .strict) chunks n bad ∧
      (∀ mode, ((Decoder.new mode).feedAll (chunks.take n)).decoded = decoded) ∧
      (session true).sink.text =
        "connected\n" ++ .join ((linesOf decoded).map (· ++ "\n")) ∧
      (session false).sink.text =
        "connected\n" ++ .join ((linesOf decoded ++ more).map (· ++ "\n"))) := by
  intro session chunks
  have hflatten : chunks.flatten = parts.flatten := by
    have hcome := (Wire.plan parts (some .close)).flatten_pieces config.readBufferSize.toNat
    rwa [Wire.pieces_plan, Wire.toCome_plan] at hcome
  let replies (strictUtf8 : Bool) := (Decoder.new (.ofStrict strictUtf8)).decodeAll chunks
  have hsession (strictUtf8 : Bool) :
      (session strictUtf8).result =
          some (resultOf config timestamp chunks (replies strictUtf8)) ∧
        (session strictUtf8).sink = printed (replies strictUtf8).decoded :=
    @run_peer_close network { config with strictUtf8 } c parts timestamp hvalid hmode hopened hpeer
  obtain ⟨hstrict, hstrictSink⟩ := hsession true
  obtain ⟨hlossy, hlossySink⟩ := hsession false
  have hnever : (replies false).failure = none := congrArg _ (Decoder.decodeAll_lossy chunks)
  have hreplaced := Decoder.replacements_decodeAll_eq_zero_iff chunks
  rw [resultOf, hnever] at hlossy
  rw [← hflatten]
  refine ⟨fun hwhole => ?_, fun hbroken => ?_⟩
  · obtain ⟨hfailure, hsame⟩ := Decoder.agree_of_wellFormed hwhole
    have hdecoded : (replies true).decoded = (replies false).decoded := hsame
    rw [resultOf, show (replies true).failure = none from hfailure, hdecoded] at hstrict
    rw [hdecoded, ← hlossySink] at hstrictSink
    exact ⟨_, hstrict, hlossy, (Nat.zero_add _).trans (hreplaced.mpr hwhole), hstrictSink⟩
  · obtain ⟨bad, n, hbad, hfails, hfailure, hfirst, more, hmore⟩ :=
      Decoder.agree_until_failure hbroken
    rw [resultOf, show (replies true).failure = some bad from hfailure] at hstrict
    have hlossyDecoded : (replies false).decoded = (replies true).decoded ++ more := hmore
    refine ⟨bad, _, n, (replies true).decoded, linesOf more, hstrict, ?_, hlossy, ?_, hfails,
      hfirst, ?_, ?_⟩
    · exact fun other => ⟨fun hother => hother.unique hbad, fun heq => heq ▸ hbad⟩
    · have hsome := mt hreplaced.mp hbroken
      show 1 ≤ 0 + (joined ((Decoder.new .lossy).decodeAll chunks).decoded).replacements
      omega
    · rw [hstrictSink]
      exact text_of_lines _
    · rw [hlossySink, hlossyDecoded, ← linesOf_append]
      exact text_of_lines _

/-- An `é` that is cut in two is printed by both sessions, and the strict one fails at the byte
behind it. -/
theorem agree_until_bad_byte_cut :
    let session (strictUtf8 : Bool) := run
      ⟨fun _ => .ok [.v4 .loopback], fun address =>
        .accepts address address (.plan [[0x61, 0xC3], [0xA9], [0x62, 0xFF]] (some .close))⟩
      { Config.standard with mode := .receive, strictUtf8 } (.empty none) .never ""
    (session true).result = some (.error (.decode ⟨4, [0xFF]⟩)) ∧
      ∃ report, (session false).result = some (.ok report) ∧ 1 ≤ report.stats.replacements := by
  intro session
  obtain ⟨-, hbroken⟩ := @agree_until_bad_byte
    ⟨fun _ => .ok [.v4 .loopback], fun address =>
      .accepts address address (.plan [[0x61, 0xC3], [0xA9], [0x62, 0xFF]] (some .close))⟩
    { Config.standard with mode := .receive } _ [[0x61, 0xC3], [0xA9], [0x62, 0xFF]] ""
    (Config.validate_eq_ok.mpr (by decide)) rfl rfl rfl
  obtain ⟨bad, report, -, -, -, hstrict, hbad, hlossy, hreplaced, -⟩ := hbroken (by decide)
  have hat : BrokenAt [0x61, 0xC3, 0xA9, 0x62, 0xFF] ⟨4, [0xFF]⟩ :=
    Decoder.brokenAt_iff.mpr (by decide)
  refine ⟨?_, report, hlossy, hreplaced⟩
  rw [(hbad _).mp hat]
  exact hstrict

end LinkProbe.Session
