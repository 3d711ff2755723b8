import LinkProbe.Proofs.Connection.Attempts
import LinkProbe.Proofs.Receiver.Runs
import LinkProbe.Proofs.Session.Work

/-!
# Sessions that receive

* `Config.room_of_validate`: a configuration that makes sense has room for some bytes.
* `Session.run_receives`: a session from its first move to its report, when the peer sends its parts
  and closes.
-/

namespace LinkProbe

open Decoder (joined)
open Utf8 (Replaced)

/-! ## Before the work -/

theorem Config.validate_eq_ok {config : Config} : config.validate = .ok () ↔
    Text.isBlankText config.host = false ∧ config.port ≠ 0 ∧ config.intervalMs ≠ 0 ∧
      config.connectTimeoutMs ≠ some 0 ∧ config.readBufferSize ≠ 0 ∧
      config.readBufferSize ≤ maxReadBufferSize := by
  unfold validate
  by_cases hhost : Text.isBlankText config.host <;> by_cases hport : config.port = 0 <;>
    by_cases hinterval : config.intervalMs = 0 <;>
    by_cases htimeout : config.connectTimeoutMs = some 0 <;>
    simp [hhost, hport, hinterval, htimeout, UInt64.not_lt]

/-- A read has room for as many bytes as a configuration that makes sense names. -/
theorem Config.room_of_validate {config : Config} (h : config.validate = .ok ()) :
    Wire.room config.readBufferSize.toNat = config.readBufferSize.toNat := by
  obtain ⟨-, -, -, -, hsize, -⟩ := validate_eq_ok.mp h
  rw [Wire.room, if_neg]
  simpa [← UInt64.toNat_inj] using hsize

namespace Session

/-- The text of a sink that has taken the notice and then lines. -/
theorem text_of_lines (decoded : List Decoded) :
    Sink.text ⟨#[notice, "\n"] ++ (decoded.flatMap fun d => Sink.line d.text).toArray, none⟩ =
      "connected\n" ++ .join ((linesOf decoded).map (· ++ "\n")) := by
  rw [Sink.text, ← join_flatMap_line]
  simp [String.join_cons, notice, ← String.append_assoc]

/-- The work of a session that replaces bad pieces, when the peer sends its parts and closes. -/
theorem receive_close {config : Config} {w : Work} (hlossy : config.strictUtf8 = false)
    (hroom : w.sink.room = none) (hstate : w.connection.state = .opened)
    (h : w.connection.wire.Follows (some .close)) :
    ∃ chunks e, chunks.flatten = w.connection.wire.toCome ∧
      chunks.length = w.connection.wire.readsToCome config.readBufferSize.toNat ∧
      e.state = .closed ∧
      receive config .never w = (.ended .peerClosed,
        let desk := (⟨.new .lossy, w.sink, w.stats⟩ : Receiver.Desk).after chunks
          ((Decoder.new .lossy).decodeAll chunks)
        { w with connection := e, sink := desk.sink, stats := desk.stats }) := by
  have hlogging : DecodeMode.ofStrict config.strictUtf8 = .lossy := by rw [hlossy]; rfl
  obtain ⟨chunks, e, hcome, hreads, hclosed, hrun⟩ :=
    @Receiver.run_lossy_close config.readBufferSize.toNat (w.connection.note (.logging .lossy))
      w.sink w.stats hroom hstate h
  rw [← hlogging] at hrun
  exact ⟨chunks, e, hcome, hreads, hclosed, hlogging ▸ receive_of_run rfl hrun⟩

/-- **A session with a peer that sends its parts and then closes** receives all of them and writes
down the text of the whole, with its bad pieces replaced, on lines that depend on how the parts and
the reads cut it. -/
theorem run_receives {network : Network} {config : Config} {c : Connection}
    {parts : List (List UInt8)} {timestamp : String} (hvalid : config.validate = .ok ())
    (hmode : config.mode = .receive) (hlossy : config.strictUtf8 = false)
    (hopened : Connection.connect network config.host config.port
      (config.connectTimeoutMs.map UInt64.toNat) #[.connecting config.target] = .opened c)
    (hpeer : c.wire = .plan parts (some .close)) :
    ∃ report whole lines,
      (run network config (.empty none) .never timestamp).result = some (.ok report) ∧
      report.termination = .peerClosed ∧ report.finalState = .closed ∧
      report.stats.messagesSent = 0 ∧ report.stats.bytesSent = 0 ∧
      report.stats.bytesReceived = (parts.map List.length).sum ∧
      report.stats.chunksReceived = (parts.map fun part =>
        (part.length + config.readBufferSize.toNat - 1) / config.readBufferSize.toNat).sum ∧
      (∀ other, Replaced parts.flatten other ↔ other = whole) ∧
      report.stats.replacements = whole.replacements ∧
      (∀ line ∈ lines, line ≠ "") ∧ .join lines = whole.text ∧
      (run network config (.empty none) .never timestamp).sink.text =
        "connected\n" ++ .join (lines.map (· ++ "\n")) := by
  have hstate := Connection.state_connect hopened
  have hroom := Config.room_of_validate hvalid
  have hfollows : c.wire.Follows (some .close) := hpeer ▸ Wire.follows_plan _ _
  let w : Work := ⟨c, ⟨#[notice, "\n"], none⟩, .zero, 0⟩
  obtain ⟨chunks, e, hcome, hreads, hclosed, hreceive⟩ :=
    @receive_close config w hlossy rfl hstate hfollows
  have hrun : run network config (.empty none) .never timestamp =
      conclude config .never timestamp (receive config .never w) := by
    rw [run, hvalid]
    simp only [hopened, runMode, hmode]
    rfl
  rw [hpeer, Wire.toCome_plan] at hcome
  rw [hpeer, Wire.readsToCome_plan] at hreads
  let replies := (Decoder.new .lossy).decodeAll chunks
  have hwhole (other : Decoded) :
      Replaced parts.flatten other ↔ other = joined replies.decoded := by
    rw [Utf8.replaced_iff, ← hcome, Decoder.joined_decodeAll_lossy]
  rw [hrun, hreceive]
  refine ⟨_, joined replies.decoded, linesOf replies.decoded, rfl, rfl, ?_, rfl, rfl, ?_, ?_,
    hwhole, ?_, ?_, join_linesOf _, text_of_lines _⟩
  · show e.close.state = .closed
    rw [Connection.close_closed hclosed, hclosed]
  · show 0 + chunks.flatten.length = _
    rw [Nat.zero_add, hcome, List.length_flatten]
  · show 0 + chunks.length = _
    rw [Nat.zero_add, hreads]
    unfold Wire.readsOf
    rw [hroom]
  · exact Nat.zero_add _
  · intro line hline
    simpa using (List.mem_filter.mp hline).2

/-- An `é` that is cut in two. -/
theorem run_receives_cut :
    ∃ report, (run ⟨fun _ => .ok [.v4 .loopback], fun address =>
        .accepts address address (.plan [[0xC3], [0xA9]] (some .close))⟩
        { Config.standard with mode := .receive } (.empty none) .never "").result =
          some (.ok report) ∧
      report.stats.bytesReceived = 2 ∧ report.stats.chunksReceived = 2 := by
  obtain ⟨report, -, -, hreport, -, -, -, -, hbytes, hchunks, -⟩ :=
    @run_receives ⟨fun _ => .ok [.v4 .loopback], fun address =>
      .accepts address address (.plan [[0xC3], [0xA9]] (some .close))⟩
      { Config.standard with mode := .receive } _ [[0xC3], [0xA9]] ""
      (Config.validate_eq_ok.mpr (by decide)) rfl rfl rfl rfl
  exact ⟨report, hreport, hbytes, hchunks⟩

end Session

end LinkProbe
