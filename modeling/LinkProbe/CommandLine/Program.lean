import LinkProbe.CommandLine.Arguments
import LinkProbe.Config.Document
import LinkProbe.Report.Destination
import LinkProbe.Session

/-!
# The program

What the program does with its arguments, stage by stage: recognise the form of the report, read
the configuration, check it, hold the session, write the report.

* `Program.prepare`: the stages before the session.
* `Program.deliver`: the stages after it.
* `Program.run`: all of them.
-/

namespace LinkProbe.CommandLine

open Session (Transcript)

/-- When the user interrupts the program. -/
inductive Interruption where
  | never
  /-- Once it waits: before its first payload, or when all that the peer has sent is read. -/
  | waiting
  /-- At some other moment of the session. -/
  | during (moment : Moment)
deriving DecidableEq, Repr

instance : Coe Bool Interruption := ⟨fun waits => if waits then .waiting else .never⟩

/-- What the program finds around it. -/
structure Machine where
  network : Network
  /-- The content of a file. -/
  contentOf : String → Except IoFailure (List UInt8)
  /-- A place for a file. -/
  destination : String → Destination
  interrupted : Interruption
  /-- The time at which the session ends. -/
  timestamp : String

/-- What the program leaves behind. -/
structure Result where
  /-- The exit status, unless the program never ends. -/
  status : Option Nat
  output : String
  log : Array LogLine
  /-- The wrong usage that the program was ended by. -/
  usage : Option UsageFault
  /-- The place of the report, if one was written or was to be. -/
  written : Option Destination
  /-- The connection, if one was opened. -/
  connection : Option Connection

/-- What a session is to be held with, and the form of the report. -/
structure Plan where
  config : Config
  format : ReportFormat

namespace Program

/-- The name and version of the program. -/
def version : String := "tcp-probe 0.2.0\n"

/-- A line of the log. -/
def info (text : String) : LogLine := ⟨.info, text⟩

/-- The line that tells why the program has failed. -/
def failure (chain : List String) : LogLine := ⟨.error, ": ".intercalate chain⟩

/-! ## Help -/

/-- What each flag is for. -/
def purpose : Flag → String
  | .config => "JSON file with the configuration; flags override its values"
  | .host => "Host of the server under test"
  | .port => "Port of the server under test"
  | .mode => "What to do: send or receive"
  | .intervalMs => "Milliseconds between two payloads"
  | .count => "Stop after this many payloads"
  | .connectTimeoutMs => "Give up connecting after this many milliseconds"
  | .strictUtf8 => "Fail on invalid UTF-8 instead of replacing it"
  | .readBufferSize => "The most bytes to read at once"
  | .duration => "Seconds to run for; 0 stands for no end"
  | .output => "File for the session report"
  | .format => "Form of the report: json or prometheus"
  | .verbose => "Show debug lines"
  | .help => "Print help"
  | .version => "Print version"

/-- One line for each flag. -/
def help : String :=
  "Usage: tcp-probe [OPTIONS]\n\nOptions:\n" ++ .join (Flag.all.map fun flag =>
    let letter := match flag.short? with
      | some c => s!"-{c}, "
      | none => "    "
    s!"  {letter}{flag.label}\n          {purpose flag}\n")

/-! ## Before the session -/

/-- The forms of a report by name. -/
def formats : List (String × ReportFormat) :=
  [("json", .prettyJson), ("prometheus", .metrics), ("prom", .metrics)]

/-- The form that is asked for, in capitals or not. -/
def format (name : String) : Except (List String) ReportFormat :=
  match formats.lookup (Text.lowerCase name) with
  | some format => .ok format
  | none => .error [s!"Unsupported format: {name}. Use json or prometheus"]

/-- The configuration that the arguments build on, and what the log tells of it. -/
def base (machine : Machine) (a : Arguments) : Except ConfigFault Config × List LogLine :=
  match a.config with
  | some path =>
    (Config.ofFile path (machine.contentOf path),
      [info s!"Loading config from {Text.quoted path}"])
  | none => (.ok .standard, [])

/-- The log's words for the duration. -/
def durationText (seconds : Nat) : String :=
  if seconds = 0 then "infinite" else s!"{seconds} seconds"

/-- What the log tells before the session. -/
def preamble (config : Config) (a : Arguments) : List LogLine :=
  [info "Starting TCP probe...", info s!"   Target: {config.target}",
    info s!"   Mode: {config.mode.name}"] ++
  (if config.mode = .send then [info s!"   Interval: {config.intervalMs.toNat} ms"] else []) ++
  [info s!"   Duration: {durationText a.duration}"]

/-- The configuration in force is checked. -/
def checked (config : Config) : Except ConfigFault Config := config.validate.map fun _ => config

/-- What the session is to be held with, or why there will be none, and what the log tells. -/
def prepare (machine : Machine) (a : Arguments) : Except (List String) Plan × List LogLine :=
  match format a.format with
  | .error chain => (.error chain, [])
  | .ok format =>
    let (config, lines) := base machine a
    match config >>= fun config => checked (config.override a.settings) with
    | .error fault => (.error (Fault.config fault).chain, lines)
    | .ok config => (.ok ⟨config, format⟩, lines ++ preamble config a)

/-- When the session is to stop. -/
def shutdown (mode : Mode) (seconds : Nat) : Interruption → Shutdown
  | .never => if seconds = 0 then .never else ⟨.after (seconds * 1000), [.timeOver]⟩
  | .waiting =>
    match mode with
    | .send => ⟨.after 0, [.interrupted]⟩
    | .receive => ⟨.drained, [.interrupted]⟩
  | .during moment => ⟨moment, [.interrupted]⟩

/-! ## After the session -/

/-- A number with blanks before it, ten characters wide. -/
def wide (value : Nat) : String := .ofList (List.leftpad 10 ' ' (toString value).toList)

/-- What the log tells of the numbers that matter in the mode. -/
def counters (r : Report) : List LogLine :=
  match r.mode with
  | .send => [info s!"  Messages sent:   {wide r.stats.messagesSent}",
      info s!"  Bytes sent:      {wide r.stats.bytesSent}"]
  | .receive => [info s!"  Chunks received: {wide r.stats.chunksReceived}",
      info s!"  Bytes received:  {wide r.stats.bytesReceived}",
      info s!"  Replaced chars:  {wide r.stats.replacements}"]

/-- A line across the log. -/
def rule : LogLine := info "============================================"

/-- What the log tells of the session. -/
def summary (r : Report) : List LogLine :=
  [info "", rule, info "             Session Summary", rule, info "",
    info s!"  Target:       {r.target}",
    info s!"  Mode:         {r.mode.name}",
    info s!"  Duration:     {r.seconds} seconds",
    info s!"  Ended by:     {r.termination.text}",
    info s!"  Final state:  {r.finalState.name}",
    info ""] ++ counters r ++ [info "", rule]

/-- Writes the report if that is asked for. -/
def deliver (machine : Machine) (a : Arguments) (format : ReportFormat) (r : Report) :
    Except (List String) (List LogLine) × Option Destination :=
  match a.output with
  | none => (.ok (summary r), none)
  | some path =>
    match r.export format (machine.destination path) with
    | (.error fault, place) => (.error fault.chain, some place)
    | (.ok (), place) =>
      (.ok (info s!"Report written to {Text.quoted path}" :: summary r), some place)

/-! ## All of it -/

/-- What the log shows of the lines. -/
def shown (a : Arguments) (lines : List LogLine) : Array LogLine :=
  (lines.filter fun line => (if a.verbose then Level.debug else .info).shown line.level).toArray

/-- What follows the session: the exit status, what the log tells, and the place of the report. -/
def finish (machine : Machine) (a : Arguments) (plan : Plan) :
    Except Fault Report → Nat × List LogLine × Option Destination
  | .error fault =>
    (1, [failure (s!"Probe of {plan.config.target} failed" :: fault.chain)], none)
  | .ok report =>
    match deliver machine a plan.format report with
    | (.error chain, place) => (1, [failure chain], place)
    | (.ok lines, place) => (0, lines, place)

/-- The session and what follows it. -/
def hold (machine : Machine) (a : Arguments) (plan : Plan) (lines : List LogLine) : Result :=
  let t := Session.run machine.network plan.config (.empty none)
    (shutdown plan.config.mode a.duration machine.interrupted) machine.timestamp
  let lines := lines ++ t.log.toList.map Event.line
  match t.result with
  | none => ⟨none, t.sink.text, shown a lines, none, none, t.connection⟩
  | some result =>
    let (status, more, place) := finish machine a plan result
    ⟨some status, t.sink.text, shown a (lines ++ more), none, place, t.connection⟩

/-- The program with arguments that make sense. -/
def perform (machine : Machine) (a : Arguments) : Result :=
  match prepare machine a with
  | (.error chain, lines) => ⟨some 1, "", shown a (lines ++ [failure chain]), none, none, none⟩
  | (.ok plan, lines) => hold machine a plan lines

/-- The program. -/
def run (machine : Machine) (arguments : List String) : Result :=
  match Arguments.ofList arguments with
  | .error (.fault fault) => ⟨some 2, "", #[], some fault, none, none⟩
  | .error .version => ⟨some 0, version, #[], none, none, none⟩
  | .error .help => ⟨some 0, help, #[], none, none, none⟩
  | .ok a => perform machine a

end Program

end LinkProbe.CommandLine
