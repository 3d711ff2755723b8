import LinkProbe.CommandLine.Flag
import LinkProbe.Config.Overrides

/-!
# The arguments of the program

Arguments are read from the left. A flag is `--name` or a letter behind one dash; letters of flags
without a value can be bundled. A value follows as the next argument, behind an equals sign or,
after a letter, at once. An argument that starts with a dash, and is not just a dash, is no value.

* `Arguments.ofList`: the arguments, or the first thing that ends the reading.
* `Arguments.set`: what a flag's value is for.
-/

namespace LinkProbe.CommandLine

/-- What the command line asks for. -/
structure Arguments where
  /-- The file with the configuration. -/
  config : Option String
  settings : Overrides
  /-- After how many seconds the session is to stop; zero stands for never. -/
  duration : Nat
  /-- The file for the report. -/
  output : Option String
  /-- The form of the report. -/
  format : String
  verbose : Bool
deriving DecidableEq, Repr

/-- What ends the reading of a command line before its end. -/
inductive Stop where
  | fault (fault : UsageFault)
  /-- The program's version is asked for. -/
  | version
  /-- Help is asked for. -/
  | help
deriving DecidableEq, Repr

namespace Arguments

/-- The arguments that have been given so far. -/
structure Draft where
  given : List Flag
  arguments : Arguments
deriving DecidableEq, Repr

/-- Nothing has been given. -/
def Draft.blank : Draft where
  given := []
  arguments := ⟨none, .none, 0, none, "json", false⟩

/-! ## Values -/

/-- A number of 64 bits. -/
def word (text : String) : Except ValueFault UInt64 :=
  match natural (UInt64.size - 1) text.toList with
  | .ok value => .ok (.ofNat value)
  | .error fault => .error (.number fault)

/-- A port: a number that fits in 64 bits with a sign and is then found to be in range. -/
def port (text : String) : Except ValueFault UInt16 :=
  match integer (UInt64.size / 2 - 1) text.toList with
  | .ok value =>
    if 0 ≤ value ∧ value < UInt16.size then .ok (.ofNat value.toNat)
    else .error (.outOfRange value (UInt16.size - 1))
  | .error fault => .error (.number fault)

/-- A truth value. -/
def truth (text : String) : Except ValueFault Bool :=
  match text with
  | "true" => .ok true
  | "false" => .ok false
  | _ => .error .otherWord

/-- The arguments once the flag has the value. -/
def set (a : Arguments) (flag : Flag) (value : String) : Except ValueFault Arguments :=
  let settings (change : Overrides) : Arguments := { a with settings := change }
  match flag with
  | .config => .ok { a with config := some value }
  | .host => .ok (settings { a.settings with host := some value })
  | .port => (port value).map fun n => settings { a.settings with port := some n }
  | .mode =>
    match Mode.ofText value with
    | .ok mode => .ok (settings { a.settings with mode := some mode })
    | .error unknown => .error (.mode unknown)
  | .intervalMs => (word value).map fun n => settings { a.settings with intervalMs := some n }
  | .count => (word value).map fun n => settings { a.settings with count := some n }
  | .connectTimeoutMs =>
    (word value).map fun n => settings { a.settings with connectTimeoutMs := some n }
  | .strictUtf8 => (truth value).map fun b => settings { a.settings with strictUtf8 := some b }
  | .readBufferSize =>
    (word value).map fun n => settings { a.settings with readBufferSize := some n }
  | .duration => (word value).map fun n => { a with duration := n.toNat }
  | .output => .ok { a with output := some value }
  | .format => .ok { a with format := value }
  | .verbose => .ok { a with verbose := true }
  | .help | .version => .ok a

/-- Whether an empty text is no value at all of the flag. -/
def needsText : Flag → Bool
  | .config | .output | .strictUtf8 => true
  | _ => false

/-- Gives the flag a value; a flag is given once. -/
def Draft.give (d : Draft) (flag : Flag) (value : String) : Except Stop Draft :=
  if flag ∈ d.given then .error (.fault (.repeated flag))
  else if needsText flag && value.isEmpty then .error (.fault (.missingValue flag))
  else match d.arguments.set flag value with
    | .ok arguments => .ok ⟨flag :: d.given, arguments⟩
    | .error fault => .error (.fault (.invalidValue flag value fault))

/-! ## Reading -/

/-- A flag whose value is the next argument, with that value once it has come. -/
structure Pending where
  flag : Flag
  value : Option String
deriving DecidableEq, Repr

/-- The reader between two arguments. -/
structure Progress where
  draft : Draft
  pending : Option Pending
deriving DecidableEq, Repr

/-- Gives the pending flag its value. -/
def Progress.settle (p : Progress) : Except Stop Draft :=
  match p.pending with
  | none => .ok p.draft
  | some ⟨flag, some value⟩ => p.draft.give flag value
  | some ⟨flag, none⟩ => .error (.fault (.missingValue flag))

/-- Takes a flag that stands alone. -/
def Draft.giveBare (d : Draft) : Flag → Except Stop Draft
  | .help => .error .help
  | .version => .error .version
  | flag => d.give flag "true"

/-- Takes a flag with the value that is attached to it, if any. -/
def Progress.takeFlag (p : Progress) (flag : Flag) (attached : Option String) :
    Except Stop Progress :=
  match flag.arity, attached with
  | .bare, some value => .error (.fault (.needlessValue flag value))
  | .bare, none | .attachable, none => do return ⟨← (← p.settle).giveBare flag, none⟩
  | _, some value => do return ⟨← (← p.settle).give flag value, none⟩
  | .valued, none => do return ⟨← p.settle, some ⟨flag, none⟩⟩

/-- Splits a text at the first equals sign. -/
def splitValue (text : List Char) : String × Option String :=
  match text.dropWhile (· ≠ '=') with
  | [] => (.ofList text, none)
  | _ :: value => (.ofList (text.takeWhile (· ≠ '=')), some (.ofList value))

/-- Takes the text behind two dashes. -/
def Progress.takeLong (p : Progress) (text : List Char) : Except Stop Progress :=
  let (name, attached) := splitValue text
  match Flag.ofLong name with
  | some flag => p.takeFlag flag attached
  | none => .error (.fault (.unexpected s!"--{name}"))

/-- The value that follows a letter at once, with or without an equals sign. -/
def attachedValue : List Char → Option String
  | [] => none
  | '=' :: value => some (.ofList value)
  | value => some (.ofList value)

/-- Takes the letters behind one dash. -/
def Progress.takeShort (p : Progress) : List Char → Except Stop Progress
  | [] => .ok p
  | letter :: rest =>
    match Flag.ofShort letter with
    | none => .error (.fault (.unexpected (.ofList ['-', letter])))
    | some flag =>
      match flag.arity with
      | .bare => p.takeFlag flag none >>= fun p => p.takeShort rest
      | _ => p.takeFlag flag (attachedValue rest)

/-- Takes an argument that is no flag. -/
def Progress.takeValue (p : Progress) (argument : String) : Except Stop Progress :=
  match p.pending with
  | some ⟨flag, none⟩ => .ok { p with pending := some ⟨flag, some argument⟩ }
  | _ => .error (.fault (.unexpected argument))

/-- Takes all arguments. Behind two dashes nothing is a flag, and there is nothing else to be. -/
def Progress.takeAll (p : Progress) : List String → Except Stop Arguments
  | [] => do return (← p.settle).arguments
  | argument :: rest =>
    match argument.toList with
    | ['-', '-'] =>
      match rest with
      | [] => do return (← p.settle).arguments
      | next :: _ => .error (.fault (.unexpected next))
    | '-' :: '-' :: text => p.takeLong text >>= fun p => p.takeAll rest
    | '-' :: letter :: letters => p.takeShort (letter :: letters) >>= fun p => p.takeAll rest
    | _ => p.takeValue argument >>= fun p => p.takeAll rest

/-- Reads a command line. -/
def ofList (arguments : List String) : Except Stop Arguments :=
  Progress.takeAll ⟨.blank, none⟩ arguments

end Arguments

end LinkProbe.CommandLine
