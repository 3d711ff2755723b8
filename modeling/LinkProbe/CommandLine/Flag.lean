import LinkProbe.CommandLine.Number
import LinkProbe.Mode

/-!
# Flags

The flags of the command line, how they are written and what values they take.

* `Flag.ofLong`, `Flag.ofShort`: the flag of that name.
* `Flag.label`: the flag in a message.
* `UsageFault`: what can be wrong with a command line.
-/

namespace LinkProbe.CommandLine

/-- What a flag is followed by. -/
inductive Arity where
  /-- No value. -/
  | bare
  /-- One value. -/
  | valued
  /-- A value behind an equals sign, or none. -/
  | attachable
deriving DecidableEq, Repr

/-- A flag of the command line. -/
inductive Flag where
  | config
  | host
  | port
  | mode
  | intervalMs
  | count
  | connectTimeoutMs
  | strictUtf8
  | readBufferSize
  | duration
  | output
  | format
  | verbose
  | help
  | version
deriving DecidableEq, Repr

namespace Flag

/-- All flags. -/
def all : List Flag := [.config, .host, .port, .mode, .intervalMs, .count, .connectTimeoutMs,
  .strictUtf8, .readBufferSize, .duration, .output, .format, .verbose, .help, .version]

/-- The name behind two dashes. -/
def long : Flag → String
  | .config => "config"
  | .host => "host"
  | .port => "port"
  | .mode => "mode"
  | .intervalMs => "interval-ms"
  | .count => "count"
  | .connectTimeoutMs => "connect-timeout-ms"
  | .strictUtf8 => "strict-utf8"
  | .readBufferSize => "read-buffer-size"
  | .duration => "duration"
  | .output => "output"
  | .format => "format"
  | .verbose => "verbose"
  | .help => "help"
  | .version => "version"

/-- The letter behind one dash. -/
def short? : Flag → Option Char
  | .config => some 'c'
  | .port => some 'p'
  | .mode => some 'm'
  | .intervalMs => some 'i'
  | .count => some 'n'
  | .duration => some 'd'
  | .output => some 'o'
  | .format => some 'f'
  | .verbose => some 'v'
  | .help => some 'h'
  | .version => some 'V'
  | .host | .connectTimeoutMs | .strictUtf8 | .readBufferSize => none

/-- What the flag is followed by. -/
def arity : Flag → Arity
  | .verbose | .help | .version => .bare
  | .strictUtf8 => .attachable
  | _ => .valued

/-- The flag with the given name. -/
def ofLong (name : String) : Option Flag := all.find? (·.long = name)

/-- The flag with the given letter. -/
def ofShort (letter : Char) : Option Flag := all.find? (·.short? = some letter)

/-- The name of the flag's value: that of the flag in capitals. -/
def valueName (f : Flag) : String :=
  f.long.map fun c => if c = '-' then '_' else c.toUpper

/-- The flag as messages show it. -/
def label (f : Flag) : String :=
  match f.arity with
  | .bare => s!"--{f.long}"
  | .valued => s!"--{f.long} <{f.valueName}>"
  | .attachable => s!"--{f.long}[=<{f.valueName}>]"

end Flag

/-- Why a text is no value of a flag. -/
inductive ValueFault where
  | number (fault : NumberFault)
  /-- The number is none of those allowed. -/
  | outOfRange (value : Int) (largest : Nat)
  | mode (unknown : UnknownMode)
  /-- The text is none of those allowed. -/
  | otherWord
deriving DecidableEq, Repr

/-- The wording of the fault, if there is more to be told. -/
def ValueFault.reason? : ValueFault → Option String
  | .number fault => some fault.message
  | .outOfRange value largest => some s!"{value} is not in 0..={largest}"
  | .mode unknown => some unknown.message
  | .otherWord => none

/-- What is wrong with a command line. -/
inductive UsageFault where
  | invalidValue (flag : Flag) (value : String) (fault : ValueFault)
  | missingValue (flag : Flag)
  /-- A flag that takes no value is given one. -/
  | needlessValue (flag : Flag) (value : String)
  | repeated (flag : Flag)
  /-- An argument that means nothing. -/
  | unexpected (argument : String)
deriving DecidableEq, Repr

/-- The wording of the fault. -/
def UsageFault.message : UsageFault → String
  | .invalidValue flag value fault =>
    s!"error: invalid value '{value}' for '{flag.label}'" ++
      match fault.reason? with
      | some reason => s!": {reason}"
      | none => ""
  | .missingValue flag => s!"error: a value is required for '{flag.label}' but none was supplied"
  | .needlessValue flag value =>
    s!"error: unexpected value '{value}' for '{flag.label}' found; no more were expected"
  | .repeated flag => s!"error: the argument '{flag.label}' cannot be used multiple times"
  | .unexpected argument => s!"error: unexpected argument '{argument}' found"

end LinkProbe.CommandLine
