import LinkProbe.Json.Number
import LinkProbe.Json.Text

/-!
# Values that nobody asks for

Passes over a value of any shape and depth. The lists and objects that are open at a place are a
stack of frames, the innermost first.

* `closeFrames`: what a finished value closes, and whether another value follows.
* `skipWithin`: where the value ends.
-/

namespace LinkProbe.Json

/-- An open array or object. -/
inductive Frame where
  | array
  | object
deriving DecidableEq, Repr

/-- The refusal where the text ends inside the frame. -/
def Frame.ended : Frame → Cause
  | .array => .endInArray
  | .object => .endInObject

/-- The refusal where neither a comma nor the end of the frame follows a value. -/
def Frame.unclosed : Frame → Cause
  | .array => .noCommaInArray
  | .object => .noCommaInObject

/-- The bracket that ends the frame. -/
def Frame.close : Frame → Char
  | .array => ']'
  | .object => '\x7d'

/-- Reads the ends of frames behind a value, up to a comma or until no frame is open. Gives the
frames that are still open. -/
def closeFrames : List Frame → Reader (List Frame)
  | [], rest => .ok ([], rest)
  | frame :: frames, rest =>
    match skipSpace rest with
    | [] => .error (.atNext frame.ended [])
    | c :: after =>
      if c = ',' then .ok (frame :: frames, after)
      else if c = frame.close then closeFrames frames after
      else .error (.atNext frame.unclosed (c :: after))

/-- Passes over a key of fewer than `count` characters and its colon. -/
def skipKey (count : Nat) (rest : List Char) : Except Refusal (List Char) :=
  match skipSpace rest with
  | [] => .error (.atNext .endInObject [])
  | '"' :: rest =>
    match skipText count rest with
    | .error refusal => .error refusal
    | .ok rest =>
      match skipSpace rest with
      | [] => .error (.atNext .endInObject [])
      | ':' :: rest => .ok rest
      | rest => .error (.atNext .noColon rest)
  | rest => .error (.atNext .keyNotText rest)

/-- What follows an opening bracket: the end of the frame, or a value in it. Gives the frames that
are open then, the new one among them unless it is empty. -/
def openFrame (frame : Frame) (frames : List Frame) : Reader (List Frame) := fun rest =>
  match skipSpace rest with
  | [] => .error (.atNext frame.ended [])
  | c :: after =>
    if c = frame.close then closeFrames frames after
    else .ok (frame :: frames, c :: after)

/-- Passes over a value, or over the opening bracket of one, no text in it having `count`
characters. Gives the frames that are open afterwards; if there are any, another member or element
follows. -/
def skipOne (count : Nat) (frames : List Frame) : Reader (List Frame) := fun rest =>
  match skipSpace rest with
  | [] => .error (.atNext .endInValue [])
  | 'n' :: rest => wordEnd ['u', 'l', 'l'] rest >>= closeFrames frames
  | 't' :: rest => wordEnd ['r', 'u', 'e'] rest >>= closeFrames frames
  | 'f' :: rest => wordEnd ['a', 'l', 's', 'e'] rest >>= closeFrames frames
  | '"' :: rest => skipText count rest >>= closeFrames frames
  | '-' :: rest => skipNumber rest >>= closeFrames frames
  | '[' :: rest => openFrame .array frames rest
  | '\x7b' :: rest => openFrame .object frames rest
  | c :: rest =>
    if c.isDigit then skipNumber (c :: rest) >>= closeFrames frames
    else .error (.atNext .noValue (c :: rest))

/-- Passes over values until no frame is open; there are fewer than `count` characters left. -/
def skipWithin : Nat → List Frame → List Char → Except Refusal (List Char)
  | 0, _, rest => .error (.here .endInValue rest)
  | count + 1, frames, rest =>
    let key := if frames.head? = some .object then skipKey (count + 1) rest else .ok rest
    match key >>= skipOne (count + 1) frames with
    | .error refusal => .error refusal
    | .ok ([], rest) => .ok rest
    | .ok (frames, rest) => skipWithin count frames rest

end LinkProbe.Json
