import LinkProbe.Number.Digit

/-!
# Whole numbers on the command line

Decimal digits with or without a sign, read from the left: the first character that is no digit
or makes the number too large is what is wrong.

* `natural`: a number that is not below zero.
* `integer`: a number that may be below zero.
-/

namespace LinkProbe.CommandLine

/-- Why a text is no number. -/
inductive NumberFault where
  | empty
  | invalidDigit
  | tooLarge
  | tooSmall
deriving DecidableEq, Repr

/-- The wording of the fault. -/
def NumberFault.message : NumberFault → String
  | .empty => "cannot parse integer from empty string"
  | .invalidDigit => "invalid digit found in string"
  | .tooLarge => "number too large to fit in target type"
  | .tooSmall => "number too small to fit in target type"

/-- Appends digits to a number that stays up to `limit`; `excess` is the fault of one that does
not. -/
def appendDigits (limit : Nat) (excess : NumberFault) (value : Nat) :
    List Char → Except NumberFault Nat
  | [] => .ok value
  | c :: rest =>
    match Digit.decimal? c with
    | none => .error .invalidDigit
    | some digit =>
      if value * 10 + digit ≤ limit then appendDigits limit excess (value * 10 + digit) rest
      else .error excess

/-- A number from one digit on. -/
def digits (limit : Nat) (excess : NumberFault) (text : List Char) : Except NumberFault Nat :=
  if text.isEmpty then .error .invalidDigit else appendDigits limit excess 0 text

/-- A number up to `limit`; a plus sign may precede it. -/
def natural (limit : Nat) (text : List Char) : Except NumberFault Nat :=
  match text with
  | [] => .error .empty
  | '+' :: rest => digits limit .tooLarge rest
  | text => digits limit .tooLarge text

/-- A number from `-(limit + 1)` up to `limit`; a sign may precede it. -/
def integer (limit : Nat) (text : List Char) : Except NumberFault Int :=
  match text with
  | '-' :: rest => (digits (limit + 1) .tooSmall rest).map fun value => -value
  | text => (natural limit text).map Int.ofNat

end LinkProbe.CommandLine
