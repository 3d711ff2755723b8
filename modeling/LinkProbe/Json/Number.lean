import LinkProbe.Json.Reader

/-!
# Numbers

A number is a whole number of 64 bits, or a double: anything with a point or an exponent, a whole
number beyond 64 bits, and minus zero. Digits beyond 64 bits only move the point.

* `readNumber`: the number, its minus sign having been read.
* `skipNumber`: only where the number ends; its size is not looked at.
-/

namespace LinkProbe.Json

/-- A number of a document. -/
inductive Number where
  | natural (value : Nat)
  /-- A whole number below zero, of this absolute value. -/
  | negative (value : Nat)
  | float (negative : Bool) (value : Binary64)
deriving DecidableEq, Repr

/-- The largest whole number of 64 bits. -/
def natural64 : Nat := UInt64.size - 1

/-- The value of a decimal digit. -/
def digitValue (c : Char) : Nat := c.toNat - '0'.toNat

/-- The digits at the front of the text, and the rest. -/
def digits (text : List Char) : List Char × List Char := text.span Char.isDigit

/-- Appends digits to a number until one more would exceed 64 bits; also gives the digits that are
left over. -/
def appendDigits (value : Nat) : List Char → Nat × List Char
  | [] => (value, [])
  | c :: cs =>
    let next := value * 10 + digitValue c
    if next ≤ natural64 then appendDigits next cs else (value, c :: cs)

/-- The value of digits. -/
def digitsValue (cs : List Char) : Nat := cs.foldl (fun value c => value * 10 + digitValue c) 0

/-- An exponent beyond this bound is not computed with. -/
def exponentBound : Nat := UInt32.size / 2 - 1

/-- The shortest beginning of the digits whose value exceeds the bound, and what follows it. -/
def beyondBound? (value : Nat) : List Char → Option (List Char)
  | [] => none
  | c :: cs =>
    let next := value * 10 + digitValue c
    if next ≤ exponentBound then beyondBound? next cs else some cs

/-- The exponent kept within the bound on both sides. -/
def clampExponent (exponent : Int) : Int :=
  max (-(exponentBound + 1 : Nat)) (min exponentBound exponent)

/-- The double with the given digits and power of ten; `rest` follows it. -/
def makeFloat (negative : Bool) (significand : Nat) (exponent : Int) : Reader Number := fun rest =>
  match Binary64.ofScientific? significand exponent with
  | some value => .ok (.float negative value, rest)
  | none => .error (.here .hugeNumber rest)

/-- Reads the sign of an exponent: whether it is negative, and the rest. -/
def exponentSign : List Char → Bool × List Char
  | '+' :: rest => (false, rest)
  | '-' :: rest => (true, rest)
  | rest => (false, rest)

/-- Reads an exponent, its letter having been read. An exponent beyond the bound makes any number
but zero too large or zero. -/
def readExponent (negative : Bool) (significand : Nat) (base : Int) : Reader Number := fun rest =>
  let (below, rest) := exponentSign rest
  match rest with
  | [] => .error (.here .endInValue [])
  | c :: _ =>
    if !c.isDigit then .error (.atNext .badNumber rest)
    else
      let (ds, after) := digits rest
      match beyondBound? 0 ds with
      | none =>
        let exponent : Int := digitsValue ds
        let total := if below then base - exponent else base + exponent
        makeFloat negative significand (clampExponent total) after
      | some unread =>
        if significand ≠ 0 ∧ !below then .error (.here .hugeNumber (unread ++ after))
        else .ok (.float negative .zero, after)

/-- Whether the character opens an exponent. -/
def isExponentLetter (c : Char) : Bool := c = 'e' || c = 'E'

/-- Reads what may follow the decimals of a number. -/
def afterDecimals (negative : Bool) (significand : Nat) (exponent : Int) : Reader Number
  | c :: rest =>
    if isExponentLetter c then readExponent negative significand exponent rest
    else makeFloat negative significand exponent (c :: rest)
  | [] => makeFloat negative significand exponent []

/-- Reads decimals, the point having been read. `base` counts the digits that were left over before
the point. -/
def readDecimals (negative : Bool) (whole : Nat) (base : Int) : Reader Number := fun rest =>
  match digits rest with
  | ([], []) => .error (.atNext .endInValue [])
  | ([], after) => .error (.atNext .badNumber after)
  | (ds, after) =>
    let (significand, unread) := appendDigits whole ds
    afterDecimals negative significand (base - (ds.length - unread.length : Nat)) after

/-- Reads what may follow the whole part of a number, which has `unread` digits beyond 64 bits. -/
def afterWhole (negative : Bool) (whole unread : Nat) : Reader Number := fun rest =>
  match rest with
  | '.' :: after => readDecimals negative whole unread after
  | c :: after =>
    if isExponentLetter c then readExponent negative whole unread after else plain rest
  | [] => plain rest
where
  plain : Reader Number := fun rest =>
    if unread ≠ 0 then makeFloat negative whole unread rest
    else if !negative then .ok (.natural whole, rest)
    else if 0 < whole ∧ whole ≤ UInt64.size / 2 then .ok (.negative whole, rest)
    else makeFloat true whole 0 rest

/-- Reads a number, its minus sign having been read when it is negative. -/
def readNumber (negative : Bool) : Reader Number := fun rest =>
  match rest with
  | [] => .error (.here .endInValue [])
  | '0' :: after =>
    match after with
    | c :: _ =>
      if c.isDigit then .error (.atNext .badNumber after) else afterWhole negative 0 0 after
    | [] => afterWhole negative 0 0 []
  | c :: _ =>
    if !c.isDigit then .error (.atNext .badNumber rest)
    else
      let (ds, after) := digits rest
      let (whole, unread) := appendDigits 0 ds
      afterWhole negative whole unread.length after

/-! ## Passing over -/

/-- Passes over an exponent, its letter having been read. -/
def skipExponent (rest : List Char) : Except Refusal (List Char) :=
  let (_, rest) := exponentSign rest
  match rest with
  | c :: _ => if c.isDigit then .ok (digits rest).2 else .error (.atNext .badNumber rest)
  | [] => .error (.here .badNumber [])

/-- Passes over what may follow the digits of a number. -/
def skipFraction (rest : List Char) : Except Refusal (List Char) :=
  match rest with
  | '.' :: after =>
    match digits after with
    | ([], after) => .error (.atNext .badNumber after)
    | (_, c :: after) => if isExponentLetter c then skipExponent after else .ok (c :: after)
    | (_, []) => .ok []
  | c :: after => if isExponentLetter c then skipExponent after else .ok rest
  | [] => .ok []

/-- Passes over a number, its minus sign having been read when it has one. -/
def skipNumber (rest : List Char) : Except Refusal (List Char) :=
  match rest with
  | [] => .error (.here .badNumber [])
  | '0' :: after =>
    match after with
    | c :: _ => if c.isDigit then .error (.atNext .badNumber after) else skipFraction after
    | [] => .ok []
  | c :: _ => if c.isDigit then skipFraction (digits rest).2 else .error (.atNext .badNumber rest)

end LinkProbe.Json
