/-!
# UTF-8, one byte at a time

A scanner that reads bytes and cuts them into pieces: characters, and stretches that no text can
hold. Between two bytes it keeps only the bytes of the character that has begun, so it can stop at
any byte and go on with the next one. A stretch ends before the first byte that cannot continue
it, so it is as long as some character's beginning and at least one byte.

* `scan_append`: bytes read in two goes give the same pieces as bytes read at once.
* `Scan.pieces_foldl`: the pieces of a run follow those that were there before.
* `decode?`: the text of bytes that hold nothing but characters.
-/

namespace LinkProbe.Utf8

/-- What the next byte of a character has to be: a range for it, and how many bytes come after
it. -/
structure Expected where
  low : UInt8
  high : UInt8
  after : Nat
deriving DecidableEq, Repr

/-- What follows the first byte of a character of two or more bytes. The ranges leave out
overlong forms, surrogates and code points above U+10FFFF. -/
def Expected.ofLead? (b : UInt8) : Option Expected :=
  if b < 0xC2 then none
  else if b < 0xE0 then some ⟨0x80, 0xBF, 0⟩
  else if b = 0xE0 then some ⟨0xA0, 0xBF, 1⟩
  else if b = 0xED then some ⟨0x80, 0x9F, 1⟩
  else if b < 0xF0 then some ⟨0x80, 0xBF, 1⟩
  else if b = 0xF0 then some ⟨0x90, 0xBF, 2⟩
  else if b < 0xF4 then some ⟨0x80, 0xBF, 2⟩
  else if b = 0xF4 then some ⟨0x80, 0x8F, 2⟩
  else none

/-- What follows once the expected byte has come. -/
def Expected.next? (e : Expected) : Option Expected :=
  match e.after with
  | 0 => none
  | n + 1 => some ⟨0x80, 0xBF, n⟩

/-- Whether the byte may come next. -/
def Expected.admits (e : Expected) (b : UInt8) : Bool := e.low ≤ b && b ≤ e.high

/-- What follows the bytes of a character that has begun; nothing when none has. -/
def expected? : List UInt8 → Option Expected
  | [] => none
  | lead :: tail => tail.foldl (fun e _ => e.bind Expected.next?) (Expected.ofLead? lead)

/-- The character that the bytes of one well-formed sequence encode. -/
def charOf : List UInt8 → Char
  | [a] => .ofNat a.toNat
  | [a, b] => .ofNat (a.toNat % 32 * 64 + b.toNat % 64)
  | [a, b, c] => .ofNat (a.toNat % 16 * 4096 + b.toNat % 64 * 64 + c.toNat % 64)
  | [a, b, c, d] =>
    .ofNat (a.toNat % 8 * 262144 + b.toNat % 64 * 4096 + c.toNat % 64 * 64 + d.toNat % 64)
  | _ => '\uFFFD'

/-- A part of the input that has been settled. -/
inductive Piece where
  /-- A character. -/
  | char (c : Char)
  /-- One to three bytes that begin no character. -/
  | bad (bytes : List UInt8)
deriving DecidableEq, Repr

/-- How many bytes of input the piece covers. -/
def Piece.width : Piece → Nat
  | .char c => c.utf8Size
  | .bad bytes => bytes.length

/-- What shows for the piece where bad bytes are replaced. -/
def Piece.shown : Piece → Char
  | .char c => c
  | .bad _ => '\uFFFD'

/-- Whether the piece is no character. -/
def Piece.isBad : Piece → Bool
  | .char _ => false
  | .bad _ => true

/-- The scanner between two bytes: the pieces so far and the bytes of a character that has
begun. -/
structure Scan where
  pieces : Array Piece
  held : List UInt8
deriving DecidableEq, Repr

/-- Reads a byte where no character has begun. -/
def Scan.begin (pieces : Array Piece) (b : UInt8) : Scan :=
  if b < 0x80 then ⟨pieces.push (.char (charOf [b])), []⟩
  else match Expected.ofLead? b with
    | some _ => ⟨pieces, [b]⟩
    | none => ⟨pieces.push (.bad [b]), []⟩

/-- Reads a byte. One that cannot continue the character begins a new piece. -/
def Scan.step (s : Scan) (b : UInt8) : Scan :=
  match expected? s.held with
  | none => .begin s.pieces b
  | some e =>
    if e.admits b then
      match e.after with
      | 0 => ⟨s.pieces.push (.char (charOf (s.held ++ [b]))), []⟩
      | _ + 1 => ⟨s.pieces, s.held ++ [b]⟩
    else .begin (s.pieces.push (.bad s.held)) b

/-- Reads bytes after the `held` bytes of a character that has begun. -/
def scan (held bytes : List UInt8) : Scan := bytes.foldl Scan.step ⟨#[], held⟩

/-! ## Reading in several goes -/

theorem Scan.begin_append (before pieces : Array Piece) (b : UInt8) :
    Scan.begin (before ++ pieces) b =
      ⟨before ++ (Scan.begin pieces b).pieces, (Scan.begin pieces b).held⟩ := by
  unfold Scan.begin
  split
  · simp
  · split <;> simp

theorem Scan.step_append (before : Array Piece) (s : Scan) (b : UInt8) :
    Scan.step ⟨before ++ s.pieces, s.held⟩ b =
      ⟨before ++ (s.step b).pieces, (s.step b).held⟩ := by
  unfold Scan.step
  simp only [← Array.append_push]
  split
  · exact Scan.begin_append ..
  · split
    · split <;> simp
    · exact Scan.begin_append ..

theorem Scan.pieces_foldl (before : Array Piece) (s : Scan) (bytes : List UInt8) :
    bytes.foldl Scan.step ⟨before ++ s.pieces, s.held⟩ =
      ⟨before ++ (bytes.foldl Scan.step s).pieces, (bytes.foldl Scan.step s).held⟩ := by
  induction bytes generalizing s with
  | nil => rfl
  | cons b bytes ih => simp only [List.foldl_cons, Scan.step_append, ih]

@[simp] theorem scan_nil (held : List UInt8) : scan held [] = ⟨#[], held⟩ := rfl

theorem scan_append (held first second : List UInt8) :
    scan held (first ++ second) =
      ⟨(scan held first).pieces ++ (scan (scan held first).held second).pieces,
        (scan (scan held first).held second).held⟩ := by
  have := Scan.pieces_foldl (scan held first).pieces ⟨#[], (scan held first).held⟩ second
  simpa [scan, List.foldl_append] using this

/-! ## Whole texts -/

/-- The text that the pieces show. -/
def textOf (pieces : Array Piece) : String := .ofList (pieces.toList.map Piece.shown)

/-- How many pieces are no character. -/
def badCount (pieces : Array Piece) : Nat := pieces.toList.countP Piece.isBad

/-- The text that the bytes encode, if they hold nothing but characters. -/
def decode? (bytes : List UInt8) : Option String :=
  let s := scan [] bytes
  if s.held.isEmpty && s.pieces.all (!·.isBad) then some (textOf s.pieces) else none

end LinkProbe.Utf8
