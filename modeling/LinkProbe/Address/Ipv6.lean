import LinkProbe.Address.Ipv4

/-!
# Addresses of eight groups

* `Ipv6.parse?`: groups of one to four hexadecimal digits between colons. One double colon stands
  for the groups that are missing, at least one, and the last two groups may be written as an
  address of four bytes.
* `Ipv6.text`: the canonical form. The first of the longest runs of two or more zero groups is a
  double colon, and an address that stands for one of four bytes ends in the dotted form.
-/

namespace LinkProbe

/-- An address of eight groups of sixteen bits. -/
structure Ipv6 where
  groups : List UInt16
  length_groups : groups.length = 8
deriving DecidableEq, Repr

namespace Ipv6

/-! ## Reading -/

/-- A group of one to four hexadecimal digits. -/
def group? (text : List Char) : Option UInt16 :=
  if 4 < text.length then none else (Digit.number? 16 Digit.hex? text).map .ofNat

/-- The two groups that an address of four bytes takes up. -/
def groupsOfIpv4 (a : Ipv4) : List UInt16 :=
  [a.first.toUInt16 * 256 + a.second.toUInt16, a.third.toUInt16 * 256 + a.fourth.toUInt16]

/-- The groups of the parts between colons; the last part may be an address of four bytes if
`dotted`. -/
def groupsOf? (dotted : Bool) : List (List Char) → Option (List UInt16)
  | [] => some []
  | [part] =>
    match group? part with
    | some group => some [group]
    | none => if dotted then (Ipv4.parse? part).map groupsOfIpv4 else none
  | part :: parts => do return (← group? part) :: (← groupsOf? dotted parts)

/-- The groups on one side of the double colon, where there may be none. -/
def side? (dotted : Bool) (text : List Char) : Option (List UInt16) :=
  if text.isEmpty then some [] else groupsOf? dotted (cut ':' text)

/-- What stands before and behind the first double colon. -/
def splitGap? : List Char → Option (List Char × List Char)
  | ':' :: ':' :: rest => some ([], rest)
  | c :: rest => (splitGap? rest).map fun (before, after) => (c :: before, after)
  | [] => none

/-- Reads an address. -/
def parse? (text : List Char) : Option Ipv6 :=
  match splitGap? text with
  | none =>
    match groupsOf? true (cut ':' text) with
    | some groups => if h : groups.length = 8 then some ⟨groups, h⟩ else none
    | none => none
  | some (before, after) =>
    match side? false before, side? true after with
    | some left, some right =>
      if h : left.length + right.length ≤ 7 then
        some ⟨left ++ List.replicate (8 - (left.length + right.length)) 0 ++ right, by
          simp only [List.length_append, List.length_replicate]; omega⟩
      else none
    | _, _ => none

/-! ## Writing -/

/-- How many of the groups from the front on are zero. -/
def zeros (groups : List UInt16) : Nat := (groups.takeWhile (· = 0)).length

/-- Where the first of the longest runs of zero groups begins, and its length. -/
def longestRun (groups : List UInt16) : Nat × Nat :=
  (List.range groups.length).foldl (fun best start =>
    let length := zeros (groups.drop start)
    if best.2 < length then (start, length) else best) (0, 0)

/-- Groups in hexadecimal with colons between them. -/
def joined (groups : List UInt16) : List Char :=
  [':'].intercalate (groups.map fun group => Nat.toDigits 16 group.toNat)

/-- The address of four bytes that this one stands for. -/
def mapped? (a : Ipv6) : Option Ipv4 :=
  match a.groups with
  | [0, 0, 0, 0, 0, 0xFFFF, high, low] =>
    some ⟨(high / 256).toUInt8, high.toUInt8, (low / 256).toUInt8, low.toUInt8⟩
  | _ => none

/-- The canonical form. -/
def chars (a : Ipv6) : List Char :=
  match a.mapped? with
  | some v4 => [':', ':', 'f', 'f', 'f', 'f', ':'] ++ v4.chars
  | none =>
    let (start, length) := longestRun a.groups
    if 2 ≤ length then
      joined (a.groups.take start) ++ [':', ':'] ++ joined (a.groups.drop (start + length))
    else joined a.groups

/-- The canonical form. -/
def text (a : Ipv6) : String := .ofList a.chars

end Ipv6

end LinkProbe
