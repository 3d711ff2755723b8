import LinkProbe.Text.Unprintable

/-!
# Quoted text

A text in double quotes on one line: a quote, a backslash and the usual controls are written with
a backslash, every other character that cannot be shown by its number.

* `quoted`: the quoted form.
* `escaped_of_plain`: a plain character stands for itself.
-/

namespace LinkProbe.Text

/-- The digits of `n` in base sixteen, in lower case. -/
def hexDigits (n : Nat) : List Char := Nat.toDigits 16 n

/-- How a character is written between the quotes. -/
def escaped (c : Char) : List Char :=
  match c with
  | '\x00' => ['\\', '0']
  | '\t' => ['\\', 't']
  | '\n' => ['\\', 'n']
  | '\r' => ['\\', 'r']
  | '"' => ['\\', '"']
  | '\\' => ['\\', '\\']
  | _ => if isUnprintable c then ['\\', 'u', '\x7b'] ++ hexDigits c.toNat ++ ['\x7d'] else [c]

theorem escaped_of_plain {c : Char} (hq : c ≠ '"') (hb : c ≠ '\\') (h : isUnprintable c = false) :
    escaped c = [c] := by
  have space : ¬ c < ' ' := by
    intro hc
    simp [isUnprintable, hc] at h
  unfold escaped
  split <;> simp_all

/-- The text in double quotes. -/
def quoted (text : String) : String :=
  .ofList ('"' :: text.toList.flatMap escaped ++ ['"'])

end LinkProbe.Text
