/-
Quoted text.

`quote` writes a text between double quotes so that every character of it can
be seen: a few have a letter of their own, and a character that does not show
on its own is written by its number.  Every other character stands for itself.
-/
import ClusterAgent.Text.Unseen

namespace ClusterAgent.Text

/-- Lower-case hexadecimal digits, none of them a leading zero. -/
def hexDigits (n : Nat) : List Char := Nat.toDigits 16 n

/-- The written form of one character inside quotes. -/
def escape (c : Char) : List Char :=
  if c = '"' then ['\\', '"']
  else if c = '\\' then ['\\', '\\']
  else if c = '\t' then ['\\', 't']
  else if c = '\r' then ['\\', 'r']
  else if c = '\n' then ['\\', 'n']
  else if c = Char.ofNat 0 then ['\\', '0']
  else if isUnseen c then '\\' :: 'u' :: '\x7b' :: hexDigits c.toNat ++ ['\x7d']
  else [c]

/-- A text between double quotes, with escapes. -/
def quote (s : String) : String := String.ofList ('"' :: s.toList.flatMap escape ++ ['"'])

end ClusterAgent.Text
