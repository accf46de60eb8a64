import NetWatch.Text.Printable
import NetWatch.Octets

/-!
# Quoted text

A text between double quotes in which every character that cannot be shown as itself is an
escape: `\"` and `\\`, short forms for five controls, `\u` with the code point for the rest.
-/

namespace NetWatch.Text.Quoted

/-- The hexadecimal digits of a code point, without leading zeros. -/
def codePoint (n : Nat) : List Char :=
  let digits := (Octets.digits n).flatMap fun b =>
    [Octets.hexDigit (b.toNat / 16), Octets.hexDigit (b.toNat % 16)]
  match digits.dropWhile (· == '0') with
  | [] => ['0']
  | shown => shown

/-- One character as it stands inside quotes. -/
def escape (c : Char) : List Char :=
  if c = '"' then ['\\', '"']
  else if c = '\\' then ['\\', '\\']
  else if c = '\n' then ['\\', 'n']
  else if c = '\r' then ['\\', 'r']
  else if c = '\t' then ['\\', 't']
  else if c.toNat = 0 then ['\\', '0']
  else if isCombining c || !isPrintable c then
    ['\\', 'u', '\x7b'] ++ codePoint c.toNat ++ ['\x7d']
  else [c]

/-- The text between quotes. -/
def quote (s : String) : String :=
  String.ofList ('"' :: s.toList.flatMap escape ++ ['"'])

end NetWatch.Text.Quoted
