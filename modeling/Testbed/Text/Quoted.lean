import Testbed.Text.Unprintable

/-!
# Quoted text

Text between quotation marks as messages show it: quotation mark, backslash, tab, line feed,
carriage return and NUL have short escapes, and every character without a glyph of its own is
written as its code point in hexadecimal.
-/

namespace Testbed.Text

def escapeChar (c : Char) : List Char :=
  match c with
  | '\x00' => ['\\', '0']
  | '\t' => ['\\', 't']
  | '\n' => ['\\', 'n']
  | '\r' => ['\\', 'r']
  | '"' => ['\\', '"']
  | '\\' => ['\\', '\\']
  | c =>
    if isUnprintable c then ['\\', 'u', '\x7b'] ++ Nat.toDigits 16 c.toNat ++ ['\x7d'] else [c]

def quote (s : String) : String :=
  String.ofList ('"' :: (s.toList.flatMap escapeChar ++ ['"']))

end Testbed.Text
