import FabricHost.Text.Unprintable

/-!
# Quoted text

A value inside a message stands between double quotes. A double quote, a backslash and the four named controls are
escaped by one character; any other character without a glyph of its own is shown by its code point in hexadecimal.
-/

namespace FabricHost.Quoted

/-- One character as it stands between the quotes. -/
def escape (c : Char) : List Char :=
  match c with
  | '"' => ['\\', '"']
  | '\\' => ['\\', '\\']
  | '\n' => ['\\', 'n']
  | '\r' => ['\\', 'r']
  | '\t' => ['\\', 't']
  | '\x00' => ['\\', '0']
  | c => if isUnprintable c then ['\\', 'u', '\x7b'] ++ Nat.toDigits 16 c.toNat ++ ['\x7d'] else [c]

/-- A text between double quotes, escaped. -/
def render (s : String) : String :=
  String.ofList ('"' :: s.toList.flatMap escape ++ ['"'])

end FabricHost.Quoted
