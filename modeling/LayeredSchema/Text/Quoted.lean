import LayeredSchema.Text.Printable

/-!
# Text between quotes

The quoted form of a text makes every character visible: quotes and backslashes are escaped, and
so are characters that cannot be shown on their own.
-/

namespace LayeredSchema.Text

/-- The quoted form of one character. -/
def shown (c : Char) : List Char :=
  match c with
  | '\t' => ['\\', 't']
  | '\r' => ['\\', 'r']
  | '\n' => ['\\', 'n']
  | '"' => ['\\', '"']
  | '\\' => ['\\', '\\']
  | '\x00' => ['\\', '0']
  | c =>
    if isPrintable c && !extendsGrapheme c then [c]
    else ['\\', 'u', '\x7b'] ++ Nat.toDigits 16 c.toNat ++ ['\x7d']

/-- A text between quotes, with everything unseen made visible. -/
def quoted (s : String) : String :=
  String.ofList ('"' :: (s.toList.flatMap shown ++ ['"']))

end LayeredSchema.Text
