import LayeredSchema.Document.Value
import LayeredSchema.Number.Layout
import LayeredSchema.Text.Numeral

/-!
# Writing JSON text

Two layouts: `compact` without any blanks, and `pretty` with one item a line and two spaces a
level. Only what must be escaped is escaped; everything else is written as it is.
-/

namespace LayeredSchema.Json

/-- The written form of one character of a string. -/
def escaped (c : Char) : List Char :=
  match c with
  | '"' => ['\\', '"']
  | '\\' => ['\\', '\\']
  | '\x08' => ['\\', 'b']
  | '\x0c' => ['\\', 'f']
  | '\n' => ['\\', 'n']
  | '\r' => ['\\', 'r']
  | '\t' => ['\\', 't']
  | c => if c.toNat < 0x20 then '\\' :: 'u' :: Numeral.hexPadded 4 c.toNat else [c]

/-- A string between quotes. -/
def quoted (s : String) : List Char :=
  '"' :: (s.toList.flatMap escaped ++ ['"'])

/-- An integer in decimal digits. -/
def writeInt (n : Int) : List Char :=
  if n < 0 then '-' :: Nat.toDigits 10 n.natAbs else Nat.toDigits 10 n.natAbs

/-- Where line breaks and blanks go. -/
inductive Layout where
  | compact
  | pretty
  deriving DecidableEq

/-- The break before an item at a nesting level. -/
def Layout.lineBreak : Layout → Nat → List Char
  | compact, _ => []
  | pretty, level => '\n' :: List.replicate (2 * level) ' '

/-- The separator between a key and its value. -/
def Layout.colon : Layout → List Char
  | compact => [':']
  | pretty => [':', ' ']

mutual

/-- The text of a value whose items stand one level below `level`. -/
def write (layout : Layout) (level : Nat) : Value → List Char
  | .null => "null".toList
  | .bool true => "true".toList
  | .bool false => "false".toList
  | .int n => writeInt n
  | .float x => (FloatLayout.json.write x).toList
  | .string s => quoted s
  | .array [] => ['[', ']']
  | .array (v :: vs) =>
    '[' :: (layout.lineBreak (level + 1) ++ write layout (level + 1) v
      ++ writeItems layout level vs)
  | .object [] => ['\x7b', '\x7d']
  | .object ((k, v) :: ms) =>
    '\x7b' :: (layout.lineBreak (level + 1) ++ quoted k ++ layout.colon
      ++ write layout (level + 1) v ++ writeMembers layout level ms)

/-- The items behind the first one, and the bracket. -/
def writeItems (layout : Layout) (level : Nat) : List Value → List Char
  | [] => layout.lineBreak level ++ [']']
  | v :: vs =>
    ',' :: (layout.lineBreak (level + 1) ++ write layout (level + 1) v
      ++ writeItems layout level vs)

/-- The members behind the first one, and the brace. -/
def writeMembers (layout : Layout) (level : Nat) : List (String × Value) → List Char
  | [] => layout.lineBreak level ++ ['\x7d']
  | (k, v) :: ms =>
    ',' :: (layout.lineBreak (level + 1) ++ quoted k ++ layout.colon
      ++ write layout (level + 1) v ++ writeMembers layout level ms)

end

/-- The text of a value in a layout, without a final line break. -/
def text (layout : Layout) (v : Value) : String :=
  String.ofList (write layout 0 v)

end LayeredSchema.Json
