/-! # Text as a list of characters

Blank characters, trimming, ASCII case, splitting and joining. Everything is a function on
lists, so that a law about text is an induction over its characters.
-/

namespace GatewayConfig

abbrev Text := List Char

namespace Text

/-- The characters with the Unicode property `White_Space`. -/
def isBlank (c : Char) : Bool :=
  let n := c.toNat
  (9 ≤ n && n ≤ 13) || n == 0x20 || n == 0x85 || n == 0xA0 || n == 0x1680 ||
    (0x2000 ≤ n && n ≤ 0x200A) || n == 0x2028 || n == 0x2029 || n == 0x202F || n == 0x205F ||
    n == 0x3000

def trimStart (t : Text) : Text := t.dropWhile isBlank

def trimEnd (t : Text) : Text := (t.reverse.dropWhile isBlank).reverse

def trim (t : Text) : Text := trimEnd (trimStart t)

def blank (t : Text) : Bool := (trim t).isEmpty

def lowerAscii (t : Text) : Text := t.map Char.toLower

/-- The form in which two keys are compared: no outer blanks, no ASCII capitals. -/
def keyForm (t : Text) : Text := lowerAscii (trim t)

def sameAscii (a b : Text) : Bool := lowerAscii a == lowerAscii b

/-- The lines of a text. A carriage return before the line feed stays in its line. -/
def lines (t : Text) : List Text := t.splitOn '\n'

def join (separator : Text) (pieces : List Text) : Text := List.intercalate separator pieces

/-- What stands between an opening and a closing mark that do not overlap. -/
def between? (opening closing t : Text) : Option Text :=
  (opening.isPrefixOf? t).bind (closing.isSuffixOf? ·)

def contains (piece : Text) : Text → Bool
  | [] => piece.isEmpty
  | c :: rest => piece.isPrefixOf (c :: rest) || contains piece rest

/-- Spaces added on the right up to a width counted in characters. -/
def padRight (width : Nat) (t : Text) : Text := t ++ List.replicate (width - t.length) ' '

def ofNat (n : Nat) : Text := Nat.toDigits 10 n

def before : Text → Text → Bool
  | _, [] => false
  | [], _ :: _ => true
  | a :: s, b :: t => a < b || (a == b && before s t)

end Text

end GatewayConfig
