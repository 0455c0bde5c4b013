import AggregateStage.Text.Hex

/-! Text between double quotes in which a backslash begins an escape. -/
namespace AggregateStage.Text

/-- The character of a number of hexadecimal digits, all of which have to be there. -/
def readHexEscape (count : Nat) (cs : List Char) : Option (Char × List Char) :=
  let ds := cs.take count
  let code := ofHex ds
  if ds.length = count ∧ ds.all isHex ∧ code.isValidChar then
    some (Char.ofNat code, cs.drop count)
  else none

/-- What the text behind a backslash stands for. -/
def readEscape : List Char → Option (Char × List Char)
  | 'b' :: rest => some ('\x08', rest)
  | 't' :: rest => some ('\t', rest)
  | 'n' :: rest => some ('\n', rest)
  | 'f' :: rest => some ('\x0c', rest)
  | 'r' :: rest => some ('\r', rest)
  | '"' :: rest => some ('"', rest)
  | '\\' :: rest => some ('\\', rest)
  | 'u' :: rest => readHexEscape 4 rest
  | 'U' :: rest => readHexEscape 8 rest
  | _ => none

/-- A character that may stand in text for itself, quotes and backslashes aside. -/
def standsForItself (c : Char) : Bool := c == '\t' || decide (0x20 ≤ c.toNat) && c != '\x7f'

/-- Reads from behind the opening quote to behind the closing one; the bound is on the
number of characters read. -/
def readEscapedWithin : Nat → List Char → Option (List Char × List Char)
  | 0, _ => none
  | _, [] => none
  | bound + 1, c :: rest =>
    if c = '"' then some ([], rest)
    else if c = '\\' then do
      let (c, rest) ← readEscape rest
      let (more, rest) ← readEscapedWithin bound rest
      return (c :: more, rest)
    else if standsForItself c then
      (readEscapedWithin bound rest).map fun (more, rest) => (c :: more, rest)
    else none

def readEscaped (cs : List Char) : Option (List Char × List Char) :=
  readEscapedWithin cs.length cs

end AggregateStage.Text
