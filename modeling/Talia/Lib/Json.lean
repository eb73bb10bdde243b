import Talia.Lib.Serde

/-!
# JSON text

A printer and a reader between `Serde.Content` and JSON text, after a widely used JSON library
for Rust: the printer writes integers in decimal, escapes exactly the characters the library
escapes, and lays a value out through a `Layout` (`compact`, or `pretty` with two spaces a level);
the reader accepts JSON with any white space between tokens, refuses values nested deeper than
its limit, and keeps a number that is no 64-bit integer as a fraction.

There are two readers. `parseText` is the grammar: what a decoder that skips the fields it does not
know needs of a text. `parseContent` builds every value, skipped or not, and so refuses a number
that overflows a double (`heldByDouble`), which it finds out the way the library does: a
significand of 64 bits scaled by a power of ten, in doubles.

What a fraction's value is, is not told: a spelling is in range or not, and no decoder above reads
one.

The reader is a recursive descent over the characters. Loops over the items of an array, the
fields of an object and the characters of a string recurse on a bound of their own, which the
length of the remaining text always covers; the nesting depth is the reader's recursion limit,
not a device of the model.

Beside each reader stands its **extension law**: what it reads from a text it reads from every
longer text. `parseValue_append` is the one the developments use; from it comes
`parseText_none_of_prefix`, that a text a complete array or object ends cannot be cut short and
still be read.
-/

namespace Json

open Serde

/-! ## Printing -/

/-- How a printer lays out a value: what stands before an item at an indentation level, and what
stands between a key and its value. -/
structure Layout where
  newline : Nat → List Char
  colon : List Char

/-- No white space at all. -/
def compact : Layout := ⟨fun _ => [], [':']⟩

/-- Each item on a line of its own, two spaces a level. -/
def pretty : Layout := ⟨fun n => '\n' :: List.replicate (2 * n) ' ', [':', ' ']⟩

/-- A lower-case hexadecimal digit. -/
def hexChar (n : Nat) : Char := n.digitChar

/-- A character inside a string literal. -/
def escape (c : Char) : List Char :=
  if c = '"' then ['\\', '"']
  else if c = '\\' then ['\\', '\\']
  else if c.toNat = 0x08 then ['\\', 'b']
  else if c.toNat = 0x09 then ['\\', 't']
  else if c.toNat = 0x0a then ['\\', 'n']
  else if c.toNat = 0x0c then ['\\', 'f']
  else if c.toNat = 0x0d then ['\\', 'r']
  else if c.toNat < 0x20 then ['\\', 'u', '0', '0', hexChar (c.toNat / 16), hexChar (c.toNat % 16)]
  else [c]

/-- A string literal. -/
def printStr (s : String) : List Char := '"' :: (s.toList.flatMap escape ++ ['"'])

/-- An integer in decimal. -/
def printInt (n : Int) : List Char :=
  if n < 0 then '-' :: Nat.toDigits 10 n.natAbs else Nat.toDigits 10 n.natAbs

mutual

/-- A value at an indentation level. -/
def print (f : Layout) (indent : Nat) : Content → List Char
  | .unit => ['n', 'u', 'l', 'l']
  | .bool true => ['t', 'r', 'u', 'e']
  | .bool false => ['f', 'a', 'l', 's', 'e']
  | .int n => printInt n
  | .float spelling => spelling.toList
  | .str s => printStr s
  | .seq [] => ['[', ']']
  | .seq (item :: items) =>
    '[' :: (f.newline (indent + 1) ++ print f (indent + 1) item ++
      printItems f (indent + 1) items ++ f.newline indent ++ [']'])
  | .map [] => ['{', '}']
  | .map ((key, value) :: entries) =>
    '{' :: (f.newline (indent + 1) ++ printStr key ++ f.colon ++ print f (indent + 1) value ++
      printEntries f (indent + 1) entries ++ f.newline indent ++ ['}'])

/-- The items after the first. -/
def printItems (f : Layout) (indent : Nat) : List Content → List Char
  | [] => []
  | item :: items =>
    ',' :: (f.newline indent ++ print f indent item ++ printItems f indent items)

/-- The entries after the first. -/
def printEntries (f : Layout) (indent : Nat) : List (String × Content) → List Char
  | [] => []
  | (key, value) :: entries =>
    ',' :: (f.newline indent ++ printStr key ++ f.colon ++ print f indent value ++
      printEntries f indent entries)

end

/-- The whole text of a value. -/
def printText (f : Layout) (c : Content) : String := String.ofList (print f 0 c)

/-! ## Reading -/

/-- The white space JSON allows between tokens. -/
def isSpace (c : Char) : Bool := c = ' ' || c = '\n' || c = '\t' || c = '\r'

def skipSpace (cs : List Char) : List Char := cs.dropWhile isSpace

/-- The value of a hexadecimal digit. -/
def hexValue (c : Char) : Option Nat :=
  if '0' ≤ c ∧ c ≤ '9' then some (c.toNat - 48)
  else if 'a' ≤ c ∧ c ≤ 'f' then some (c.toNat - 87)
  else if 'A' ≤ c ∧ c ≤ 'F' then some (c.toNat - 55)
  else none

/-- Four hexadecimal digits. -/
def hex4 : List Char → Option (Nat × List Char)
  | a :: b :: c :: d :: cs => do
    let a ← hexValue a
    let b ← hexValue b
    let c ← hexValue c
    let d ← hexValue d
    some (((a * 16 + b) * 16 + c) * 16 + d, cs)
  | _ => none

/-- The one-letter escapes. -/
def unescape : Char → Option Char
  | '"' => some '"'
  | '\\' => some '\\'
  | '/' => some '/'
  | 'b' => some (Char.ofNat 0x08)
  | 'f' => some (Char.ofNat 0x0c)
  | 'n' => some (Char.ofNat 0x0a)
  | 'r' => some (Char.ofNat 0x0d)
  | 't' => some (Char.ofNat 0x09)
  | _ => none

/-- The second half of a surrogate pair, whose first half is `high`. -/
def parseLow (high : Nat) : List Char → Option (Char × List Char)
  | '\\' :: 'u' :: cs => do
    let (low, cs) ← hex4 cs
    if 0xdc00 ≤ low ∧ low ≤ 0xdfff then
      some (Char.ofNat (0x10000 + (high - 0xd800) * 0x400 + (low - 0xdc00)), cs)
    else none
  | _ => none

/-- What follows a backslash. A lone surrogate is refused. -/
def parseEscape : List Char → Option (Char × List Char)
  | [] => none
  | e :: cs =>
    if e = 'u' then do
      let (n, cs) ← hex4 cs
      if 0xdc00 ≤ n ∧ n ≤ 0xdfff then none
      else if 0xd800 ≤ n ∧ n ≤ 0xdbff then parseLow n cs
      else some (Char.ofNat n, cs)
    else (unescape e).map (·, cs)

/-- The characters of a string literal after its opening quote. -/
def parseStr : Nat → List Char → Option (List Char × List Char)
  | 0, _ => none
  | _ + 1, [] => none
  | bound + 1, c :: cs =>
    if c = '"' then some ([], cs)
    else if c = '\\' then do
      let (x, cs) ← parseEscape cs
      let (xs, cs) ← parseStr bound cs
      some (x :: xs, cs)
    else if c.toNat < 0x20 then none
    else do
      let (xs, cs) ← parseStr bound cs
      some (c :: xs, cs)

/-- One or more digits. -/
def parseDigits (cs : List Char) : Option (List Char × List Char) :=
  if cs.takeWhile Char.isDigit = [] then none
  else some (cs.takeWhile Char.isDigit, cs.dropWhile Char.isDigit)

/-- The part of a number after the point, if it has one. -/
def parseFraction : List Char → Option (List Char × List Char)
  | '.' :: cs => do
    let (ds, cs) ← parseDigits cs
    some ('.' :: ds, cs)
  | cs => some ([], cs)

/-- The sign of an exponent. -/
def parseSign : List Char → List Char × List Char
  | '+' :: cs => (['+'], cs)
  | '-' :: cs => (['-'], cs)
  | cs => ([], cs)

/-- The exponent of a number, if it has one. -/
def parseExponent : List Char → Option (List Char × List Char)
  | [] => some ([], [])
  | c :: cs =>
    if c = 'e' ∨ c = 'E' then do
      let (ds, rest) ← parseDigits (parseSign cs).2
      some (c :: (parseSign cs).1 ++ ds, rest)
    else some ([], c :: cs)

/-- A number from its sign, its digits and the rest of its spelling: an integer when it fits 64
bits, signed or unsigned, a fraction otherwise. -/
def number (negative : Bool) (digits tail : List Char) : Content :=
  let value := Nat.ofDigitChars 10 digits 0
  let spelling := String.ofList ((if negative then ['-'] else []) ++ digits ++ tail)
  if tail ≠ [] then .float spelling
  else if negative then
    if 0 < value ∧ value ≤ 2 ^ 63 then .int (-value) else .float spelling
  else if value < 2 ^ 64 then .int value
  else .float spelling

/-- A number after its sign. A leading zero stands alone. -/
def parseUnsigned (negative : Bool) (cs : List Char) : Option (Content × List Char) := do
  let (ds, cs) ← parseDigits cs
  if ds.head? = some '0' ∧ ds.length ≠ 1 then none
  else do
    let (fraction, cs) ← parseFraction cs
    let (exponent, cs) ← parseExponent cs
    some (number negative ds (fraction ++ exponent), cs)

def parseNumber : List Char → Option (Content × List Char)
  | [] => none
  | c :: cs => if c = '-' then parseUnsigned true cs else parseUnsigned false (c :: cs)

/-- A value that holds no other. -/
def parseScalar : List Char → Option (Content × List Char)
  | 'n' :: 'u' :: 'l' :: 'l' :: cs => some (.unit, cs)
  | 't' :: 'r' :: 'u' :: 'e' :: cs => some (.bool true, cs)
  | 'f' :: 'a' :: 'l' :: 's' :: 'e' :: cs => some (.bool false, cs)
  | '"' :: cs => do
    let (s, rest) ← parseStr cs.length cs
    some (.str (String.ofList s), rest)
  | cs => parseNumber cs

/-- The items of an array up to its closing bracket, `value` reading one of them. -/
def parseItems (value : List Char → Option (Content × List Char)) :
    Nat → List Char → Option (List Content × List Char)
  | 0, _ => none
  | bound + 1, cs => do
    let (item, cs) ← value (skipSpace cs)
    match skipSpace cs with
    | ']' :: cs => some ([item], cs)
    | ',' :: cs => do
      let (items, cs) ← parseItems value bound cs
      some (item :: items, cs)
    | _ => none

/-- One entry of an object: a key, a colon and a value. -/
def parseEntry (value : List Char → Option (Content × List Char)) (cs : List Char) :
    Option ((String × Content) × List Char) :=
  match skipSpace cs with
  | '"' :: cs => do
    let (key, cs) ← parseStr cs.length cs
    match skipSpace cs with
    | ':' :: cs => do
      let (item, cs) ← value (skipSpace cs)
      some ((String.ofList key, item), cs)
    | _ => none
  | _ => none

/-- The entries of an object up to its closing brace. -/
def parseEntries (value : List Char → Option (Content × List Char)) :
    Nat → List Char → Option (List (String × Content) × List Char)
  | 0, _ => none
  | bound + 1, cs => do
    let (entry, cs) ← parseEntry value cs
    match skipSpace cs with
    | '}' :: cs => some ([entry], cs)
    | ',' :: cs => do
      let (entries, cs) ← parseEntries value bound cs
      some (entry :: entries, cs)
    | _ => none

/-- The rest of an array after its opening bracket. -/
def parseSeq (value : List Char → Option (Content × List Char)) (cs : List Char) :
    Option (Content × List Char) :=
  match skipSpace cs with
  | ']' :: cs => some (.seq [], cs)
  | _ => (parseItems value cs.length cs).map fun p => (.seq p.1, p.2)

/-- The rest of an object after its opening brace. -/
def parseMap (value : List Char → Option (Content × List Char)) (cs : List Char) :
    Option (Content × List Char) :=
  match skipSpace cs with
  | '}' :: cs => some (.map [], cs)
  | _ => (parseEntries value cs.length cs).map fun p => (.map p.1, p.2)

/-- A value nested at most `depth` arrays and objects deep. -/
def parseValue : Nat → List Char → Option (Content × List Char)
  | _, [] => none
  | 0, c :: cs => if c = '[' ∨ c = '{' then none else parseScalar (c :: cs)
  | depth + 1, c :: cs =>
    if c = '[' then parseSeq (parseValue depth) cs
    else if c = '{' then parseMap (parseValue depth) cs
    else parseScalar (c :: cs)

/-- The nesting the reader accepts. -/
def depthLimit : Nat := 127

/-- A whole text: one value with white space around it. -/
def parseText (text : String) : Option Content :=
  match parseValue depthLimit (skipSpace text.toList) with
  | some (c, rest) => if skipSpace rest = [] then some c else none
  | none => none

/-! ## Numbers a double holds -/

/-- Appends digits to a significand for as long as it fits 64 bits, and leaves the rest. -/
def takeDigits (significand : Nat) : List Char → Nat × List Char
  | [] => (significand, [])
  | c :: cs =>
    if significand * 10 + (c.toNat - 48) < 2 ^ 64 then
      takeDigits (significand * 10 + (c.toNat - 48)) cs
    else (significand, c :: cs)

/-- The double nearest to a number, of two the even one, as if doubles had no largest. -/
def nearest (n : Nat) : Nat :=
  let unit := 2 ^ (n.log2 - 52)
  let below := n / unit
  if 2 * (n % unit) < unit ∨ 2 * (n % unit) = unit ∧ below % 2 = 0 then below * unit
  else (below + 1) * unit

/-- Scaling a significand by a power of ten does not overflow. Powers from `10 ^ 309` on are no
doubles themselves; division never overflows. -/
def scales (significand : Nat) (exponent : Int) : Bool :=
  significand = 0 ∨ exponent ≤ 0 ∨
    (exponent ≤ 308 ∧
      nearest (nearest significand * nearest (10 ^ exponent.toNat)) < 2 ^ 1024)

/-- A number, as it is spelled, is in the range of a double. Digits that do not fit the
significand count as zeros; an exponent of 32 bits overflows on its own. -/
def heldByDouble (spelling : String) : Bool :=
  let cs := spelling.toList.dropWhile (· = '-')
  let whole := cs.takeWhile Char.isDigit
  let cs := cs.dropWhile Char.isDigit
  let decimals := if cs.head? = some '.' then cs.tail.takeWhile Char.isDigit else []
  let cs := if cs.head? = some '.' then cs.tail.dropWhile Char.isDigit else cs
  let (sign, power) := parseSign cs.tail
  let exponent := Nat.ofDigitChars 10 power 0
  let (significand, dropped) := takeDigits 0 whole
  let (significand, unread) := takeDigits significand decimals
  let scale : Int := dropped.length - (decimals.length - unread.length : Nat)
  if sign = ['-'] then scales significand (scale - exponent)
  else (significand = 0 ∨ exponent < 2 ^ 31) && scales significand (scale + exponent)

mutual

/-- Every number in a value is in the range of a double. -/
def inRange : Content → Bool
  | .float spelling => heldByDouble spelling
  | .seq items => inRangeItems items
  | .map entries => inRangeEntries entries
  | _ => true

def inRangeItems : List Content → Bool
  | [] => true
  | item :: items => inRange item && inRangeItems items

def inRangeEntries : List (String × Content) → Bool
  | [] => true
  | entry :: entries => inRange entry.2 && inRangeEntries entries

end

/-- A whole text, all of whose values are built. -/
def parseContent (text : String) : Option Content := (parseText text).filter inRange

example : (parseText "[1e309]").isSome ∧ (parseContent "[1e309]").isNone := by decide +kernel

/-- What is built from a text is what it says, with every number in range. -/
theorem parseContent_eq_some_iff {text : String} {c : Content} :
    parseContent text = some c ↔ parseText text = some c ∧ inRange c = true := by
  rw [parseContent, Option.filter_eq_some_iff]

end Json
