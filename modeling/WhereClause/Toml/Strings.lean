import WhereClause.Number.Decimal

/-!
# Space and strings in TOML

What stands between the parts of a document, and the four kinds of strings: with or without
escapes, on one line or on several.  Readers return what they read and the text behind it.

Main definitions:

* `skipBlanks`, `skipLines`: space within a line, and space over lines with comments;
* `endOfLine?`: the end of a line that holds nothing more;
* `readBasic`, `readLiteral`: strings on one line, behind their opening quote;
* `readLongBasic`, `readLongLiteral`: strings over lines, behind the line break at their start;
* `readString`: a string of any kind.

A line break is kept as a line feed, however it is written.
-/

set_option autoImplicit false

namespace WhereClause.Toml

/-! ### Space -/

/-- The text without the spaces and tabs at its start. -/
def skipBlanks (s : Text) : Text :=
  s.dropWhile fun c => c == ' ' || c == '\t'

/-- The text behind the line break at its start. -/
def lineBreak? : Text → Option Text
  | '\n' :: s => some s
  | '\r' :: '\n' :: s => some s
  | _ => none

/-- The text without the spaces, tabs and line breaks at its start. -/
def skipSpace : Text → Text
  | ' ' :: s => skipSpace s
  | '\t' :: s => skipSpace s
  | '\n' :: s => skipSpace s
  | '\r' :: '\n' :: s => skipSpace s
  | s => s

/-- Holds of the characters that must not stand in comments and strings. -/
def isControl (c : Char) : Bool :=
  (c.toNat < 32 && c != '\t') || c.toNat == 127

/-- The text from the end of the line on, after spaces and a comment, if that is all the line
holds. -/
def skipRemark (s : Text) : Text :=
  match skipBlanks s with
  | '#' :: s => s.dropWhile fun c => !isControl c
  | s => s

/-- The text after the end of the line, which may be the end of the text. -/
def endOfLine? (s : Text) : Option Text :=
  match skipRemark s with
  | [] => some []
  | s => lineBreak? s

/-- The text without the white space, line breaks and comments at its start. -/
def skipLines (s : Text) : Text :=
  match lineBreak? (skipRemark s) with
  | some rest => if rest.length < s.length then skipLines rest else rest
  | none => skipRemark s
termination_by s.length

/-! ### Strings on one line -/

def codePoint? (digits : Text) : Option Char := do
  let n ← Numeral.ofHex? digits
  if n.isValidChar then some (Char.ofNat n) else none

def readEscape : Text → Option (Char × Text)
  | 'b' :: s => some ('\x08', s)
  | 't' :: s => some ('\t', s)
  | 'n' :: s => some ('\n', s)
  | 'f' :: s => some ('\x0c', s)
  | 'r' :: s => some ('\r', s)
  | '"' :: s => some ('"', s)
  | '\\' :: s => some ('\\', s)
  | 'u' :: a :: b :: c :: d :: s => (codePoint? [a, b, c, d]).map fun x => (x, s)
  | 'U' :: a :: b :: c :: d :: e :: f :: g :: h :: s =>
    (codePoint? [a, b, c, d, e, f, g, h]).map fun x => (x, s)
  | _ => none

/-- Reads a string with escapes up to and with its closing quote. -/
def readBasic (s : Text) : Option (Text × Text) :=
  match s with
  | [] => none
  | c :: s =>
    if c = '"' then some ([], s)
    else if c = '\\' then
      match readEscape s with
      | some (d, rest) =>
        if rest.length ≤ s.length then (readBasic rest).map fun (t, rest) => (d :: t, rest)
        else none
      | none => none
    else if isControl c then none
    else (readBasic s).map fun (t, rest) => (c :: t, rest)
termination_by s.length

/-- Reads a string without escapes up to and with its closing quote. -/
def readLiteral : Text → Option (Text × Text)
  | [] => none
  | c :: s =>
    if c = '\'' then some ([], s)
    else if isControl c then none
    else (readLiteral s).map fun (t, rest) => (c :: t, rest)

/-! ### Strings over lines -/

/-- The end of a long string at a quote, given the text behind that quote: the quotes that still
belong to the string, at most two, and the text behind the three that close it. -/
def closeLong? (quote : Char) (s : Text) : Option (Text × Text) :=
  match (s.takeWhile (· == quote)).length with
  | n + 2 => some (List.replicate (min n 2) quote, s.drop (min n 2 + 2))
  | _ => none

/-- Reads a long string with escapes up to and with the quotes that close it.  A backslash at the
end of a line takes away the space around that line break. -/
def readLongBasic (s : Text) : Option (Text × Text) :=
  match s with
  | [] => none
  | '\r' :: '\n' :: s => (readLongBasic s).map fun (t, rest) => ('\n' :: t, rest)
  | c :: s =>
    if c = '"' then
      match closeLong? '"' s with
      | some (t, rest) => some (t, rest)
      | none => (readLongBasic s).map fun (t, rest) => ('"' :: t, rest)
    else if c = '\\' then
      match lineBreak? (skipBlanks s) with
      | some rest =>
        if (skipSpace rest).length ≤ s.length then readLongBasic (skipSpace rest) else none
      | none =>
        match readEscape s with
        | some (d, rest) =>
          if rest.length ≤ s.length then (readLongBasic rest).map fun (t, rest) => (d :: t, rest)
          else none
        | none => none
    else if c != '\n' && isControl c then none
    else (readLongBasic s).map fun (t, rest) => (c :: t, rest)
termination_by s.length

/-- Reads a long string without escapes up to and with the quotes that close it. -/
def readLongLiteral : Text → Option (Text × Text)
  | [] => none
  | '\r' :: '\n' :: s => (readLongLiteral s).map fun (t, rest) => ('\n' :: t, rest)
  | c :: s =>
    if c = '\'' then
      match closeLong? '\'' s with
      | some (t, rest) => some (t, rest)
      | none => (readLongLiteral s).map fun (t, rest) => ('\'' :: t, rest)
    else if c != '\n' && isControl c then none
    else (readLongLiteral s).map fun (t, rest) => (c :: t, rest)

/-- The text without the line break at its start, if it has one. -/
def skipBreak (s : Text) : Text :=
  (lineBreak? s).getD s

def readString : Text → Option (Text × Text)
  | '"' :: '"' :: '"' :: s => readLongBasic (skipBreak s)
  | '\'' :: '\'' :: '\'' :: s => readLongLiteral (skipBreak s)
  | '"' :: s => readBasic s
  | '\'' :: s => readLiteral s
  | _ => none

end WhereClause.Toml
