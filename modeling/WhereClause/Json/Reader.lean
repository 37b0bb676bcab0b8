import WhereClause.Json.Basic
import WhereClause.Number.Scaling

/-!
# Reading JSON

Readers for JSON values over the characters of a text.  A text that ends too early is told apart
from one that goes wrong earlier.

Main definitions:

* `Json.Fault`: the two ways in which a text fails;
* `Json.readString`, `Json.readNumber`: strings after their opening quote, and numbers;
* `Json.readValue`: a value, with arrays and objects nested at most a given number of levels
  deep;
* `Json.readItems`: the items of an array up to its end or up to the first fault;
* `Json.readList`: a text that holds one array, item by item.
-/

set_option autoImplicit false

namespace WhereClause.Json

/-- Why a text is no JSON. -/
inductive Fault where
  | incomplete
  | malformed
deriving DecidableEq, Repr

def skipGap (s : Text) : Text :=
  s.dropWhile isGap

/-! ### Strings -/

/-- Reads four hexadecimal digits.  Four bytes must be left, whatever they are. -/
def readHex (s : Text) : Except Fault (Nat × Text) :=
  if Text.byteLength (s.take 4) < 4 then .error .incomplete
  else
    match s with
    | a :: b :: c :: d :: rest =>
      match Numeral.ofHex? [a, b, c, d] with
      | some n => .ok (n, rest)
      | none => .error .malformed
    | _ => .error .malformed

def expect (c : Char) : Text → Except Fault Text
  | [] => .error .incomplete
  | d :: rest => if d = c then .ok rest else .error .malformed

/-- Reads what follows `\u`: a code point, or a surrogate pair of two escapes. -/
def readCodePoint (s : Text) : Except Fault (Char × Text) := do
  let (high, s) ← readHex s
  if 0xD800 ≤ high ∧ high < 0xDC00 then
    let s ← expect '\\' s
    let s ← expect 'u' s
    let (low, s) ← readHex s
    if 0xDC00 ≤ low ∧ low < 0xE000 then
      return (Char.ofNat (0x10000 + (high - 0xD800) * 0x400 + (low - 0xDC00)), s)
    else throw .malformed
  else if 0xDC00 ≤ high ∧ high < 0xE000 then throw .malformed
  else return (Char.ofNat high, s)

def readEscape : Text → Except Fault (Char × Text)
  | [] => .error .incomplete
  | '"' :: s => .ok ('"', s)
  | '\\' :: s => .ok ('\\', s)
  | '/' :: s => .ok ('/', s)
  | 'b' :: s => .ok ('\x08', s)
  | 'f' :: s => .ok ('\x0c', s)
  | 'n' :: s => .ok ('\n', s)
  | 'r' :: s => .ok ('\r', s)
  | 't' :: s => .ok ('\t', s)
  | 'u' :: s => readCodePoint s
  | _ :: _ => .error .malformed

/-- Reads a string up to and with its closing quote. -/
def readString (s : Text) : Except Fault (Text × Text) :=
  match s with
  | [] => .error .incomplete
  | c :: s =>
    if c = '"' then .ok ([], s)
    else if c = '\\' then
      match readEscape s with
      | .error e => .error e
      | .ok (d, rest) =>
        if rest.length ≤ s.length then (readString rest).map fun (t, rest) => (d :: t, rest)
        else .error .malformed
    else if c.toNat < 32 then .error .malformed
    else (readString s).map fun (t, rest) => (c :: t, rest)
termination_by s.length

/-! ### Numbers -/

def readDigits (s : Text) : Except Fault (Text × Text) :=
  match Numeral.span s with
  | ([], []) => .error .incomplete
  | ([], _ :: _) => .error .malformed
  | (digits, rest) => .ok (digits, rest)

def readFraction : Text → Except Fault (Option Text × Text)
  | '.' :: s => (readDigits s).map fun (digits, rest) => (some digits, rest)
  | s => .ok (none, s)

/-- Reads the digits of an exponent behind its sign. -/
def readSigned : Text → Except Fault (Int × Text)
  | '-' :: s => (readDigits s).map fun (digits, rest) => (-(Numeral.toNat digits : Int), rest)
  | '+' :: s => (readDigits s).map fun (digits, rest) => (Numeral.toNat digits, rest)
  | s => (readDigits s).map fun (digits, rest) => (Numeral.toNat digits, rest)

def readExponent : Text → Except Fault (Option Int × Text)
  | 'e' :: s => (readSigned s).map fun (n, rest) => (some n, rest)
  | 'E' :: s => (readSigned s).map fun (n, rest) => (some n, rest)
  | s => .ok (none, s)

def ofMagnitude (negative : Bool) : Option Magnitude → Except Fault Json
  | some m => .ok (float (.finite negative m))
  | none => .error .malformed

/-- The number without point and exponent.  Negative zero and numbers beyond 64 bits are floating
point numbers. -/
def ofInteger (negative : Bool) (whole : Text) : Except Fault Json :=
  let n := Numeral.toNat whole
  if negative ∧ n ≠ 0 ∧ n ≤ 9223372036854775808 then .ok (int (-n))
  else if ¬negative ∧ n < 18446744073709551616 then .ok (int n)
  else ofMagnitude negative (Magnitude.ofNumerals? whole [] 0)

/-- Reads a number behind its sign. -/
def readNumber (negative : Bool) (s : Text) : Except Fault (Json × Text) := do
  let (whole, s) ← readDigits s
  if whole.head? = some '0' ∧ 1 < whole.length then throw .malformed
  let (fraction, s) ← readFraction s
  let (exponent, s) ← readExponent s
  if fraction.isNone ∧ exponent.isNone then
    return (← ofInteger negative whole, s)
  else
    let m := Magnitude.ofNumerals? whole (fraction.getD []) (exponent.getD 0)
    return (← ofMagnitude negative m, s)

/-! ### Values -/

def readWord : (word : Text) → Text → Except Fault Text
  | [], s => .ok s
  | c :: word, s => do
    let s ← expect c s
    readWord word s

/-- Reads a literal, a number or a string, whichever begins with the character `c`; `s` follows
it. -/
def readScalar (c : Char) (s : Text) : Except Fault (Json × Text) :=
  if c = 'n' then (readWord "ull" s).map fun rest => (null, rest)
  else if c = 't' then (readWord "rue" s).map fun rest => (bool true, rest)
  else if c = 'f' then (readWord "alse" s).map fun rest => (bool false, rest)
  else if c = '"' then (readString s).map fun (t, rest) => (string t, rest)
  else if c = '-' then readNumber true s
  else if c.isDigit then readNumber false (c :: s)
  else .error .malformed

/-- Reads the items of an array, of which there is at least one, up to and with the closing
bracket.  The items before a fault are answered too. -/
def readItems (item : Text → Except Fault (Json × Text)) (s : Text) :
    List Json × Except Fault Text :=
  match item s with
  | .error e => ([], .error e)
  | .ok (value, rest) =>
    match skipGap rest with
    | [] => ([value], .error .incomplete)
    | c :: rest =>
      if c = ']' then ([value], .ok rest)
      else if c = ',' then
        if rest.length < s.length then
          let (values, outcome) := readItems item rest
          (value :: values, outcome)
        else ([value], .error .malformed)
      else ([value], .error .malformed)
termination_by s.length

def readKey (s : Text) : Except Fault (Text × Text) := do
  let s ← expect '"' (skipGap s)
  let (key, s) ← readString s
  let s ← expect ':' (skipGap s)
  return (key, s)

/-- Reads the members of an object, of which there is at least one, up to and with the closing
brace. -/
def readMembers (item : Text → Except Fault (Json × Text)) (s : Text) :
    Except Fault (List (Text × Json) × Text) :=
  match readKey s with
  | .error e => .error e
  | .ok (key, rest) =>
    match item rest with
    | .error e => .error e
    | .ok (value, rest) =>
      match skipGap rest with
      | [] => .error .incomplete
      | c :: rest =>
        if c = '\x7d' then .ok ([(key, value)], rest)
        else if c = ',' then
          if rest.length < s.length then
            (readMembers item rest).map fun (members, rest) => ((key, value) :: members, rest)
          else .error .malformed
        else .error .malformed
termination_by s.length

def readArray (item : Text → Except Fault (Json × Text)) (s : Text) :
    Except Fault (Json × Text) :=
  match skipGap s with
  | ']' :: rest => .ok (array [], rest)
  | _ =>
    match readItems item s with
    | (items, .ok rest) => .ok (array items, rest)
    | (_, .error e) => .error e

def readObject (item : Text → Except Fault (Json × Text)) (s : Text) :
    Except Fault (Json × Text) :=
  match skipGap s with
  | '\x7d' :: rest => .ok (object [], rest)
  | _ => (readMembers item s).map fun (members, rest) => (object members, rest)

/-- Reads a value, with arrays and objects nested at most `levels` deep. -/
def readValue (levels : Nat) (s : Text) : Except Fault (Json × Text) :=
  match levels, skipGap s with
  | _, [] => .error .incomplete
  | 0, c :: s => readScalar c s
  | levels + 1, c :: s =>
    if c = '[' then readArray (readValue levels) s
    else if c = '\x7b' then readObject (readValue levels) s
    else readScalar c s

/-! ### Texts -/

/-- The number of levels that arrays and objects may be nested. -/
def maxDepth : Nat := 127

/-- What follows the value of a text may only be white space. -/
def finish (s : Text) : Except Fault Unit :=
  match skipGap s with
  | [] => .ok ()
  | _ :: _ => .error .malformed

/-- The items of an array behind its opening bracket that ends the text, up to the first fault, and
that fault. -/
def readList (s : Text) : List Json × Except Fault Unit :=
  match skipGap s with
  | ']' :: rest => ([], finish rest)
  | _ =>
    match readItems (readValue (maxDepth - 1)) s with
    | (items, .ok rest) => (items, finish rest)
    | (items, .error e) => (items, .error e)

end WhereClause.Json
