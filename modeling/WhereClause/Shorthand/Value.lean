import WhereClause.Shorthand.Reader
import WhereClause.Value

/-!
# Values in the shorthand

A value is a text in single quotes, one of the words NULL, TRUE and FALSE, a number, or a bare
word.

Main definitions:

* `number?`: a number that does not go on as a word;
* `value`: any value.
-/

set_option autoImplicit false

namespace WhereClause.Shorthand

def isBareChar (c : Char) : Bool :=
  isWordChar c || c == '.' || c == ':' || c == '%' || c == '-'

/-- The digits after a decimal point at the start of the text, if there is a point and a digit. -/
def fraction? : Text → Option (Text × Text)
  | '.' :: s =>
    match Numeral.span s with
    | ([], _) => none
    | (digits, rest) => some (digits, rest)
  | _ => none

/-- The number at the start of the text, without its sign. -/
def unsigned? (negative : Bool) (s : Text) : Option (Value × Text) :=
  match Numeral.span s with
  | ([], _) => none
  | (whole, rest) =>
    match fraction? rest with
    | some (fraction, rest) =>
      some (.float (Binary64.ofDecimal negative (Decimal.ofNumerals whole fraction 0)), rest)
    | none =>
      let n : Int := Numeral.toNat whole
      (int64OfInt? (if negative then -n else n)).map fun k => (.int k, rest)

/-- The number at the start of the text: whole if it has no decimal point.  A whole number beyond
64 bits is none, and neither is what goes on as a bare word. -/
def number? (s : Text) : Option (Value × Text) :=
  let number := match s with
    | '-' :: s => unsigned? true s
    | _ => unsigned? false s
  match number with
  | some (v, rest) => if rest.head?.any isBareChar then none else some (v, rest)
  | none => none

def quotedText : Reader Value :=
  .string <$> Reader.ofOption .mark (Quoted.read? '\'')

def bareWord : Reader Value :=
  .string <$> run isBareChar

def value : Reader Value :=
  quotedText
    <|> (keyword "NULL" *> pure .null)
    <|> (keyword "TRUE" *> pure (.bool true))
    <|> (keyword "FALSE" *> pure (.bool false))
    <|> Reader.ofOption .word number?
    <|> bareWord

end WhereClause.Shorthand
