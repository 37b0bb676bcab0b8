import WhereClause.Number.Binary64

/-!
# TOML numbers

Which texts are numbers.  No setting is a number, so they are checked and not kept.

Main definitions:

* `isDecimalInteger`, `isPrefixedInteger`: whole numbers of 64 bits, in base ten or another;
* `isFloat`: numbers with a fraction or an exponent;
* `isNumber`: all of them.
-/

set_option autoImplicit false

namespace WhereClause.Toml

/-- Holds of digits, in the sense of `p`, with single underscores between some of them. -/
def isGrouped (p : Char → Bool) (s : Text) : Bool :=
  (Text.pieces '_' s).all fun piece => !piece.isEmpty && piece.all p

/-- The text without a sign at its start. -/
def unsigned : Text → Text
  | '+' :: s => s
  | '-' :: s => s
  | s => s

/-- Holds of a whole number without sign and without leading zeros. -/
def isWhole (s : Text) : Bool :=
  isGrouped Char.isDigit s && (s.head? != some '0' || s.length == 1)

/-! ### Whole numbers -/

/-- Holds of a whole number with an optional sign that fits 64 bits. -/
def isDecimalInteger (s : Text) : Bool :=
  let n := Numeral.toNat ((unsigned s).filter Char.isDigit)
  isWhole (unsigned s)
    && (if s.head? == some '-' then n ≤ 9223372036854775808 else n < 9223372036854775808)

/-- Holds of the digits of a whole number in the given base that fits 64 bits. -/
def isInBase (base : Nat) (s : Text) : Bool :=
  isGrouped (fun c => (Numeral.hexDigit? c).any (· < base)) s
    && decide ((s.filterMap Numeral.hexDigit?).foldl (fun n d => n * base + d) 0
      < 9223372036854775808)

/-- Holds of a whole number in base sixteen, eight or two. -/
def isPrefixedInteger : Text → Bool
  | '0' :: 'x' :: s => isInBase 16 s
  | '0' :: 'o' :: s => isInBase 8 s
  | '0' :: 'b' :: s => isInBase 2 s
  | _ => false

/-! ### Numbers with a fraction or an exponent -/

/-- The parts of a number without sign: its whole part, its fraction with the point, and its
exponent with the letter. -/
def floatParts (s : Text) : Text × Text × Text :=
  let (mantissa, exponent) := s.span fun c => c != 'e' && c != 'E'
  let (whole, fraction) := mantissa.span (· != '.')
  (whole, fraction, exponent)

/-- Holds of a number with a fraction, an exponent or both, whatever its size. -/
def isFloatForm (s : Text) : Bool :=
  let (whole, fraction, exponent) := floatParts (unsigned s)
  (!fraction.isEmpty || !exponent.isEmpty) && isWhole whole
    && (fraction.isEmpty || isGrouped Char.isDigit (fraction.drop 1))
    && (exponent.isEmpty || isGrouped Char.isDigit (unsigned (exponent.drop 1)))

/-- The number that such a text stands for, without its sign. -/
def floatValue (s : Text) : Decimal :=
  let (whole, fraction, exponent) := floatParts (unsigned s)
  let scale := exponent.drop 1
  let size : Int := Numeral.toNat (scale.filter Char.isDigit)
  Decimal.ofNumerals (whole.filter Char.isDigit) (fraction.filter Char.isDigit)
    (if scale.head? == some '-' then -size else size)

/-- Holds of a number with a fraction, an exponent or both that is not above every number of the
binary format.  There is no such bound below. -/
def isFloat (s : Text) : Bool :=
  isFloatForm s && (s.head? == some '-' || (Magnitude.ofDecimal? (floatValue s)).isSome)

def isNumber (s : Text) : Bool :=
  isDecimalInteger s || isPrefixedInteger s || isFloat s
    || unsigned s == "inf".toList || unsigned s == "nan".toList

end WhereClause.Toml
