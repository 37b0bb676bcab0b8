/-!
# Texts

Every text in this library is the list of its characters.  Sizes and positions that a reader of
an error message sees are counted in bytes of the UTF-8 encoding.

Main definitions:

* `Text.byteLength`: the size of a text in bytes; `Text.dropBytes?` cuts at a byte position;
* `isBlank`: white space in the sense of Unicode; `Text.trim` and `Text.words` go by it;
* `isGap`: the white space that separates tokens;
* `Text.pieces`: the pieces of a text between the occurrences of a separator.

Main statements:

* `Text.byteLength_append`: byte positions add up along a text.
-/

set_option autoImplicit false

namespace WhereClause

/-- A text, as the list of its characters. -/
abbrev Text := List Char

/-- A string literal stands for the list of its characters. -/
instance : Coe String Text := ⟨String.toList⟩

/-- Holds of white space: the characters with the Unicode property `White_Space`. -/
def isBlank (c : Char) : Bool :=
  let n := c.toNat
  (9 ≤ n && n ≤ 13) || n == 32 || n == 0x85 || n == 0xA0 || n == 0x1680
    || (0x2000 ≤ n && n ≤ 0x200A) || n == 0x2028 || n == 0x2029 || n == 0x202F
    || n == 0x205F || n == 0x3000

/-- Holds of the four characters that may stand between the parts of an expression or of a JSON
text. -/
def isGap (c : Char) : Bool :=
  c == ' ' || c == '\t' || c == '\r' || c == '\n'

namespace Text

/-! ### Bytes -/

def byteLength : Text → Nat
  | [] => 0
  | c :: s => c.utf8Size + byteLength s

@[simp] theorem byteLength_nil : byteLength [] = 0 := rfl

@[simp] theorem byteLength_cons (c : Char) (s : Text) :
    byteLength (c :: s) = c.utf8Size + byteLength s := rfl

@[simp] theorem byteLength_append (s t : Text) :
    byteLength (s ++ t) = byteLength s + byteLength t := by
  induction s with
  | nil => simp
  | cons c s ih => rw [List.cons_append, byteLength_cons, byteLength_cons, ih, Nat.add_assoc]

/-- The text without its first `n` bytes, or `none` if that cut falls inside a character or
beyond the end. -/
def dropBytes? : Nat → Text → Option Text
  | 0, s => some s
  | _ + 1, [] => none
  | n + 1, c :: s => if c.utf8Size ≤ n + 1 then dropBytes? (n + 1 - c.utf8Size) s else none

/-! ### Blanks -/

def trimStart (s : Text) : Text :=
  s.dropWhile isBlank

def trimEnd (s : Text) : Text :=
  (s.reverse.dropWhile isBlank).reverse

def trim (s : Text) : Text :=
  trimEnd (trimStart s)

@[simp] theorem trimStart_nil : trimStart [] = [] := rfl

@[simp] theorem trim_nil : trim [] = [] := rfl

/-! ### Pieces -/

/-- The pieces of `s` between the occurrences of `separator`: always one more than there are
occurrences. -/
def pieces (separator : Char) (s : Text) : List Text :=
  s.splitOn separator

/-- The words of `s`: its longest runs without white space. -/
def words (s : Text) : List Text :=
  (s.splitOnP isBlank).filter fun word => !word.isEmpty

def joinWith (separator : Text) (parts : List Text) : Text :=
  separator.intercalate parts

/-- The text with its ASCII letters in upper case. -/
def toUpper (s : Text) : Text :=
  s.map Char.toUpper

/-- The text with its ASCII letters in lower case. -/
def toLower (s : Text) : Text :=
  s.map Char.toLower

/-- The text filled up with spaces at its end to at least `width` characters. -/
def padEnd (width : Nat) (s : Text) : Text :=
  s ++ List.replicate (width - s.length) ' '

/-- The text filled up with `fill` at its start to at least `width` characters. -/
def padStart (fill : Char) (width : Nat) (s : Text) : Text :=
  List.replicate (width - s.length) fill ++ s

/-- What follows `start` in the text, if the text begins with it. -/
def dropStart? : (start : Text) → Text → Option Text
  | [], s => some s
  | _ :: _, [] => none
  | d :: start, c :: s => if c = d then dropStart? start s else none

@[simp] theorem dropStart?_append (start s : Text) : dropStart? start (start ++ s) = some s := by
  induction start with
  | nil => rfl
  | cons d start ih => simp [dropStart?, ih]

theorem eq_append_of_dropStart? {start s rest : Text} (h : dropStart? start s = some rest) :
    s = start ++ rest := by
  induction start generalizing s with
  | nil => simpa [dropStart?] using h
  | cons d start ih =>
    cases s with
    | nil => simp [dropStart?] at h
    | cons c s =>
      simp only [dropStart?] at h
      split at h
      · rename_i hc
        rw [hc, ih h]
        rfl
      · contradiction

end Text

end WhereClause
