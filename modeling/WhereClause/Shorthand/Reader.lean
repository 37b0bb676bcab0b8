import WhereClause.Text.Alphanumeric
import WhereClause.Text.Basic

/-!
# Readers

A reader takes a piece from the start of a text and answers with its value and the rest of the
text, or stops.  A reader that stops because the text has another form leaves room for an
alternative; the two other ways to stop are final.

Main definitions:

* `Reading`, `Reader`: what a reader answers, and readers;
* `Reader.orElse`, `Reader.optional`, `Reader.many`: alternatives, options and repetitions;
* `mark`, `run`, `blanks`, `keyword`: the readers everything else is made of.

Main statements:

* `bind_apply`, `orElse_apply`: what a sequence and an alternative answer;
* `many_eq`: a repetition, one step at a time.
-/

set_option autoImplicit false

namespace WhereClause.Shorthand

/-- What a reader was looking for where it stopped. -/
inductive Expected where
  | word
  /-- A keyword or an operator. -/
  | symbol
  | wordEnd
  | blank
  /-- A particular character. -/
  | mark
  | finish
deriving DecidableEq, Repr

/-- The code word that stands for it in messages. -/
def Expected.code : Expected → Text
  | word => "TakeWhile1"
  | symbol => "Tag"
  | wordEnd => "Not"
  | blank => "MultiSpace"
  | mark => "Char"
  | finish => "Eof"

/-- What a reader answers. -/
inductive Reading (α : Type) where
  | done (value : α) (rest : Text)
  /-- The text `rest` does not begin with what was expected; an alternative may be tried. -/
  | unmatched (expected : Expected) (rest : Text)
  /-- A group opens at `rest` in as many groups as there may be. -/
  | tooDeep (rest : Text)
  | insideChar

def Reader (α : Type) : Type :=
  Text → Reading α

namespace Reader

variable {α β : Type}

/-- One reader after another, which may depend on the value of the first. -/
def bind (x : Reader α) (f : α → Reader β) : Reader β := fun s =>
  match x s with
  | .done a rest => f a rest
  | .unmatched e rest => .unmatched e rest
  | .tooDeep rest => .tooDeep rest
  | .insideChar => .insideChar

instance : Monad Reader where
  pure a := fun s => .done a s
  bind := bind

@[simp] theorem pure_apply (a : α) (s : Text) : (pure a : Reader α) s = .done a s := rfl

theorem bind_apply (x : Reader α) (f : α → Reader β) (s : Text) :
    (x >>= f) s = match x s with
      | .done a rest => f a rest
      | .unmatched e rest => .unmatched e rest
      | .tooDeep rest => .tooDeep rest
      | .insideChar => .insideChar := rfl

def orElse (x : Reader α) (y : Unit → Reader α) : Reader α := fun s =>
  match x s with
  | .unmatched _ _ => y () s
  | reading => reading

instance : OrElse (Reader α) := ⟨orElse⟩

theorem orElse_apply (x y : Reader α) (s : Text) :
    (x <|> y) s = match x s with
      | .unmatched _ _ => y s
      | reading => reading := rfl

/-- The value, or nothing where the reader does not match. -/
def optional (x : Reader α) : Reader (Option α) :=
  some <$> x <|> pure none

/-- As many values as match one after the other.  A reading that takes nothing from the text ends
the repetition too. -/
def many (x : Reader α) (s : Text) : Reading (List α) :=
  match x s with
  | .done a rest =>
    if rest.length < s.length then
      match many x rest with
      | .done as rest => .done (a :: as) rest
      | reading => reading
    else .done [] s
  | .unmatched _ _ => .done [] s
  | .tooDeep rest => .tooDeep rest
  | .insideChar => .insideChar
termination_by s.length

/-- A repetition, one step at a time. -/
theorem many_eq (x : Reader α) (s : Text) :
    many x s = match x s with
      | .done a rest =>
        if rest.length < s.length then
          match many x rest with
          | .done as rest => .done (a :: as) rest
          | reading => reading
        else .done [] s
      | .unmatched _ _ => .done [] s
      | .tooDeep rest => .tooDeep rest
      | .insideChar => .insideChar := by
  rw [many]

/-- The reader that answers as `f` does, with `none` for no match. -/
def ofOption (expected : Expected) (f : Text → Option (α × Text)) : Reader α := fun s =>
  match f s with
  | some (a, rest) => .done a rest
  | none => .unmatched expected s

end Reader

/-! ### Characters and runs -/

/-- Holds of the characters of a word: letters, numbers and the underscore. -/
def isWordChar (c : Char) : Bool :=
  isAlphanumeric c || c == '_'

def mark (c : Char) : Reader Unit := fun s =>
  match s with
  | d :: rest => if d = c then .done () rest else .unmatched .mark s
  | [] => .unmatched .mark s

/-- Reads the longest run of characters with property `p`, which must not be empty. -/
def run (p : Char → Bool) : Reader Text := fun s =>
  match s.takeWhile p with
  | [] => .unmatched .word s
  | c :: word => .done (c :: word) (s.dropWhile p)

def blanks : Reader Unit := fun s =>
  .done () (s.dropWhile isGap)

/-- Reads a gap of at least one character. -/
def blanks₁ : Reader Unit := fun s =>
  match s with
  | c :: rest => if isGap c then .done () (rest.dropWhile isGap) else .unmatched .blank s
  | [] => .unmatched .blank s

def finish : Reader Unit := fun s =>
  match s with
  | [] => .done () []
  | _ :: _ => .unmatched .finish s

/-! ### Keywords -/

/-- The form in which letters of keywords are compared.  Of the characters beyond ASCII only the
Kelvin sign has an ASCII letter as its lower case. -/
def foldCase (c : Char) : Char :=
  if c = '\u212a' then 'k' else c.toLower

/-- Holds if the text agrees with the keyword in any case, as far as both go, and is no shorter in
bytes. -/
def beginsWith (keyword s : Text) : Bool :=
  (s.zip keyword).all (fun (c, k) => foldCase c == foldCase k)
    && decide (Text.byteLength keyword ≤ Text.byteLength s)

/-- Reads a keyword, in any case, that is not the beginning of a longer word.  The keyword takes as
many bytes as it has in ASCII, and that cut may fall inside a character. -/
def keyword (word : Text) : Reader Unit := fun s =>
  if beginsWith word s then
    match Text.dropBytes? (Text.byteLength word) s with
    | some rest => if rest.head?.any isWordChar then .unmatched .wordEnd rest else .done () rest
    | none => .insideChar
  else .unmatched .symbol s

end WhereClause.Shorthand
