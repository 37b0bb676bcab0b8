import WhereClause.Text.Basic

/-!
# Columns

A column is a name and, if its identifier begins with the keyword of a cast and a colon, the type
to cast it to before it is compared.  A condition may name several columns, separated by `|`.

Main definitions:

* `CastKind`, `Column`;
* `Column.ofIdentifier`: reads one identifier;
* `Column.text`: writes it;
* `Column.listOfText`: reads a list of columns, or says what is wrong with it.

Main statements:

* `Column.ofIdentifier_cases`: an identifier asks for a cast, or it is a name;
* `Column.text_ofIdentifier`: writing undoes reading.
-/

set_option autoImplicit false

namespace WhereClause

/-- The type a column is cast to. -/
inductive CastKind where
  | integer
  | decimal
  | text
  | date
  | timestamp
deriving DecidableEq, Repr

namespace CastKind

def all : List CastKind := [integer, decimal, text, date, timestamp]

/-- The word in front of the colon that asks for the cast. -/
def keyword : CastKind → Text
  | integer => "integer"
  | decimal => "decimal"
  | text => "text"
  | date => "date"
  | timestamp => "timestamp"

def ofKeyword? (s : Text) : Option CastKind :=
  all.find? fun kind => kind.keyword == s

@[simp] theorem ofKeyword?_keyword (kind : CastKind) : ofKeyword? kind.keyword = some kind := by
  cases kind <;> decide

theorem ofKeyword?_eq_some {s : Text} {kind : CastKind} :
    ofKeyword? s = some kind ↔ s = kind.keyword := by
  constructor
  · intro h
    exact (beq_iff_eq.1 (List.find?_some (p := fun k : CastKind => k.keyword == s) h)).symm
  · rintro rfl
    exact ofKeyword?_keyword kind

end CastKind

/-- A reference to a column. -/
structure Column where
  /-- The name, dotted if it is qualified. -/
  name : Text
  cast : Option CastKind
deriving DecidableEq, Repr

/-- Why a list of columns is refused. -/
inductive ColumnError where
  | emptyList
  /-- A place in the list `fields` is blank. -/
  | emptyColumn (fields : Text)
  /-- Nothing follows the cast in `identifier`. -/
  | missingName (identifier : Text)
deriving DecidableEq, Repr

def ColumnError.message : ColumnError → Text
  | emptyList => "fields must not be empty"
  | emptyColumn fields => "empty column in field list '" ++ fields ++ "'"
  | missingName identifier => "missing column name after cast prefix in '" ++ identifier ++ "'"

namespace Column

/-! ### Identifiers -/

/-- What stands before the first colon and what after it, if there is a colon. -/
def splitColon? : Text → Option (Text × Text)
  | [] => none
  | c :: s =>
    if c = ':' then some ([], s) else (splitColon? s).map fun (first, rest) => (c :: first, rest)

/-- The column that an identifier names.  What stands before a colon is part of the name unless
it is the keyword of a cast. -/
def ofIdentifier (identifier : Text) : Column :=
  match splitColon? identifier with
  | some (first, rest) =>
    match CastKind.ofKeyword? first with
    | some kind => ⟨rest, some kind⟩
    | none => ⟨identifier, none⟩
  | none => ⟨identifier, none⟩

def text (column : Column) : Text :=
  match column.cast with
  | some kind => kind.keyword ++ ':' :: column.name
  | none => column.name

theorem splitColon?_append {first : Text} (h : ':' ∉ first) (rest : Text) :
    splitColon? (first ++ ':' :: rest) = some (first, rest) := by
  induction first with
  | nil => rfl
  | cons c first ih =>
      rw [List.mem_cons, not_or] at h
      rw [List.cons_append, splitColon?, if_neg (Ne.symm h.1), ih h.2]
      rfl

theorem eq_append_of_splitColon? {s first rest : Text} (h : splitColon? s = some (first, rest)) :
    s = first ++ ':' :: rest := by
  induction s generalizing first with
  | nil => cases h
  | cons c s ih =>
      rw [splitColon?] at h
      split at h
      · rename_i hc
        cases h
        rw [hc]
        rfl
      · obtain ⟨⟨first', rest'⟩, hinner, heq⟩ := Option.map_eq_some_iff.1 h
        cases heq
        rw [ih hinner]
        rfl

/-- An identifier asks for a cast, or it is a name. -/
theorem ofIdentifier_cases (identifier : Text) :
    (∃ kind name, identifier = kind.keyword ++ ':' :: name ∧
        ofIdentifier identifier = ⟨name, some kind⟩) ∨
      ofIdentifier identifier = ⟨identifier, none⟩ := by
  unfold ofIdentifier
  split
  · rename_i first rest hcolon
    split
    · rename_i kind hkind
      obtain rfl := CastKind.ofKeyword?_eq_some.1 hkind
      exact .inl ⟨kind, rest, eq_append_of_splitColon? hcolon, rfl⟩
    · exact .inr rfl
  · exact .inr rfl

theorem ofIdentifier_keyword (kind : CastKind) (name : Text) :
    ofIdentifier (kind.keyword ++ ':' :: name) = ⟨name, some kind⟩ := by
  have hcolon : ':' ∉ kind.keyword := by cases kind <;> decide
  rw [ofIdentifier, splitColon?_append hcolon]
  dsimp only
  rw [CastKind.ofKeyword?_keyword]

/-- The text of a column is the identifier it was read from. -/
theorem text_ofIdentifier (identifier : Text) : (ofIdentifier identifier).text = identifier := by
  obtain ⟨kind, name, rfl, hread⟩ | hread := ofIdentifier_cases identifier
  · rw [hread]
    rfl
  · rw [hread]
    rfl

theorem name_suffix_text (column : Column) : column.name <:+ column.text := by
  unfold text
  split
  · exact (List.suffix_cons ':' column.name).trans (List.suffix_append _ _)
  · exact List.suffix_rfl

/-- There is no name in an identifier that is empty or ends behind the colon of its cast. -/
theorem name_ofIdentifier_eq_nil {identifier : Text} : (ofIdentifier identifier).name = [] ↔
    identifier = [] ∨ ∃ kind : CastKind, identifier = kind.keyword ++ [':'] := by
  constructor
  · intro h
    obtain ⟨kind, name, rfl, hread⟩ | hread := ofIdentifier_cases identifier
    · rw [hread] at h
      obtain rfl : name = [] := h
      exact .inr ⟨kind, rfl⟩
    · rw [hread] at h
      exact .inl h
  · rintro (rfl | ⟨kind, rfl⟩)
    · rfl
    · rw [ofIdentifier_keyword]

/-! ### Lists -/

def separator : Char := '|'

/-- The column at one place of the list `fields`. -/
def ofPiece (fields piece : Text) : Except ColumnError Column :=
  let identifier := Text.trim piece
  if identifier = [] then .error (.emptyColumn fields)
  else
    let column := ofIdentifier identifier
    if column.name = [] then .error (.missingName identifier) else .ok column

def listOfText (fields : Text) : Except ColumnError (List Column) :=
  if Text.trim fields = [] then .error .emptyList
  else (Text.pieces separator fields).mapM (ofPiece fields)

end Column

end WhereClause
