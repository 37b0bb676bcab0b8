import WhereClause.Dialect
import WhereClause.Toml.Table

/-!
# Settings

What a settings file may say: the dialect to render in, and whether to use colours.

Main definitions:

* `Settings`: the settings, with their defaults;
* `Settings.ofToml?`: the settings in the text of a file.

The file may hold other keys, which say nothing.  A dialect may also be given as a table whose only
key is the dialect, with nothing under it.
-/

set_option autoImplicit false

namespace WhereClause

structure Settings where
  /-- The dialect to render in unless another is asked for. -/
  dialect : Dialect := .postgres
  color : Bool := true
deriving DecidableEq, Repr

namespace Settings

open Toml

/-- Holds of a value with nothing in it. -/
def isEmpty : Toml → Bool
  | .array [] => true
  | .table [] => true
  | _ => false

def dialectOfValue? : Toml → Option Dialect
  | .string s => Dialect.ofKeyword? s
  | .table [([key], value)] => if isEmpty value then Dialect.ofKeyword? key else none
  | _ => none

/-- Holds if there is nothing in what stands at a path. -/
def isEmptyAt (definitions : List Definition) (d : Definition) : Bool :=
  match d.content with
  | .value v => isEmpty v
  | .elements => false
  | _ => !definitions.any fun other => d.path.isPrefixOf other.path && other.path != d.path

/-- The dialect in a table that is spread over the lines of a document. -/
def dialectOfTable? (key : Text) (definitions : List Definition) : Option Dialect :=
  match definitions.filter fun d => d.path.dropLast == [key] && d.path.length == 2 with
  | [d] => if isEmptyAt definitions d then d.path.getLast?.bind Dialect.ofKeyword? else none
  | _ => none

def dialect? (definitions : List Definition) : Option Dialect :=
  let key : Text := "dialect"
  match contentAt? [key] definitions with
  | none => some ({} : Settings).dialect
  | some (.value v) => dialectOfValue? v
  | some .elements => none
  | some _ => dialectOfTable? key definitions

def color? (definitions : List Definition) : Option Bool :=
  match contentAt? ["color"] definitions with
  | none => some ({} : Settings).color
  | some (.value (.bool b)) => some b
  | some _ => none

/-- The settings in the text of a file, if it is well formed. -/
def ofToml? (s : Text) : Option Settings := do
  let definitions ← readDocument s
  let dialect ← dialect? definitions
  let color ← color? definitions
  return ⟨dialect, color⟩

end Settings

end WhereClause
