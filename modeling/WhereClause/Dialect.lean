import WhereClause.Escaper

/-!
# Dialects

The three dialects of SQL that filters are rendered in.

Main definitions:

* `Dialect`, `Dialect.keyword`, `Dialect.ofKeyword?`: the dialects and their keywords;
* `Dialect.ofName?`: reads a dialect by any of its usual names;
* `Dialect.escaper`: how the dialect writes names, texts, truth values and casts.
-/

set_option autoImplicit false

namespace WhereClause

inductive Dialect where
  | postgres
  | mysql
  | sqlite
deriving DecidableEq, Repr

namespace Dialect

def all : List Dialect := [postgres, mysql, sqlite]

/-- The word that settings and options use. -/
def keyword : Dialect → Text
  | postgres => "postgres"
  | mysql => "mysql"
  | sqlite => "sqlite"

def ofKeyword? (s : Text) : Option Dialect :=
  all.find? fun d => d.keyword == s

def names : Dialect → List Text
  | postgres => ["postgres", "postgresql", "pg"]
  | mysql => ["mysql", "mariadb"]
  | sqlite => ["sqlite", "sqlite3"]

/-- A dialect name in the form it is compared in: trimmed and in lower case. -/
def normalizeName (s : Text) : Text :=
  Text.toLower (Text.trim s)

/-- The dialect that goes by the given name, in any case. -/
def ofName? (s : Text) : Option Dialect :=
  all.find? fun d => (normalizeName s) ∈ d.names

def unknownMessage (s : Text) : Text :=
  "unknown dialect '" ++ normalizeName s ++ "'. Expected: postgres, mysql or sqlite"

end Dialect

/-- The column in a cast to the SQL type named `type`. -/
def castTo (column type : Text) : Text :=
  "CAST(" ++ column ++ " AS " ++ type ++ ")"

namespace Postgres

def castType : CastKind → Text
  | .integer => "INTEGER"
  | .decimal => "NUMERIC"
  | .text => "TEXT"
  | .date => "DATE"
  | .timestamp => "TIMESTAMP"

/-- PostgreSQL: names in double quotes, texts with single quotes doubled. -/
def escaper : Escaper where
  name := "PostgreSQL"
  column := quoteIdentifier '"'
  string := doubleSingleQuotes
  cast name kind := (quoteIdentifier '"' name).map fun column => castTo column (castType kind)

end Postgres

namespace MySql

def castType : CastKind → Text
  | .integer => "SIGNED"
  | .decimal => "DECIMAL(65,10)"
  | .text => "CHAR"
  | .date => "DATE"
  | .timestamp => "DATETIME"

/-- A character inside a text literal: quotes, the backslash and the characters that clients
mistake for the end of input stand behind a backslash. -/
def escapeChar (c : Char) : Text :=
  if c = '\\' then ['\\', '\\']
  else if c = '\'' then ['\\', '\'']
  else if c = '"' then ['\\', '"']
  else if c = '\n' then ['\\', 'n']
  else if c = '\r' then ['\\', 'r']
  else if c = nul then ['\\', '0']
  else if c = '\x1a' then ['\\', 'Z']
  else [c]

def escapeString (s : Text) : Text :=
  s.flatMap escapeChar

/-- MySQL: names in backticks, texts with backslash escapes, truth values as numbers. -/
def escaper : Escaper where
  name := "MySQL"
  column := quoteIdentifier '\x60'
  string s := .ok (escapeString s)
  cast name kind := (quoteIdentifier '\x60' name).map fun column => castTo column (castType kind)
  bool b := if b then "1" else "0"

end MySql

namespace Sqlite

/-- A quoted column in a cast.  Days and times are strings there, and have functions instead. -/
def castColumn (column : Text) : CastKind → Text
  | .integer => castTo column "INTEGER"
  | .decimal => castTo column "REAL"
  | .text => castTo column "TEXT"
  | .date => "date(" ++ column ++ ")"
  | .timestamp => "datetime(" ++ column ++ ")"

/-- SQLite: names in double quotes, texts with single quotes doubled, truth values as numbers. -/
def escaper : Escaper where
  name := "SQLite"
  column := quoteIdentifier '"'
  string := doubleSingleQuotes
  cast name kind := (quoteIdentifier '"' name).map fun column => castColumn column kind
  bool b := if b then "1" else "0"

end Sqlite

/-- How the dialect writes names, texts, truth values and casts. -/
def Dialect.escaper : Dialect → Escaper
  | postgres => Postgres.escaper
  | mysql => MySql.escaper
  | sqlite => Sqlite.escaper

end WhereClause
