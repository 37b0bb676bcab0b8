import WhereClause.Text.Basic

/-!
# Fixed texts

Texts that the program prints whatever the nodes are: the reference of operators, its help, and what
it says when there is nothing to do.
-/

set_option autoImplicit false

namespace WhereClause.CommandLine

def line (s : Text) : Text :=
  s ++ ['\n']

/-- The rows of the reference: what to write, what it means, and an example of the SQL. -/
def referenceRows : List (Text × Text × Text) :=
  [("=  !=  <  >  <=  >=", "Comparison", "a = 'x'"),
    ("BETWEEN a AND b", "Inclusive range", "a BETWEEN 1 AND 9"),
    ("IN (x, y)", "List membership", "a IN ('x', 'y')"),
    ("IN (SELECT ...)", "Subquery membership", "a IN (SELECT ...)"),
    ("LIKE p", "Case-insensitive match", "LOWER(a) LIKE LOWER('%p%')"),
    ("IS [NOT] NULL", "Null check", "a IS NULL"),
    ("a|b", "Multi-column (OR)", "(a = 1 OR b = 1)"),
    ("integer:a", "Cast column", "CAST(a AS INTEGER)"),
    ("field:b", "Column reference value", "a < b"),
    ("( ... )", "Sub-group", "(a = 1 OR a = 2)")]

def referenceRow (row : Text × Text × Text) : Text :=
  line (Text.padEnd 22 row.1 ++ ' ' :: Text.padEnd 24 row.2.1 ++ ' ' :: row.2.2)

def reference : Text :=
  "wherekit Operator Reference\n\n" ++ referenceRow ("Syntax", "Meaning", "SQL") ++
    line (List.replicate 80 '─') ++ referenceRows.flatMap referenceRow

/-- What is printed when there is nothing to do. -/
def greeting : Text :=
  "wherekit: portable WHERE clauses\n\nUsage: wherekit <EXPR> [OPTIONS]\n\nTry: wherekit --help\n"

/-- What is printed in answer to a request for help. -/
def helpText : Text :=
  "Render portable, escaped SQL WHERE clauses\n\n" ++
  "Usage: wherekit [OPTIONS] [EXPR] [COMMAND]\n\n" ++
  "Commands:\n" ++
  "  explain    Parse an expression and show its node tree\n" ++
  "  operators  Show the operator reference\n" ++
  "  help       Print this message\n\n" ++
  "Options:\n" ++
  "  -f, --file <FILE>        Read conditions from a JSON document instead\n" ++
  "  -d, --dialect <DIALECT>  SQL dialect (postgres, mysql, sqlite)\n" ++
  "      --format <FORMAT>    Output format (sql, json)\n" ++
  "  -c, --config <CONFIG>    Config file\n" ++
  "  -v, --verbose            Verbose output\n" ++
  "  -h, --help               Print help\n" ++
  "  -V, --version            Print version\n"

end WhereClause.CommandLine
