import WhereClause.Node.Basic

/-!
# Named constructors

One function for each comparison, which joins its condition with AND, and one beside it which
joins with OR.  All of them go through `Node.ofParts`.
-/

set_option autoImplicit false

namespace WhereClause.Node

variable (fields : Text) (operand : Operand) (low high : Value) (children : List Node)

def equalTo : Except BuildError Node := ofParts fields .equal operand .and

def orEqualTo : Except BuildError Node := ofParts fields .equal operand .or

def notEqualTo : Except BuildError Node := ofParts fields .notEqual operand .and

def orNotEqualTo : Except BuildError Node := ofParts fields .notEqual operand .or

def greaterThan : Except BuildError Node := ofParts fields .greater operand .and

def orGreaterThan : Except BuildError Node := ofParts fields .greater operand .or

def atLeast : Except BuildError Node := ofParts fields .greaterOrEqual operand .and

def orAtLeast : Except BuildError Node := ofParts fields .greaterOrEqual operand .or

def lessThan : Except BuildError Node := ofParts fields .less operand .and

def orLessThan : Except BuildError Node := ofParts fields .less operand .or

def atMost : Except BuildError Node := ofParts fields .lessOrEqual operand .and

def orAtMost : Except BuildError Node := ofParts fields .lessOrEqual operand .or

/-- The columns are among a list of values, a text with commas, or the rows of a query. -/
def isIn : Except BuildError Node := ofParts fields .isIn operand .and

def orIsIn : Except BuildError Node := ofParts fields .isIn operand .or

/-- The columns match a pattern; a pattern without `%` matches anywhere. -/
def like : Except BuildError Node := ofParts fields .like operand .and

def orLike : Except BuildError Node := ofParts fields .like operand .or

/-- The columns lie between two bounds, both included. -/
def between : Except BuildError Node := ofParts fields .between (.range low high) .and

def orBetween : Except BuildError Node := ofParts fields .between (.range low high) .or

def isNull : Except BuildError Node := ofParts fields .isNull .none .and

def orIsNull : Except BuildError Node := ofParts fields .isNull .none .or

def isNotNull : Except BuildError Node := ofParts fields .isNotNull .none .and

def orIsNotNull : Except BuildError Node := ofParts fields .isNotNull .none .or

def sub : Except BuildError Node := enclose children .and

def orSub : Except BuildError Node := enclose children .or

end WhereClause.Node
