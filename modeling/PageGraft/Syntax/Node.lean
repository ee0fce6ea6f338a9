/-!
# Syntax trees

A syntax tree names the construct of every node by its type, keeps where the node stands in the
source, and for some children the role they have in their parent. Faulty sources have trees too:
a node can stand for unexpected text, or for a token that is missing.
-/

namespace PageGraft.Syntax

/-- A place in a source: octets from its beginning, lines from its beginning, octets from the
beginning of the line. -/
structure Position where
  octet : Nat := 0
  row : Nat := 0
  column : Nat := 0
deriving Repr, DecidableEq, Inhabited

/-- A node. `role` is empty for a child without a role; tokens that only punctuate are not `named`;
`hasError` tells that the node is or contains a fault. -/
structure Node where
  type : String
  role : String := ""
  named : Bool := true
  start : Position := {}
  stop : Position := {}
  isError : Bool := false
  isMissing : Bool := false
  hasError : Bool := false
  children : List Node := []
deriving Repr, Inhabited

/-- The kinds of nodes that make a difference to what is found in a component. -/
inductive Kind where
  | program
  | functionDeclaration
  | functionExpression
  | arrowFunction
  | variableDeclarator
  | callExpression
  | arrayPattern
  | identifier
  | statementBlock
  | array
  | object
  | string
  | number
  | trueLiteral
  | falseLiteral
  | nullLiteral
  | comment
  | other
deriving Repr, DecidableEq

/-- The kind of each type of node; `function` is an older name of a function expression. -/
def Kind.ofType : String → Kind
  | "program" => .program
  | "function_declaration" => .functionDeclaration
  | "function_expression" => .functionExpression
  | "function" => .functionExpression
  | "arrow_function" => .arrowFunction
  | "variable_declarator" => .variableDeclarator
  | "call_expression" => .callExpression
  | "array_pattern" => .arrayPattern
  | "identifier" => .identifier
  | "statement_block" => .statementBlock
  | "array" => .array
  | "object" => .object
  | "string" => .string
  | "number" => .number
  | "true" => .trueLiteral
  | "false" => .falseLiteral
  | "null" => .nullLiteral
  | "comment" => .comment
  | _ => .other

/-- The kinds of functions that are values. -/
def Kind.isFunctionValue : Kind → Bool
  | .arrowFunction | .functionExpression => true
  | _ => false

namespace Node

def kind (node : Node) : Kind :=
  .ofType node.type

/-- The first child with a role. -/
def child? (node : Node) (role : String) : Option Node :=
  node.children.find? (·.role == role)

/-- The kind of the child with a role; no child is of no special kind. -/
def childKind (node : Node) (role : String) : Kind :=
  ((node.child? role).map kind).getD .other

/-- The named children that are no comments. -/
def elements (node : Node) : List Node :=
  node.children.filter fun child => child.named && child.kind ≠ .comment

mutual

/-- Every node of a tree with its ancestors, nearest first, in document order. -/
def preorder (ancestors : List Node) : Node → List (Node × List Node)
  | ⟨type, role, named, start, stop, isError, isMissing, hasError, children⟩ =>
    let node : Node := ⟨type, role, named, start, stop, isError, isMissing, hasError, children⟩
    (node, ancestors) :: preorderAll (node :: ancestors) children

def preorderAll (ancestors : List Node) : List Node → List (Node × List Node)
  | [] => []
  | node :: rest => preorder ancestors node ++ preorderAll ancestors rest

end

mutual

/-- The outermost nodes that stand for unexpected text or a missing token, in document order. A node
that claims to hold no fault is not searched. -/
def faults : Node → List Node
  | ⟨type, role, named, start, stop, isError, isMissing, hasError, children⟩ =>
    if isError || isMissing then
      [⟨type, role, named, start, stop, isError, isMissing, hasError, children⟩]
    else if hasError then faultsAll children
    else []

def faultsAll : List Node → List Node
  | [] => []
  | node :: rest => faults node ++ faultsAll rest

end

end Node

end PageGraft.Syntax
