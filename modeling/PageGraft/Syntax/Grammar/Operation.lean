import PageGraft.Syntax.Rule

/-!
# Operations

Calls, accesses, assignments and operators, with how tightly they bind.
-/

namespace PageGraft.Syntax.Grammar

open Construct Lexeme Rule

/-- An operator between two expressions, grouped to the left. -/
def binary (strength : Strength) (operator : String) : Rule :=
  bindLeft strength (seq [role .left expression, role .operator operator, role .right expression])

/-- Calls, accesses, assignments and operators, with how tightly they bind. -/
def operationRules : List Definition := [
  shown .optionalChain "optional_chain" "?.",
  shown .callExpression "call_expression"
    (choice [bind .call (seq [role .function (choice [expression, importWord]),
          role .typeArguments (optional typeArguments), role .arguments arguments]),
        bind .templateCall (seq [role .function (choice [primaryExpression, newExpression]),
          role .arguments templateString]),
        bind .member (seq [role .function primaryExpression, "?.",
          role .typeArguments (optional typeArguments), role .arguments arguments])]),
  shown .newExpression "new_expression"
    (bindRight .new (seq ["new", role .constructor primaryExpression,
        role .typeArguments (optional typeArguments), role .arguments (optional arguments)])),
  shown .awaitExpression "await_expression" (bind .unaryVoid (seq ["await", expression])),
  shown .memberExpression "member_expression"
    (bind .member (seq [role .object (choice [expression, primaryExpression]),
        choice [".", role .optionalChain optionalChain],
        role .property (choice [privateName, renamed .propertyIdentifier identifier])])),
  shown .subscriptExpression "subscript_expression"
    (bindRight .member (seq [role .object (choice [expression, primaryExpression]),
        optional (role .optionalChain optionalChain), "[", role .index expressions, "]"])),
  hidden .lhsExpression
    (choice [memberExpression, subscriptExpression, plainName,
        renamed .identifier reservedIdentifier, destructuringPattern, nonNullExpression]),
  shown .assignmentExpression "assignment_expression"
    (bindRight .assign (seq [optional "using",
        role .left (choice [parenthesizedExpression, lhsExpression]), "=",
        role .right expression])),
  hidden .augmentedAssignmentLhs
    (choice [memberExpression, subscriptExpression, renamed .identifier reservedIdentifier,
        identifier, parenthesizedExpression, nonNullExpression]),
  shown .augmentedAssignmentExpression "augmented_assignment_expression"
    (bindRight .assign (seq [role .left augmentedAssignmentLhs,
        role .operator (choice ["+=", "-=", "*=", "/=", "%=", "^=", "&=", "|=", ">>=", ">>>=",
          "<<=", "**=", "&&=", "||=", "??="]),
        role .right expression])),
  hidden .initializer (seq ["=", role .value expression]),
  hidden .destructuringPattern (choice [objectPattern, arrayPattern]),
  shown .spreadElement "spread_element" (seq ["...", expression]),
  shown .ternaryExpression "ternary_expression"
    (bindRight .ternary (seq [role .condition expression, renamed .questionMark conditionalMark,
        role .consequence expression, ":", role .alternative expression])),
  shown .binaryExpression "binary_expression"
    (choice [binary .logicalAnd "&&", binary .logicalOr "||", binary .binaryShift ">>",
        binary .binaryShift ">>>", binary .binaryShift "<<", binary .bitwiseAnd "&",
        binary .bitwiseXor "^", binary .bitwiseOr "|", binary .binaryPlus "+",
        binary .binaryPlus "-", binary .binaryTimes "*", binary .binaryTimes "/",
        binary .binaryTimes "%",
        bindRight .binaryExp (seq [role .left expression, role .operator "**",
          role .right expression]),
        binary .binaryRelation "<", binary .binaryRelation "<=", binary .binaryEquality "==",
        binary .binaryEquality "===", binary .binaryEquality "!=", binary .binaryEquality "!==",
        binary .binaryRelation ">=", binary .binaryRelation ">", binary .ternary "??",
        binary .binaryRelation "instanceof",
        bindLeft .binaryRelation (seq [role .left (choice [expression, privateName]),
          role .operator "in", role .right expression])]),
  shown .unaryExpression "unary_expression"
    (bindLeft .unaryVoid (seq [role .operator (choice ["!", "~", "-", "+", "typeof", "void",
          "delete"]),
        role .argument expression])),
  shown .updateExpression "update_expression"
    (levelLeft 0 (choice [seq [role .argument expression, role .operator (choice ["++", "--"])],
        seq [role .operator (choice ["++", "--"]), role .argument expression]])),
  shown .sequenceExpression "sequence_expression" (levelRight 0 (commaList expression))]

end PageGraft.Syntax.Grammar
