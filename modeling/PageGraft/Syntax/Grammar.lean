import PageGraft.Syntax.Grammar.Declaration
import PageGraft.Syntax.Grammar.Expression
import PageGraft.Syntax.Grammar.Function
import PageGraft.Syntax.Grammar.Literal
import PageGraft.Syntax.Grammar.Markup
import PageGraft.Syntax.Grammar.Member
import PageGraft.Syntax.Grammar.Operation
import PageGraft.Syntax.Grammar.Program
import PageGraft.Syntax.Grammar.Statement
import PageGraft.Syntax.Grammar.Type

/-!
# The grammar

All definitions, and how the grammar decides between readings: lists of strengths and constructs in
which what comes first binds more tightly than what comes after.
-/

namespace PageGraft.Syntax.Grammar

/-- The definition of every construct. -/
def definitions : List Definition :=
  programRules ++ statementRules ++ expressionRules ++ markupRules ++ functionRules ++
    operationRules ++ literalRules ++ memberRules ++ declarationRules ++ typeRules

/-- The definitions are in the order of the constructs, so a construct's number finds its own. -/
theorem definitions_index :
    definitions.map (·.construct.ctorIdx) = List.range Construct.count := by
  decide +kernel

/-- Constructs that are replaced by their parts wherever they occur. -/
def inlined : List Construct :=
  [.expressions, .semicolon, .plainName, .reservedIdentifier, .anyMarkupAttribute,
    .markupElementName, .markupChild, .anyMarkupElement, .markupAttributeName,
    .markupAttributeValue, .markupIdentifier, .lhsExpression, .typeIdentifier,
    .markupStartOpeningElement]

/-- Tokens that can stand between any two others. -/
def extras : TokenSet :=
  .ofTokens [.lexeme .comment, .lexeme .markupComment]

/-! ## Repetitions -/

/-- The bodies of the repetitions in a rule, inner ones first. -/
def repetitionsIn : Rule → List Rule
  | .both first second | .either first second => repetitionsIn first ++ repetitionsIn second
  | .repeated body => repetitionsIn body ++ [body]
  | .bound _ _ body | .weighted _ body | .renamed _ body | .role _ body => repetitionsIn body
  | .nothing | .token _ | .construct _ => []

/-- The bodies of all repetitions. A repetition is a construct of its own, numbered after the others. -/
def repetitions : List Rule :=
  (definitions.flatMap fun definition => repetitionsIn definition.rule).eraseDups

/-- The number of the repetition of a rule. -/
def repetitionIndex (body : Rule) : Nat :=
  Construct.count + repetitions.idxOf body

/-- How many constructs and repetitions there are. -/
def size : Nat :=
  Construct.count + repetitions.length

/-- Whether a number belongs to a repetition. -/
def isRepetition (index : Nat) : Bool :=
  Construct.count ≤ index

/-! ## Strength -/

/-- What the lists of strengths compare. -/
inductive Rival where
  | strength (strength : Strength)
  | construct (construct : Construct)
deriving DecidableEq, Repr

/-- Lists in which each entry binds more tightly than all later ones. -/
def strengths : List (List Rival) :=
  [[.strength .member, .strength .templateCall, .strength .call, .construct .updateExpression,
      .strength .unaryVoid, .strength .binaryExp, .strength .binaryTimes, .strength .binaryPlus,
      .strength .binaryShift, .strength .binaryRelation, .strength .binaryEquality,
      .strength .bitwiseAnd, .strength .bitwiseXor, .strength .bitwiseOr, .strength .logicalAnd,
      .strength .logicalOr, .strength .ternary, .construct .sequenceExpression,
      .construct .arrowFunction],
    [.strength .assign, .construct .primaryExpression],
    [.strength .member, .strength .templateCall, .strength .new, .strength .call,
      .construct .expression],
    [.strength .declare, .strength .literal],
    [.construct .primaryExpression, .construct .statementBlock, .strength .object],
    [.construct .importStatement, .construct .importWord],
    [.construct .metaProperty, .construct .importWord],
    [.construct .exportStatement, .construct .primaryExpression],
    [.construct .lexicalDeclaration, .construct .primaryExpression],
    [.strength .call, .strength .instantiation, .strength .unary, .strength .binary,
      .construct .awaitExpression, .construct .arrowFunction],
    [.strength .extends, .strength .instantiation],
    [.construct .intersectionType, .construct .unionType, .construct .conditionalType,
      .construct .functionType, .strength .binary, .construct .typePredicate,
      .construct .readonlyType],
    [.construct .mappedTypeClause, .construct .primaryExpression],
    [.construct .accessibilityModifier, .construct .primaryExpression],
    [.strength .unaryVoid, .construct .expression],
    [.construct .extendsClause, .construct .primaryExpression],
    [.strength .unary, .strength .assign],
    [.strength .declare, .construct .expression],
    [.construct .predefinedType, .construct .unaryExpression],
    [.construct .anyType, .construct .flowMaybeType],
    [.construct .tupleType, .construct .arrayType, .construct .pattern, .construct .anyType],
    [.construct .readonlyType, .construct .pattern],
    [.construct .readonlyType, .construct .primaryExpression],
    [.construct .typeQuery, .construct .subscriptExpression, .construct .expression],
    [.construct .typeQuery, .construct .typeQuerySubscriptExpression],
    [.construct .nestedTypeIdentifier, .construct .genericType, .construct .primaryType,
      .construct .lookupType, .construct .indexTypeQuery, .construct .anyType],
    [.construct .asExpression, .construct .satisfiesExpression, .construct .primaryType],
    [.construct .typeQueryMemberExpression, .construct .memberExpression],
    [.construct .memberExpression, .construct .ascribedQueryMember],
    [.construct .typeQueryMemberExpression, .construct .primaryExpression],
    [.construct .typeQuerySubscriptExpression, .construct .subscriptExpression],
    [.construct .typeQuerySubscriptExpression, .construct .primaryExpression],
    [.construct .typeQueryCallExpression, .construct .primaryExpression],
    [.construct .typeQueryInstantiationExpression, .construct .primaryExpression],
    [.construct .typeQuery, .construct .primaryExpression],
    [.construct .overrideModifier, .construct .primaryExpression],
    [.construct .decoratorCallExpression, .construct .decorator],
    [.construct .literalType, .construct .pattern],
    [.construct .predefinedType, .construct .pattern],
    [.construct .callExpression, .construct .typeQueryCallExpression],
    [.construct .callExpression, .construct .ascribedQueryCall],
    [.construct .newExpression, .construct .primaryExpression],
    [.construct .metaProperty, .construct .primaryExpression],
    [.construct .constructSignature, .construct .propertyName]]

end PageGraft.Syntax.Grammar
