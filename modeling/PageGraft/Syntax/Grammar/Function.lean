import PageGraft.Syntax.Rule

/-!
# Functions and classes

Functions and classes, as declarations and as values.
-/

namespace PageGraft.Syntax.Grammar

open Construct Lexeme Rule

/-- Functions and classes, as declarations and as values. -/
def functionRules : List Definition := [
  shown .classExpression "class"
    (bind .literal (seq [many (role .decorator decorator), "class",
        role .name (optional typeIdentifier), role .typeParameters (optional typeParameters),
        optional classHeritage, role .body classBody])),
  shown .classDeclaration "class_declaration"
    (bindLeft .declare (seq [many (role .decorator decorator), "class",
        role .name typeIdentifier, role .typeParameters (optional typeParameters),
        optional classHeritage, role .body classBody, optional automaticSemicolon])),
  shown .classHeritage "class_heritage"
    (choice [seq [extendsClause, optional implementsClause], implementsClause]),
  shown .functionExpression "function_expression"
    (bind .literal (seq [optional "async", "function", role .name (optional identifier),
        callSignature, role .body statementBlock])),
  shown .functionDeclaration "function_declaration"
    (bindRight .declare (seq [optional "async", "function", role .name identifier, callSignature,
        role .body statementBlock, optional automaticSemicolon])),
  shown .generatorFunction "generator_function"
    (bind .literal (seq [optional "async", "function", "*", role .name (optional identifier),
        callSignature, role .body statementBlock])),
  shown .generatorFunctionDeclaration "generator_function_declaration"
    (bindRight .declare (seq [optional "async", "function", "*", role .name identifier,
        callSignature, role .body statementBlock, optional automaticSemicolon])),
  shown .arrowFunction "arrow_function"
    (seq [optional "async",
        choice [role .parameter (choice [renamed .identifier reservedIdentifier, identifier]),
          callSignature],
        "=>", role .body (choice [expression, statementBlock])]),
  hidden .callSignature
    (seq [role .typeParameters (optional typeParameters), role .parameters formalParameters,
        role .returnType (optional (choice [ascription, assertedAscription,
          predicateAscription]))]),
  hidden .formalParameter (choice [requiredParameter, optionalParameter])]

end PageGraft.Syntax.Grammar
