import PageGraft.Syntax.Rule

/-!
# Members

Decorators, members of classes and objects, parameters, and the words that may be names.
-/

namespace PageGraft.Syntax.Grammar

open Construct Lexeme Rule

/-- Decorators, members of classes and objects, parameters, and the words that may be names. -/
def memberRules : List Definition := [
  shown .decorator "decorator"
    (seq ["@",
        choice [identifier, renamed .memberExpression decoratorMemberExpression,
          renamed .callExpression decoratorCallExpression,
          renamed .parenthesizedExpression decoratorParenthesizedExpression]]),
  shown .decoratorMemberExpression "decorator_member_expression"
    (bind .member (seq [role .object (choice [identifier,
          renamed .memberExpression decoratorMemberExpression]),
        ".", role .property (renamed .propertyIdentifier identifier)])),
  shown .decoratorCallExpression "decorator_call_expression"
    (bind .call (seq [role .function (choice [identifier,
          renamed .memberExpression decoratorMemberExpression]),
        optional (role .typeArguments typeArguments), role .arguments arguments])),
  shown .classBody "class_body"
    (seq [openBrace,
        many (choice [seq [many (role .decorator decorator), methodDefinition,
            optional semicolon],
          seq [methodSignature, choice [signatureSemicolon, ","]], classStaticBlock,
          seq [choice [abstractMethodSignature, indexSignature, methodSignature,
              publicFieldDefinition],
            choice [semicolon, ","]],
          ";"]),
        closeBrace]),
  shown .classStaticBlock "class_static_block" (seq ["static", role .body statementBlock]),
  shown .formalParameters "formal_parameters"
    (seq ["(", optional (seq [commaList formalParameter, optional ","]), ")"]),
  hidden .pattern (weighted (-1) (choice [lhsExpression, restPattern])),
  shown .restPattern "rest_pattern" (levelRight 0 (seq ["...", lhsExpression])),
  shown .methodDefinition "method_definition"
    (levelLeft 0 (seq [optional accessibilityModifier, optional "static",
        optional overrideModifier, optional "readonly", optional "async",
        optional (choice ["get", "set", "*"]), role .name propertyName, optional "?",
        callSignature, role .body statementBlock])),
  shown .pair "pair" (seq [role .key propertyName, ":", role .value expression]),
  shown .pairPattern "pair_pattern"
    (seq [role .key propertyName, ":", role .value (choice [pattern, assignmentPattern])]),
  hidden .propertyName
    (choice [renamed .propertyIdentifier (choice [identifier, reservedIdentifier]), privateName,
        string, number, computedPropertyName]),
  shown .computedPropertyName "computed_property_name" (seq ["[", expression, "]"]),
  hidden .reservedIdentifier
    (choice ["declare", "namespace", "type", "public", "private", "protected", "override",
        "readonly", "module", "any", "number", "boolean", "string", "symbol", "export", "object",
        "new", "readonly", "get", "set", "async", "static", "export", "let"]),
  hidden .semicolon (choice [automaticSemicolon, ";"])]

end PageGraft.Syntax.Grammar
