import PageGraft.Syntax.Rule

/-!
# Expressions

Expressions by kind, and collections with the patterns that take them apart.
-/

namespace PageGraft.Syntax.Grammar

open Construct Lexeme Rule

/-- Expressions by kind, and collections with the patterns that take them apart. -/
def expressionRules : List Definition := [
  shown .parenthesizedExpression "parenthesized_expression"
    (seq ["(",
        choice [seq [expression, role .type (optional ascription)], sequenceExpression], ")"]),
  hidden .expressions (choice [expression, sequenceExpression]),
  hidden .expression
    (choice [asExpression, satisfiesExpression, instantiationExpression, internalModule,
        primaryExpression, anyMarkupElement, assignmentExpression, augmentedAssignmentExpression,
        awaitExpression, unaryExpression, binaryExpression, ternaryExpression, updateExpression,
        newExpression, yieldExpression]),
  hidden .primaryExpression
    (choice [subscriptExpression, memberExpression, parenthesizedExpression, plainName,
        renamed .identifier reservedIdentifier, "this", "super", number, string, templateString,
        regex, "true", "false", "null", object, array, functionExpression, arrowFunction,
        generatorFunction, classExpression, metaProperty, callExpression, nonNullExpression]),
  shown .yieldExpression "yield_expression"
    (levelRight 0 (seq ["yield", choice [seq ["*", expression], optional expression]])),
  shown .object "object"
    (bind .object (seq [openBrace,
        optional (commaList (optional (choice [pair, spreadElement, methodDefinition,
          renamed .shorthandPropertyIdentifier (choice [identifier, reservedIdentifier])]))),
        closeBrace])),
  shown .objectPattern "object_pattern"
    (bind .object (seq [openBrace,
        optional (commaList (optional (choice [pairPattern, restPattern, objectAssignmentPattern,
          renamed .shorthandPropertyIdentifierPattern (choice [identifier, reservedIdentifier])]))),
        closeBrace])),
  shown .assignmentPattern "assignment_pattern"
    (seq [role .left pattern, "=", role .right expression]),
  shown .objectAssignmentPattern "object_assignment_pattern"
    (seq [role .left (choice [
          renamed .shorthandPropertyIdentifierPattern (choice [reservedIdentifier, identifier]),
          destructuringPattern]),
        "=", role .right expression]),
  shown .array "array"
    (seq ["[", optional (commaList (optional (choice [expression, spreadElement]))), "]"]),
  shown .arrayPattern "array_pattern"
    (seq ["[", optional (commaList (optional (choice [pattern, assignmentPattern]))), "]"])]

end PageGraft.Syntax.Grammar
