import PageGraft.Syntax.Rule

/-!
# Declarations

Declarations with types, and expressions with type annotations.
-/

namespace PageGraft.Syntax.Grammar

open Construct Lexeme Rule

/-- Declarations with types, and expressions with type annotations. -/
def declarationRules : List Definition := [
  shown .publicFieldDefinition "public_field_definition"
    (seq [many (role .decorator decorator),
        optional (choice [seq ["declare", optional accessibilityModifier],
          seq [accessibilityModifier, optional "declare"]]),
        choice [seq [optional "static", optional overrideModifier, optional "readonly"],
          seq [optional "abstract", optional "readonly"],
          seq [optional "readonly", optional "abstract"], optional "accessor"],
        role .name propertyName, optional (choice ["?", "!"]),
        role .type (optional ascription), optional initializer]),
  hidden .markupStartOpeningElement
    (seq ["<",
        optional (seq [choice [role .name (choice [markupIdentifier, markupNamespaceName]),
            seq [role .name (choice [identifier, renamed .memberExpression nestedIdentifier]),
              role .typeArguments (optional typeArguments)]],
          many (role .markupAttribute anyMarkupAttribute)])]),
  hidden .importIdentifier (choice [identifier, renamed .identifier "type"]),
  shown .nonNullExpression "non_null_expression" (bindLeft .unary (seq [expression, "!"])),
  shown .methodSignature "method_signature"
    (seq [optional accessibilityModifier, optional "static", optional overrideModifier,
        optional "readonly", optional "async", optional (choice ["get", "set", "*"]),
        role .name propertyName, optional "?", callSignature]),
  shown .abstractMethodSignature "abstract_method_signature"
    (seq [optional accessibilityModifier, "abstract", optional overrideModifier,
        optional (choice ["get", "set", "*"]), role .name propertyName, optional "?",
        callSignature]),
  shown .functionSignature "function_signature"
    (seq [optional "async", "function", role .name identifier, callSignature,
        choice [semicolon, signatureSemicolon]]),
  shown .decoratorParenthesizedExpression "decorator_parenthesized_expression"
    (seq ["(",
        choice [identifier, renamed .memberExpression decoratorMemberExpression,
          renamed .callExpression decoratorCallExpression],
        ")"]),
  shown .typeAssertion "type_assertion" (bindLeft .unary (seq [typeArguments, expression])),
  shown .asExpression "as_expression"
    (bindLeft .binary (seq [expression, "as", choice ["const", anyType]])),
  shown .satisfiesExpression "satisfies_expression"
    (bindLeft .binary (seq [expression, "satisfies", anyType])),
  shown .instantiationExpression "instantiation_expression"
    (bind .instantiation (seq [expression, role .typeArguments typeArguments])),
  shown .importRequireClause "import_require_clause"
    (seq [identifier, "=", "require", "(", role .source string, ")"]),
  shown .extendsClause "extends_clause" (seq ["extends", commaList extendsClauseSingle]),
  hidden .extendsClauseSingle
    (bind .extends (seq [role .value expression, role .typeArguments (optional typeArguments)])),
  shown .implementsClause "implements_clause" (seq ["implements", commaList anyType]),
  shown .ambientDeclaration "ambient_declaration"
    (seq ["declare",
        choice [declaration, seq ["global", statementBlock],
          seq ["module", ".", renamed .propertyIdentifier identifier, ":", anyType, semicolon]]]),
  shown .abstractClassDeclaration "abstract_class_declaration"
    (bind .declare (seq [many (role .decorator decorator), "abstract", "class",
        role .name typeIdentifier, role .typeParameters (optional typeParameters),
        optional classHeritage, role .body classBody])),
  shown .moduleDeclaration "module" (seq ["module", moduleBody]),
  shown .internalModule "internal_module" (seq ["namespace", moduleBody]),
  hidden .moduleBody
    (levelRight 0 (seq [role .name (choice [string, identifier, nestedIdentifier]),
        role .body (optional statementBlock)])),
  shown .importAlias "import_alias"
    (seq ["import", identifier, "=", choice [identifier, nestedIdentifier], semicolon]),
  shown .nestedTypeIdentifier "nested_type_identifier"
    (bind .member (seq [role .module (choice [identifier, nestedIdentifier]), ".",
        role .name typeIdentifier])),
  shown .interfaceDeclaration "interface_declaration"
    (seq ["interface", role .name typeIdentifier, role .typeParameters (optional typeParameters),
        optional extendsTypeClause, role .body (renamed .interfaceBody objectType)]),
  shown .extendsTypeClause "extends_type_clause"
    (seq ["extends",
        commaList (role .type (choice [typeIdentifier, nestedTypeIdentifier, genericType]))]),
  shown .enumDeclaration "enum_declaration"
    (seq [optional "const", "enum", role .name identifier, role .body enumBody]),
  shown .enumBody "enum_body"
    (seq [openBrace,
        optional (seq [commaList (choice [role .name propertyName, enumAssignment]),
          optional ","]),
        closeBrace]),
  shown .enumAssignment "enum_assignment" (seq [role .name propertyName, initializer]),
  shown .typeAliasDeclaration "type_alias_declaration"
    (seq ["type", role .name typeIdentifier, role .typeParameters (optional typeParameters), "=",
        role .value anyType, semicolon]),
  shown .accessibilityModifier "accessibility_modifier"
    (choice ["public", "private", "protected"]),
  shown .overrideModifier "override_modifier" "override"]

end PageGraft.Syntax.Grammar
