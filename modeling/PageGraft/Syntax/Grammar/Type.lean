import PageGraft.Syntax.Rule

/-!
# Types

Types and the places where they are written.
-/

namespace PageGraft.Syntax.Grammar

open Construct Lexeme Rule

/-- Types and the places where they are written. -/
def typeRules : List Definition := [
  shown .requiredParameter "required_parameter"
    (seq [parameterName, role .type (optional ascription), optional initializer]),
  shown .optionalParameter "optional_parameter"
    (seq [parameterName, "?", role .type (optional ascription), optional initializer]),
  hidden .parameterName
    (seq [many (role .decorator decorator), optional accessibilityModifier,
        optional overrideModifier, optional "readonly", role .pattern (choice [pattern, "this"])]),
  shown .omittedAscription "omitting_type_annotation" (seq ["-?:", anyType]),
  shown .addedAscription "adding_type_annotation" (seq ["+?:", anyType]),
  shown .optedAscription "opting_type_annotation" (seq ["?:", anyType]),
  shown .ascription "type_annotation"
    (seq [":",
        choice [anyType, renamed .memberExpression ascribedQueryMember,
          renamed .callExpression ascribedQueryCall]]),
  hidden .ascribedQueryMember
    (seq [role .object (choice [importWord,
          renamed .memberExpression ascribedQueryMember,
          renamed .callExpression ascribedQueryCall]),
        ".", role .property (choice [privateName, renamed .propertyIdentifier identifier])]),
  hidden .ascribedQueryCall
    (seq [role .function (choice [importWord,
          renamed .memberExpression ascribedQueryMember]),
        role .arguments arguments]),
  shown .asserts "asserts" (seq ["asserts", choice [typePredicate, identifier, "this"]]),
  shown .assertedAscription "asserts_annotation" (seq [seq [":", asserts]]),
  hidden .anyType
    (choice [primaryType, functionType, readonlyType, constructorType, inferType,
        level (-1) (renamed .memberExpression ascribedQueryMember),
        level (-1) (renamed .callExpression ascribedQueryCall)]),
  shown .tupleParameter "tuple_parameter"
    (seq [role .name (choice [identifier, restPattern]), role .type ascription]),
  shown .optionalTupleParameter "optional_tuple_parameter"
    (seq [role .name identifier, "?", role .type ascription]),
  shown .optionalType "optional_type" (seq [anyType, "?"]),
  shown .restType "rest_type" (seq ["...", anyType]),
  hidden .tupleTypeMember
    (choice [renamed .requiredParameter tupleParameter,
        renamed .optionalParameter optionalTupleParameter, optionalType, restType, anyType]),
  shown .constructorType "constructor_type"
    (levelLeft 0 (seq [optional "abstract", "new",
        role .typeParameters (optional typeParameters), role .parameters formalParameters, "=>",
        role .type anyType])),
  hidden .primaryType
    (choice [parenthesizedType, predefinedType, typeIdentifier, nestedTypeIdentifier,
        genericType, objectType, arrayType, tupleType, flowMaybeType, typeQuery, indexTypeQuery,
        renamed .thisType "this", existentialType, literalType, lookupType, conditionalType,
        templateLiteralType, intersectionType, unionType, "const"]),
  shown .templateType "template_type"
    (seq ["$\x7b", choice [primaryType, inferType], closeBrace]),
  shown .templateLiteralType "template_literal_type"
    (seq ["`", many (choice [renamed .stringFragment templateText, templateType]), "`"]),
  shown .inferType "infer_type"
    (levelRight 0 (seq ["infer", typeIdentifier, optional (seq ["extends", anyType])])),
  shown .conditionalType "conditional_type"
    (levelRight 0 (seq [role .left anyType, "extends", role .right anyType, "?",
        role .consequence anyType, ":", role .alternative anyType])),
  shown .genericType "generic_type"
    (bind .call (seq [role .name (choice [typeIdentifier, nestedTypeIdentifier]),
        role .typeArguments typeArguments])),
  shown .typePredicate "type_predicate"
    (seq [role .name (choice [identifier, "this", renamed .identifier predefinedType]), "is",
        role .type anyType]),
  shown .predicateAscription "type_predicate_annotation" (seq [seq [":", typePredicate]]),
  hidden .typeQueryMemberExpression
    (seq [role .object (choice [identifier, "this",
          renamed .subscriptExpression typeQuerySubscriptExpression,
          renamed .memberExpression typeQueryMemberExpression,
          renamed .callExpression typeQueryCallExpression]),
        choice [".", "?."],
        role .property (choice [privateName, renamed .propertyIdentifier identifier])]),
  hidden .typeQuerySubscriptExpression
    (seq [role .object (choice [identifier, "this",
          renamed .subscriptExpression typeQuerySubscriptExpression,
          renamed .memberExpression typeQueryMemberExpression,
          renamed .callExpression typeQueryCallExpression]),
        optional "?.", "[", role .index (choice [predefinedType, string, number]), "]"]),
  hidden .typeQueryCallExpression
    (seq [role .function (choice [importWord, identifier,
          renamed .memberExpression typeQueryMemberExpression,
          renamed .subscriptExpression typeQuerySubscriptExpression]),
        role .arguments arguments]),
  hidden .typeQueryInstantiationExpression
    (seq [role .function (choice [importWord, identifier,
          renamed .memberExpression typeQueryMemberExpression,
          renamed .subscriptExpression typeQuerySubscriptExpression]),
        role .typeArguments typeArguments]),
  shown .typeQuery "type_query"
    (levelRight 0 (seq ["typeof",
        choice [renamed .subscriptExpression typeQuerySubscriptExpression,
          renamed .memberExpression typeQueryMemberExpression,
          renamed .callExpression typeQueryCallExpression,
          renamed .instantiationExpression typeQueryInstantiationExpression, identifier, "this"]])),
  shown .indexTypeQuery "index_type_query" (seq ["keyof", primaryType]),
  shown .lookupType "lookup_type" (seq [primaryType, "[", anyType, "]"]),
  shown .mappedTypeClause "mapped_type_clause"
    (seq [role .name typeIdentifier, "in", role .type anyType,
        optional (seq ["as", role .aliasName anyType])]),
  shown .literalType "literal_type"
    (choice [renamed .unaryExpression signedNumber, number, string, "true", "false", "null",
        "undefined"]),
  hidden .signedNumber
    (levelLeft 1 (seq [role .operator (choice ["-", "+"]), role .argument number])),
  shown .existentialType "existential_type" "*",
  shown .flowMaybeType "flow_maybe_type" (levelRight 0 (seq ["?", primaryType])),
  shown .parenthesizedType "parenthesized_type" (seq ["(", anyType, ")"]),
  shown .predefinedType "predefined_type"
    (choice ["any", "number", "boolean", "string", "symbol",
        renamed .uniqueSymbol (seq ["unique", "symbol"]), "void", "unknown", "string", "never",
        "object"]),
  shown .typeArguments "type_arguments" (seq ["<", commaList anyType, optional ",", ">"]),
  shown .objectType "object_type"
    (seq [choice [openBrace, "\x7b|"],
        optional (seq [optional (choice [",", ";"]),
          separated (choice [",", semicolon]) (choice [exportStatement, propertySignature,
            callMember, constructSignature, indexSignature, methodSignature]),
          optional (choice [",", semicolon])]),
        choice [closeBrace, "|\x7d"]]),
  shown .callMember "call_signature" callSignature,
  shown .propertySignature "property_signature"
    (seq [optional accessibilityModifier, optional "static", optional overrideModifier,
        optional "readonly", role .name propertyName, optional "?",
        role .type (optional ascription)]),
  shown .typeParameters "type_parameters" (seq ["<", commaList typeParameter, optional ",", ">"]),
  shown .typeParameter "type_parameter"
    (seq [optional "const", role .name typeIdentifier, role .constraint (optional constraint),
        role .value (optional defaultType)]),
  shown .defaultType "default_type" (seq ["=", anyType]),
  shown .constraint "constraint" (seq [choice ["extends", ":"], anyType]),
  shown .constructSignature "construct_signature"
    (seq [optional "abstract", "new", role .typeParameters (optional typeParameters),
        role .parameters formalParameters, role .type (optional ascription)]),
  shown .indexSignature "index_signature"
    (seq [optional (seq [role .sign (optional (choice ["-", "+"])), "readonly"]), "[",
        choice [seq [role .name (choice [identifier, renamed .identifier reservedIdentifier]),
            ":", role .indexType anyType],
          mappedTypeClause],
        "]",
        role .type (choice [ascription, omittedAscription, addedAscription,
          optedAscription])]),
  shown .arrayType "array_type" (seq [primaryType, "[", "]"]),
  shown .tupleType "tuple_type"
    (seq ["[", optional (commaList tupleTypeMember), optional ",", "]"]),
  shown .readonlyType "readonly_type" (seq ["readonly", anyType]),
  shown .unionType "union_type" (levelLeft 0 (seq [optional anyType, "|", anyType])),
  shown .intersectionType "intersection_type"
    (levelLeft 0 (seq [optional anyType, "&", anyType])),
  shown .functionType "function_type"
    (levelLeft 0 (seq [role .typeParameters (optional typeParameters),
        role .parameters formalParameters, "=>",
        role .returnType (choice [anyType, asserts, typePredicate])])),
  hidden .typeIdentifier (renamed .typeIdentifier identifier)]

end PageGraft.Syntax.Grammar
