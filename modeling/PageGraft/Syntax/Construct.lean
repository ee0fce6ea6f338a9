/-!
# Constructs

The vocabulary of the grammar: the constructs that a script is made of, the roles of their parts, the
other names that parts can go by, and the classes of constructs that bind equally tightly.
-/

namespace PageGraft.Syntax

/-- The constructs of a script, in the order in which the grammar defines them. -/
inductive Construct where
  | program | exportStatement | namespaceExport | exportClause | exportSpecifier
  | moduleExportName | declaration | importWord | importStatement | importClause | fromClause
  | namespaceImport | namedImports | importSpecifier | importAttribute | statement
  | expressionStatement | variableDeclaration | lexicalDeclaration | variableDeclarator
  | statementBlock | elseClause | ifStatement | switchStatement | forStatement | forInStatement
  | forHeader | whileStatement | doStatement | tryStatement | withStatement | breakStatement
  | continueStatement | debuggerStatement | returnStatement | throwStatement | emptyStatement
  | labeledStatement | switchBody | switchCase | switchDefault | catchClause | finallyClause
  | parenthesizedExpression | expressions | expression | primaryExpression | yieldExpression
  | object | objectPattern | assignmentPattern | objectAssignmentPattern | array | arrayPattern
  | markupElement | markupExpression | markupChild | markupOpeningElement | markupIdentifier
  | nestedIdentifier | markupElementName | markupNamespaceName | markupClosingElement
  | markupSelfClosingElement | anyMarkupAttribute | markupAttributeName | markupAttribute
  | markupString | markupAttributeValue | anyMarkupElement | classExpression | classDeclaration
  | classHeritage | functionExpression | functionDeclaration | generatorFunction
  | generatorFunctionDeclaration | arrowFunction | callSignature | formalParameter
  | optionalChain | callExpression | newExpression | awaitExpression | memberExpression
  | subscriptExpression | lhsExpression | assignmentExpression | augmentedAssignmentLhs
  | augmentedAssignmentExpression | initializer | destructuringPattern | spreadElement
  | ternaryExpression | binaryExpression | unaryExpression | updateExpression
  | sequenceExpression | string | templateString | templateSubstitution | regex | plainName
  | metaProperty | arguments | decorator | decoratorMemberExpression | decoratorCallExpression
  | classBody | classStaticBlock | formalParameters | pattern | restPattern | methodDefinition
  | pair | pairPattern | propertyName | computedPropertyName | reservedIdentifier | semicolon
  | publicFieldDefinition | markupStartOpeningElement | importIdentifier | nonNullExpression
  | methodSignature | abstractMethodSignature | functionSignature
  | decoratorParenthesizedExpression | typeAssertion | asExpression | satisfiesExpression
  | instantiationExpression | importRequireClause | extendsClause | extendsClauseSingle
  | implementsClause | ambientDeclaration | abstractClassDeclaration | moduleDeclaration
  | internalModule | moduleBody | importAlias | nestedTypeIdentifier | interfaceDeclaration
  | extendsTypeClause | enumDeclaration | enumBody | enumAssignment | typeAliasDeclaration
  | accessibilityModifier | overrideModifier | requiredParameter | optionalParameter
  | parameterName | omittedAscription | addedAscription | optedAscription
  | ascription | ascribedQueryMember
  | ascribedQueryCall | asserts | assertedAscription | anyType
  | tupleParameter | optionalTupleParameter | optionalType | restType | tupleTypeMember
  | constructorType | primaryType | templateType | templateLiteralType | inferType
  | conditionalType | genericType | typePredicate | predicateAscription
  | typeQueryMemberExpression | typeQuerySubscriptExpression | typeQueryCallExpression
  | typeQueryInstantiationExpression | typeQuery | indexTypeQuery | lookupType | mappedTypeClause
  | literalType | signedNumber | existentialType | flowMaybeType | parenthesizedType
  | predefinedType | typeArguments | objectType | callMember | propertySignature | typeParameters
  | typeParameter | defaultType | constraint | constructSignature | indexSignature | arrayType
  | tupleType | readonlyType | unionType | intersectionType | functionType | typeIdentifier
deriving DecidableEq, Repr

/-- How many constructs there are. -/
def Construct.count : Nat := 208

/-- The part that a child plays in its parent. -/
inductive Role where
  | decorator | declaration | value | name | aliasName | source | kind | type | condition
  | consequence | alternative | body | initializer | increment | left | operator | right
  | handler | finalizer | object | label | parameter | openTag | closeTag | property
  | typeParameters | parameters | returnType | function | typeArguments | arguments | constructor
  | optionalChain | index | argument | pattern | flags | key | markupAttribute | module
  | constraint | sign | indexType
deriving DecidableEq, Ord, Repr

/-- The text of a role. -/
def Role.text : Role → String
  | decorator => "decorator"
  | declaration => "declaration"
  | value => "value"
  | name => "name"
  | aliasName => "alias"
  | source => "source"
  | kind => "kind"
  | type => "type"
  | condition => "condition"
  | consequence => "consequence"
  | alternative => "alternative"
  | body => "body"
  | initializer => "initializer"
  | increment => "increment"
  | left => "left"
  | operator => "operator"
  | right => "right"
  | handler => "handler"
  | finalizer => "finalizer"
  | object => "object"
  | label => "label"
  | parameter => "parameter"
  | openTag => "open_tag"
  | closeTag => "close_tag"
  | property => "property"
  | typeParameters => "type_parameters"
  | parameters => "parameters"
  | returnType => "return_type"
  | function => "function"
  | typeArguments => "type_arguments"
  | arguments => "arguments"
  | constructor => "constructor"
  | optionalChain => "optional_chain"
  | index => "index"
  | argument => "argument"
  | pattern => "pattern"
  | flags => "flags"
  | key => "key"
  | markupAttribute => "attribute"
  | module => "module"
  | constraint => "constraint"
  | sign => "sign"
  | indexType => "index_type"

/-- Names that a node can have in place of its own. -/
inductive Alias where
  | identifier | statementIdentifier | shorthandPropertyIdentifier
  | shorthandPropertyIdentifierPattern | memberExpression | propertyIdentifier | stringFragment
  | string | questionMark | callExpression | parenthesizedExpression | interfaceBody
  | requiredParameter | optionalParameter | thisType | subscriptExpression
  | instantiationExpression | unaryExpression | uniqueSymbol | typeIdentifier
deriving DecidableEq, Ord, Repr

namespace Alias

/-- The type of the nodes that go by another name. -/
def type : Alias → String
  | identifier => "identifier"
  | statementIdentifier => "statement_identifier"
  | shorthandPropertyIdentifier => "shorthand_property_identifier"
  | shorthandPropertyIdentifierPattern => "shorthand_property_identifier_pattern"
  | memberExpression => "member_expression"
  | propertyIdentifier => "property_identifier"
  | stringFragment => "string_fragment"
  | string => "string"
  | questionMark => "?"
  | callExpression => "call_expression"
  | parenthesizedExpression => "parenthesized_expression"
  | interfaceBody => "interface_body"
  | requiredParameter => "required_parameter"
  | optionalParameter => "optional_parameter"
  | thisType => "this_type"
  | subscriptExpression => "subscript_expression"
  | instantiationExpression => "instantiation_expression"
  | unaryExpression => "unary_expression"
  | uniqueSymbol => "unique symbol"
  | typeIdentifier => "type_identifier"

def isNamed : Alias → Bool
  | questionMark | uniqueSymbol => false
  | _ => true

end Alias

/-- Classes of constructs that bind their parts equally tightly. -/
inductive Strength where
  | declare | object | member | literal | call | templateCall | new | unaryVoid | assign
  | ternary | logicalAnd | logicalOr | binaryShift | bitwiseAnd | bitwiseXor | bitwiseOr
  | binaryPlus | binaryTimes | binaryExp | binaryRelation | binaryEquality
  | unary | binary | instantiation | extends
deriving DecidableEq, Ord, Repr

end PageGraft.Syntax
