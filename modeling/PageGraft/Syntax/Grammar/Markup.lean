import PageGraft.Syntax.Rule

/-!
# Markup

Elements with attributes and children inside a script.
-/

namespace PageGraft.Syntax.Grammar

open Construct Lexeme Rule

/-- Elements with attributes and children inside a script. -/
def markupRules : List Definition := [
  shown .markupElement "jsx_element"
    (seq [role .openTag markupOpeningElement, many markupChild,
        role .closeTag markupClosingElement]),
  shown .markupExpression "jsx_expression"
    (seq [openBrace, optional (choice [expression, sequenceExpression, spreadElement]),
        closeBrace]),
  hidden .markupChild
    (choice [markupText, characterReference, anyMarkupElement, markupExpression]),
  shown .markupOpeningElement "jsx_opening_element"
    (weighted (-1) (seq [markupStartOpeningElement, ">"])),
  hidden .markupIdentifier (choice [renamed .identifier markupName, identifier]),
  shown .nestedIdentifier "nested_identifier"
    (bind .member (seq [role .object (choice [identifier,
          renamed .memberExpression nestedIdentifier]),
        ".", role .property (renamed .propertyIdentifier identifier)])),
  hidden .markupElementName
    (choice [markupIdentifier, renamed .memberExpression nestedIdentifier, markupNamespaceName]),
  shown .markupNamespaceName "jsx_namespace_name" (seq [markupIdentifier, ":", markupIdentifier]),
  shown .markupClosingElement "jsx_closing_element"
    (seq ["</", optional (role .name markupElementName), ">"]),
  shown .markupSelfClosingElement "jsx_self_closing_element"
    (weighted (-1) (seq [markupStartOpeningElement, "/>"])),
  hidden .anyMarkupAttribute (choice [markupAttribute, markupExpression]),
  hidden .markupAttributeName
    (choice [renamed .propertyIdentifier markupIdentifier, markupNamespaceName]),
  shown .markupAttribute "jsx_attribute"
    (seq [markupAttributeName, optional (seq ["=", markupAttributeValue])]),
  hidden .markupString
    (choice [seq ["\"",
          many (choice [renamed .stringFragment doubleQuotedAttribute, characterReference]),
          "\""],
        seq ["'",
          many (choice [renamed .stringFragment singleQuotedAttribute, characterReference]), "'"]]),
  hidden .markupAttributeValue
    (choice [renamed .string markupString, markupExpression, anyMarkupElement]),
  hidden .anyMarkupElement (choice [markupElement, markupSelfClosingElement])]

end PageGraft.Syntax.Grammar
