import PageGraft.Syntax.Rule

/-!
# Literals

Texts, templates, patterns of characters, names and arguments.
-/

namespace PageGraft.Syntax.Grammar

open Construct Lexeme Rule

/-- Texts, templates, patterns of characters, names and arguments. -/
def literalRules : List Definition := [
  shown .string "string"
    (choice [seq ["\"", many (choice [renamed .stringFragment doubleQuotedText, escapeSequence]),
          "\""],
        seq ["'", many (choice [renamed .stringFragment singleQuotedText, escapeSequence]), "'"]]),
  shown .templateString "template_string"
    (seq ["`",
        many (choice [renamed .stringFragment templateText, escapeSequence, templateSubstitution]),
        "`"]),
  shown .templateSubstitution "template_substitution" (seq ["$\x7b", expressions, closeBrace]),
  shown .regex "regex"
    (seq ["/", role .pattern regexPattern, regexClose, optional (role .flags regexFlags)]),
  hidden .plainName (choice ["undefined", identifier]),
  shown .metaProperty "meta_property"
    (choice [seq ["new", ".", "target"], seq ["import", ".", "meta"]]),
  shown .arguments "arguments"
    (seq ["(", optional (commaList (optional (choice [expression, spreadElement]))), ")"])]

end PageGraft.Syntax.Grammar
