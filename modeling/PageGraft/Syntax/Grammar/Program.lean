import PageGraft.Syntax.Rule

/-!
# Programs

What a script consists of, and how scripts import from and export to each other.
-/

namespace PageGraft.Syntax.Grammar

open Construct Lexeme Rule

/-- What a script consists of, and how scripts import from and export to each other. -/
def programRules : List Definition := [
  shown .program "program" (seq [optional hashBangLine, many statement]),
  shown .exportStatement "export_statement"
    (choice [seq ["export",
          choice [seq ["*", fromClause], seq [namespaceExport, fromClause],
            seq [exportClause, fromClause], exportClause],
          semicolon],
        seq [many (role .decorator decorator), "export",
          choice [role .declaration declaration,
            seq ["default",
              choice [role .declaration declaration, seq [role .value expression, semicolon]]]]],
        seq ["export", "type", exportClause, optional fromClause, semicolon],
        seq ["export", "=", expression, semicolon],
        seq ["export", "as", "namespace", identifier, semicolon]]),
  shown .namespaceExport "namespace_export" (seq ["*", "as", moduleExportName]),
  shown .exportClause "export_clause"
    (seq [openBrace, optional (commaList exportSpecifier), optional ",", closeBrace]),
  shown .exportSpecifier "export_specifier"
    (seq [optional (choice ["type", "typeof"]),
        seq [role .name moduleExportName, optional (seq ["as", role .aliasName moduleExportName])]]),
  hidden .moduleExportName (choice [identifier, string]),
  hidden .declaration
    (choice [functionDeclaration, generatorFunctionDeclaration, classDeclaration,
        lexicalDeclaration, variableDeclaration, functionSignature, abstractClassDeclaration,
        moduleDeclaration, bind .declare internalModule, typeAliasDeclaration, enumDeclaration,
        interfaceDeclaration, importAlias, ambientDeclaration]),
  shown .importWord "import" "import",
  shown .importStatement "import_statement"
    (seq ["import", optional (choice ["type", "typeof"]),
        choice [seq [importClause, fromClause], importRequireClause, role .source string],
        optional importAttribute, semicolon]),
  shown .importClause "import_clause"
    (choice [namespaceImport, namedImports,
        seq [importIdentifier, optional (seq [",", choice [namespaceImport, namedImports]])]]),
  hidden .fromClause (seq ["from", role .source string]),
  shown .namespaceImport "namespace_import" (seq ["*", "as", identifier]),
  shown .namedImports "named_imports"
    (seq [openBrace, optional (commaList importSpecifier), optional ",", closeBrace]),
  shown .importSpecifier "import_specifier"
    (seq [optional (choice ["type", "typeof"]),
        choice [role .name importIdentifier,
          seq [role .name (choice [moduleExportName, renamed .identifier "default"]), "as",
            role .aliasName importIdentifier]]]),
  shown .importAttribute "import_attribute" (seq ["with", object])]

end PageGraft.Syntax.Grammar
