import PageGraft.Syntax.Rule

/-!
# Statements

Statements and their clauses.
-/

namespace PageGraft.Syntax.Grammar

open Construct Lexeme Rule

/-- Statements and their clauses. -/
def statementRules : List Definition := [
  hidden .statement
    (choice [exportStatement, importStatement, debuggerStatement, expressionStatement,
        declaration, statementBlock, ifStatement, switchStatement, forStatement, forInStatement,
        whileStatement, doStatement, tryStatement, withStatement, breakStatement,
        continueStatement, returnStatement, throwStatement, emptyStatement, labeledStatement]),
  shown .expressionStatement "expression_statement" (seq [expressions, semicolon]),
  shown .variableDeclaration "variable_declaration"
    (seq ["var", commaList variableDeclarator, semicolon]),
  shown .lexicalDeclaration "lexical_declaration"
    (seq [role .kind (choice ["let", "const"]), commaList variableDeclarator, semicolon]),
  shown .variableDeclarator "variable_declarator"
    (choice [seq [role .name (choice [identifier, destructuringPattern]),
          role .type (optional ascription), optional initializer],
        bind .declare (seq [role .name identifier, "!", role .type ascription])]),
  shown .statementBlock "statement_block"
    (levelRight 0 (seq [openBrace, many statement, closeBrace, optional automaticSemicolon])),
  shown .elseClause "else_clause" (seq ["else", statement]),
  shown .ifStatement "if_statement"
    (levelRight 0 (seq ["if", role .condition parenthesizedExpression,
        role .consequence statement, optional (role .alternative elseClause)])),
  shown .switchStatement "switch_statement"
    (seq ["switch", role .value parenthesizedExpression, role .body switchBody]),
  shown .forStatement "for_statement"
    (seq ["for", "(",
        choice [role .initializer (choice [lexicalDeclaration, variableDeclaration]),
          seq [role .initializer expressions, ";"], role .initializer emptyStatement],
        role .condition (choice [seq [expressions, ";"], emptyStatement]),
        role .increment (optional expressions), ")", role .body statement]),
  shown .forInStatement "for_in_statement"
    (seq ["for", optional "await", forHeader, role .body statement]),
  hidden .forHeader
    (seq ["(",
        choice [role .left (choice [lhsExpression, parenthesizedExpression]),
          seq [role .kind "var", role .left (choice [identifier, destructuringPattern]),
            optional initializer],
          seq [role .kind (choice ["let", "const"]),
            role .left (choice [identifier, destructuringPattern]), optional automaticSemicolon]],
        role .operator (choice ["in", "of"]), role .right expressions, ")"]),
  shown .whileStatement "while_statement"
    (seq ["while", role .condition parenthesizedExpression, role .body statement]),
  shown .doStatement "do_statement"
    (levelRight 0 (seq ["do", role .body statement, "while",
        role .condition parenthesizedExpression, optional semicolon])),
  shown .tryStatement "try_statement"
    (seq ["try", role .body statementBlock, optional (role .handler catchClause),
        optional (role .finalizer finallyClause)]),
  shown .withStatement "with_statement"
    (seq ["with", role .object parenthesizedExpression, role .body statement]),
  shown .breakStatement "break_statement"
    (seq ["break", role .label (optional (renamed .statementIdentifier identifier)), semicolon]),
  shown .continueStatement "continue_statement"
    (seq ["continue", role .label (optional (renamed .statementIdentifier identifier)),
        semicolon]),
  shown .debuggerStatement "debugger_statement" (seq ["debugger", semicolon]),
  shown .returnStatement "return_statement" (seq ["return", optional expressions, semicolon]),
  shown .throwStatement "throw_statement" (seq ["throw", expressions, semicolon]),
  shown .emptyStatement "empty_statement" ";",
  shown .labeledStatement "labeled_statement"
    (weighted (-1) (seq [role .label (renamed .statementIdentifier (choice [identifier,
          reservedIdentifier])),
        ":", role .body statement])),
  shown .switchBody "switch_body"
    (seq [openBrace, many (choice [switchCase, switchDefault]), closeBrace]),
  shown .switchCase "switch_case"
    (seq ["case", role .value expressions, ":", role .body (many statement)]),
  shown .switchDefault "switch_default" (seq ["default", ":", role .body (many statement)]),
  shown .catchClause "catch_clause"
    (seq ["catch",
        optional (seq ["(", role .parameter (choice [identifier, destructuringPattern]),
          optional (role .type ascription), ")"]),
        role .body statementBlock]),
  shown .finallyClause "finally_clause" (seq ["finally", role .body statementBlock])]

end PageGraft.Syntax.Grammar
