import PackageAtlas.Syntax.Rule

namespace PackageAtlas.Syntax.Grammar

open Rule

/-!
# Statements

* `statementRules`: statements and their variables;
* `branchRules`: choices, loops and jumps;
* `clauseRules`: the parts of choices and of blocks that may fail.
-/

/-- Statements, and those that declare variables. -/
def statementRules : List (String × Rule) := [
  ("statement",
    oneOf [
      the "export_statement", the "import_statement", the "debugger_statement",
      the "expression_statement", the "declaration", the "statement_block", the "if_statement",
      the "switch_statement", the "for_statement", the "for_in_statement", the "while_statement",
      the "do_statement", the "try_statement", the "with_statement", the "break_statement",
      the "continue_statement", the "return_statement", the "throw_statement",
      the "empty_statement", the "labeled_statement"]),
  ("expression_statement", parts [the "_expressions", the "_semicolon"]),
  ("variable_declaration", parts ["var", commas1 (the "variable_declarator"), the "_semicolon"]),
  ("lexical_declaration",
    parts [
      field "kind" (oneOf ["let", "const"]), commas1 (the "variable_declarator"),
      the "_semicolon"]),
  ("variable_declarator",
    oneOf [
      parts [
        field "name" (oneOf [Lexeme.name, the "_destructuring_pattern"]),
        field "type" (optional (the "type_annotation")), optional (the "_initializer")],
      rank "declare" (parts [
        field "name" Lexeme.name, "!", field "type" (the "type_annotation")])]),
  ("statement_block",
    right (parts ["\x7b", many (the "statement"), "\x7d", optional Lexeme.impliedEnd]))]

/-- Choices, loops, jumps and labels. -/
def branchRules : List (String × Rule) := [
  ("else_clause", parts ["else", the "statement"]),
  ("if_statement",
    right (parts [
      "if", field "condition" (the "parenthesized_expression"),
      field "consequence" (the "statement"),
      optional (field "alternative" (the "else_clause"))])),
  ("switch_statement",
    parts [
      "switch", field "value" (the "parenthesized_expression"),
      field "body" (the "switch_body")]),
  ("for_statement",
    parts [
      "for", "(",
      oneOf [
        field "initializer" (oneOf [the "lexical_declaration", the "variable_declaration"]),
        parts [field "initializer" (the "_expressions"), ";"],
        field "initializer" (the "empty_statement")],
      field "condition" (oneOf [parts [the "_expressions", ";"], the "empty_statement"]),
      field "increment" (optional (the "_expressions")), ")", field "body" (the "statement")]),
  ("for_in_statement",
    parts ["for", optional "await", the "_for_header", field "body" (the "statement")]),
  ("_for_header",
    parts [
      "(",
      oneOf [
        field "left" (oneOf [the "_lhs_expression", the "parenthesized_expression"]),
        parts [
          field "kind" "var", field "left" (oneOf [Lexeme.name, the "_destructuring_pattern"]),
          optional (the "_initializer")],
        parts [
          field "kind" (oneOf ["let", "const"]),
          field "left" (oneOf [Lexeme.name, the "_destructuring_pattern"]),
          optional Lexeme.impliedEnd]],
      field "operator" (oneOf ["in", "of"]), field "right" (the "_expressions"), ")"]),
  ("while_statement",
    parts [
      "while", field "condition" (the "parenthesized_expression"),
      field "body" (the "statement")]),
  ("do_statement",
    right (parts [
      "do", field "body" (the "statement"), "while",
      field "condition" (the "parenthesized_expression"), optional (the "_semicolon")])),
  ("try_statement",
    parts [
      "try", field "body" (the "statement_block"),
      optional (field "handler" (the "catch_clause")),
      optional (field "finalizer" (the "finally_clause"))]),
  ("with_statement",
    parts [
      "with", field "object" (the "parenthesized_expression"), field "body" (the "statement")]),
  ("break_statement",
    parts [
      "break", field "label" (optional (named "statement_identifier" Lexeme.name)),
      the "_semicolon"]),
  ("continue_statement",
    parts [
      "continue", field "label" (optional (named "statement_identifier" Lexeme.name)),
      the "_semicolon"]),
  ("debugger_statement", parts ["debugger", the "_semicolon"]),
  ("return_statement", parts ["return", optional (the "_expressions"), the "_semicolon"]),
  ("throw_statement", parts ["throw", the "_expressions", the "_semicolon"]),
  ("empty_statement", ";"),
  ("labeled_statement",
    weighted (-1) (parts [
      field "label" (named "statement_identifier" (oneOf [
        Lexeme.name, the "_reserved_identifier"])),
      ":", field "body" (the "statement")]))]

/-- The cases of a choice, and what is done when a block fails. -/
def clauseRules : List (String × Rule) := [
  ("switch_body", parts ["\x7b", many (oneOf [the "switch_case", the "switch_default"]), "\x7d"]),
  ("switch_case",
    parts [
      "case", field "value" (the "_expressions"), ":", field "body" (many (the "statement"))]),
  ("switch_default", parts ["default", ":", field "body" (many (the "statement"))]),
  ("catch_clause",
    parts [
      "catch",
      optional (parts [
        "(", field "parameter" (oneOf [Lexeme.name, the "_destructuring_pattern"]),
        optional (field "type" (the "type_annotation")), ")"]),
      field "body" (the "statement_block")]),
  ("finally_clause", parts ["finally", field "body" (the "statement_block")])]

end PackageAtlas.Syntax.Grammar
