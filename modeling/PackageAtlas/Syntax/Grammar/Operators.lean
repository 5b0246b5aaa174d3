import PackageAtlas.Syntax.Rule

namespace PackageAtlas.Syntax.Grammar

open Rule

/-!
# Calls, selections and operators

* `callRules`: what is called, made or selected;
* `assignmentRules`: what is assigned;
* `operatorRules`: operators with their ranks.
-/

/-- Calls and selections. -/
def callRules : List (String × Rule) := [
  ("optional_chain", "?."),
  ("call_expression",
    oneOf [
      rank "call" (parts [
        field "function" (oneOf [the "expression", the "import"]),
        field "type_arguments" (optional (the "type_arguments")),
        field "arguments" (the "arguments")]),
      rank "template_call" (parts [
        field "function" (oneOf [the "primary_expression", the "new_expression"]),
        field "arguments" (the "template_string")]),
      rank "member" (parts [
        field "function" (the "primary_expression"), "?.",
        field "type_arguments" (optional (the "type_arguments")),
        field "arguments" (the "arguments")])]),
  ("new_expression",
    rankRight "new" (parts [
      "new", field "constructor" (the "primary_expression"),
      field "type_arguments" (optional (the "type_arguments")),
      field "arguments" (optional (the "arguments"))])),
  ("await_expression", rank "unary_void" (parts ["await", the "expression"])),
  ("member_expression",
    rank "member" (parts [
      field "object" (oneOf [the "expression", the "primary_expression", the "import"]),
      oneOf [".", field "optional_chain" (the "optional_chain")],
      field "property" (oneOf [Lexeme.secretName, named "property_identifier" Lexeme.name])])),
  ("subscript_expression",
    rankRight "member" (parts [
      field "object" (oneOf [the "expression", the "primary_expression"]),
      optional (field "optional_chain" (the "optional_chain")), "[",
      field "index" (the "_expressions"), "]"]))]

/-- Assignments and what they may assign to. -/
def assignmentRules : List (String × Rule) := [
  ("_lhs_expression",
    oneOf [
      the "member_expression", the "subscript_expression", the "_identifier",
      named "identifier" (the "_reserved_identifier"), the "_destructuring_pattern",
      the "non_null_expression"]),
  ("assignment_expression",
    rankRight "assign" (parts [
      optional "using",
      field "left" (oneOf [the "parenthesized_expression", the "_lhs_expression"]), "=",
      field "right" (the "expression")])),
  ("_augmented_assignment_lhs",
    oneOf [
      the "member_expression", the "subscript_expression",
      named "identifier" (the "_reserved_identifier"), Lexeme.name,
      the "parenthesized_expression", the "non_null_expression"]),
  ("augmented_assignment_expression",
    rankRight "assign" (parts [
      field "left" (the "_augmented_assignment_lhs"),
      field "operator" (oneOf [
        "+=", "-=", "*=", "/=", "%=", "^=", "&=", "|=", ">>=", ">>>=", "<<=", "**=", "&&=", "||=",
        "??="]),
      field "right" (the "expression")])),
  ("_initializer", parts ["=", field "value" (the "expression")]),
  ("_destructuring_pattern", oneOf [the "object_pattern", the "array_pattern"]),
  ("spread_element", parts ["...", the "expression"])]

/-- Operators, and values side by side. -/
def operatorRules : List (String × Rule) := [
  ("ternary_expression",
    rankRight "ternary" (parts [
      field "condition" (the "expression"), shown "?" false Lexeme.choiceMark,
      field "consequence" (the "expression"), ":", field "alternative" (the "expression")])),
  ("binary_expression",
    oneOf [
      rankLeft "logical_and" (parts [
        field "left" (the "expression"), field "operator" "&&",
        field "right" (the "expression")]),
      rankLeft "logical_or" (parts [
        field "left" (the "expression"), field "operator" "||",
        field "right" (the "expression")]),
      rankLeft "binary_shift" (parts [
        field "left" (the "expression"), field "operator" ">>",
        field "right" (the "expression")]),
      rankLeft "binary_shift" (parts [
        field "left" (the "expression"), field "operator" ">>>",
        field "right" (the "expression")]),
      rankLeft "binary_shift" (parts [
        field "left" (the "expression"), field "operator" "<<",
        field "right" (the "expression")]),
      rankLeft "bitwise_and" (parts [
        field "left" (the "expression"), field "operator" "&", field "right" (the "expression")]),
      rankLeft "bitwise_xor" (parts [
        field "left" (the "expression"), field "operator" "^", field "right" (the "expression")]),
      rankLeft "bitwise_or" (parts [
        field "left" (the "expression"), field "operator" "|", field "right" (the "expression")]),
      rankLeft "binary_plus" (parts [
        field "left" (the "expression"), field "operator" "+", field "right" (the "expression")]),
      rankLeft "binary_plus" (parts [
        field "left" (the "expression"), field "operator" "-", field "right" (the "expression")]),
      rankLeft "binary_times" (parts [
        field "left" (the "expression"), field "operator" "*", field "right" (the "expression")]),
      rankLeft "binary_times" (parts [
        field "left" (the "expression"), field "operator" "/", field "right" (the "expression")]),
      rankLeft "binary_times" (parts [
        field "left" (the "expression"), field "operator" "%", field "right" (the "expression")]),
      rankRight "binary_exp" (parts [
        field "left" (the "expression"), field "operator" "**",
        field "right" (the "expression")]),
      rankLeft "binary_relation" (parts [
        field "left" (the "expression"), field "operator" "<", field "right" (the "expression")]),
      rankLeft "binary_relation" (parts [
        field "left" (the "expression"), field "operator" "<=",
        field "right" (the "expression")]),
      rankLeft "binary_equality" (parts [
        field "left" (the "expression"), field "operator" "==",
        field "right" (the "expression")]),
      rankLeft "binary_equality" (parts [
        field "left" (the "expression"), field "operator" "===",
        field "right" (the "expression")]),
      rankLeft "binary_equality" (parts [
        field "left" (the "expression"), field "operator" "!=",
        field "right" (the "expression")]),
      rankLeft "binary_equality" (parts [
        field "left" (the "expression"), field "operator" "!==",
        field "right" (the "expression")]),
      rankLeft "binary_relation" (parts [
        field "left" (the "expression"), field "operator" ">=",
        field "right" (the "expression")]),
      rankLeft "binary_relation" (parts [
        field "left" (the "expression"), field "operator" ">", field "right" (the "expression")]),
      rankLeft "ternary" (parts [
        field "left" (the "expression"), field "operator" "??",
        field "right" (the "expression")]),
      rankLeft "binary_relation" (parts [
        field "left" (the "expression"), field "operator" "instanceof",
        field "right" (the "expression")]),
      rankLeft "binary_relation" (parts [
        field "left" (oneOf [the "expression", Lexeme.secretName]), field "operator" "in",
        field "right" (the "expression")])]),
  ("unary_expression",
    rankLeft "unary_void" (parts [
      field "operator" (oneOf ["!", "~", "-", "+", "typeof", "void", "delete"]),
      field "argument" (the "expression")])),
  ("update_expression",
    left (oneOf [
      parts [field "argument" (the "expression"), field "operator" (oneOf ["++", "--"])],
      parts [field "operator" (oneOf ["++", "--"]), field "argument" (the "expression")]])),
  ("sequence_expression", right (commas1 (the "expression")))]

end PackageAtlas.Syntax.Grammar
