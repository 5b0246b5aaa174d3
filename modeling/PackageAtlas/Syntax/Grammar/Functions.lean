import PackageAtlas.Syntax.Rule

namespace PackageAtlas.Syntax.Grammar

open Rule

/-!
# Functions and classes as values

* `functionRules`: classes and functions, as values and as declarations.
-/

/-- Classes and functions with their bodies. -/
def functionRules : List (String × Rule) := [
  ("class",
    rank "literal" (parts [
      many (field "decorator" (the "decorator")), "class",
      field "name" (optional (the "_type_identifier")),
      field "type_parameters" (optional (the "type_parameters")), optional (the "class_heritage"),
      field "body" (the "class_body")])),
  ("class_declaration",
    rankLeft "declare" (parts [
      many (field "decorator" (the "decorator")), "class", field "name" (the "_type_identifier"),
      field "type_parameters" (optional (the "type_parameters")), optional (the "class_heritage"),
      field "body" (the "class_body"), optional Lexeme.impliedEnd])),
  ("class_heritage",
    oneOf [
      parts [the "extends_clause", optional (the "implements_clause")], the "implements_clause"]),
  ("function_expression",
    rank "literal" (parts [
      optional "async", "function", field "name" (optional Lexeme.name), the "_call_signature",
      field "body" (the "statement_block")])),
  ("function_declaration",
    rankRight "declare" (parts [
      optional "async", "function", field "name" Lexeme.name, the "_call_signature",
      field "body" (the "statement_block"), optional Lexeme.impliedEnd])),
  ("generator_function",
    rank "literal" (parts [
      optional "async", "function", "*", field "name" (optional Lexeme.name),
      the "_call_signature", field "body" (the "statement_block")])),
  ("generator_function_declaration",
    rankRight "declare" (parts [
      optional "async", "function", "*", field "name" Lexeme.name, the "_call_signature",
      field "body" (the "statement_block"), optional Lexeme.impliedEnd])),
  ("arrow_function",
    parts [
      optional "async",
      oneOf [
        field "parameter" (oneOf [named "identifier" (the "_reserved_identifier"), Lexeme.name]),
        the "_call_signature"],
      "=>", field "body" (oneOf [the "expression", the "statement_block"])]),
  ("_call_signature",
    parts [
      field "type_parameters" (optional (the "type_parameters")),
      field "parameters" (the "formal_parameters"),
      field "return_type" (optional (oneOf [
        the "type_annotation", the "asserts_annotation", the "type_predicate_annotation"]))]),
  ("_formal_parameter", oneOf [the "required_parameter", the "optional_parameter"])]

end PackageAtlas.Syntax.Grammar
