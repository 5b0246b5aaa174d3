import PackageAtlas.Syntax.Rule

namespace PackageAtlas.Syntax.Grammar

open Rule

/-!
# Expressions

* `groupRules`, `valueRule`: values in general;
* `primaryRules`: values that stand for themselves, objects, arrays and patterns.
-/

/-- Values in parentheses, and values side by side. -/
def groupRules : List (String × Rule) := [
  ("parenthesized_expression",
    parts [
      "(",
      oneOf [
        parts [the "expression", field "type" (optional (the "type_annotation"))],
        the "sequence_expression"],
      ")"]),
  ("_expressions", oneOf [the "expression", the "sequence_expression"])]

/-- Values. Where elements are values, a type in angle brackets before a value is none. -/
def valueRule (elements : Bool) : Rule :=
  oneOf ([the "as_expression", the "satisfies_expression", the "instantiation_expression",
      the "internal_module"] ++
    (if elements then [the "primary_expression", the "_jsx_element"]
      else [the "type_assertion", the "primary_expression"]) ++
    [the "assignment_expression", the "augmented_assignment_expression", the "await_expression",
      the "unary_expression", the "binary_expression", the "ternary_expression",
      the "update_expression", the "new_expression", the "yield_expression"])

/-- Values that nothing need be put around, and the patterns that look like them. -/
def primaryRules : List (String × Rule) := [
  ("primary_expression",
    oneOf [
      the "subscript_expression", the "member_expression", the "parenthesized_expression",
      the "_identifier", named "identifier" (the "_reserved_identifier"), "this", "super",
      Lexeme.number, the "string", the "template_string", the "regex", "true", "false", "null",
      the "object", the "array", the "function_expression", the "arrow_function",
      the "generator_function", the "class", the "meta_property", the "call_expression",
      the "non_null_expression"]),
  ("yield_expression",
    right (parts ["yield", oneOf [parts ["*", the "expression"], optional (the "expression")]])),
  ("object",
    rank "object" (parts [
      "\x7b",
      commas (optional (oneOf [
        the "pair", the "spread_element", the "method_definition",
        named "shorthand_property_identifier" (oneOf [
          Lexeme.name, the "_reserved_identifier"])])),
      "\x7d"])),
  ("object_pattern",
    rank "object" (parts [
      "\x7b",
      commas (optional (oneOf [
        the "pair_pattern", the "rest_pattern", the "object_assignment_pattern",
        named "shorthand_property_identifier_pattern" (oneOf [
          Lexeme.name, the "_reserved_identifier"])])),
      "\x7d"])),
  ("assignment_pattern",
    parts [field "left" (the "pattern"), "=", field "right" (the "expression")]),
  ("object_assignment_pattern",
    parts [
      field "left" (oneOf [
        named "shorthand_property_identifier_pattern" (oneOf [
          the "_reserved_identifier", Lexeme.name]),
        the "_destructuring_pattern"]),
      "=", field "right" (the "expression")]),
  ("array", parts ["[", commas (optional (oneOf [the "expression", the "spread_element"])), "]"]),
  ("array_pattern",
    parts ["[", commas (optional (oneOf [the "pattern", the "assignment_pattern"])), "]"]),
  ("nested_identifier",
    rank "member" (parts [
      field "object" (oneOf [Lexeme.name, named "member_expression" (the "nested_identifier")]),
      ".", field "property" (named "property_identifier" Lexeme.name)]))]

end PackageAtlas.Syntax.Grammar
