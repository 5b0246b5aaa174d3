import PackageAtlas.Syntax.Rule

namespace PackageAtlas.Syntax.Grammar

open Rule

/-!
# Types

* `typeRules`: types by how they are built;
* `typeQueryRules`: types of values;
* `literalTypeRules`: types with one value, and types with a name of their own;
* `objectTypeRules`: types of objects and functions.
-/

/-- Types, tuples, choices between types and predicates. -/
def typeRules : List (String × Rule) := [
  ("type",
    oneOf [
      the "primary_type", the "function_type", the "readonly_type", the "constructor_type",
      the "infer_type",
      ranked (.level (-1)) none
        (named "member_expression" (the "_type_query_member_expression_in_type_annotation")),
      ranked (.level (-1)) none
        (named "call_expression" (the "_type_query_call_expression_in_type_annotation"))]),
  ("tuple_parameter",
    parts [
      field "name" (oneOf [Lexeme.name, the "rest_pattern"]),
      field "type" (the "type_annotation")]),
  ("optional_tuple_parameter",
    parts [field "name" Lexeme.name, "?", field "type" (the "type_annotation")]),
  ("optional_type", parts [the "type", "?"]),
  ("rest_type", parts ["...", the "type"]),
  ("_tuple_type_member",
    oneOf [
      named "required_parameter" (the "tuple_parameter"),
      named "optional_parameter" (the "optional_tuple_parameter"), the "optional_type",
      the "rest_type", the "type"]),
  ("constructor_type",
    left (parts [
      optional "abstract", "new", field "type_parameters" (optional (the "type_parameters")),
      field "parameters" (the "formal_parameters"), "=>", field "type" (the "type")])),
  ("primary_type",
    oneOf [
      the "parenthesized_type", the "predefined_type", the "_type_identifier",
      the "nested_type_identifier", the "generic_type", the "object_type", the "array_type",
      the "tuple_type", the "flow_maybe_type", the "type_query", the "index_type_query",
      named "this_type" "this", the "existential_type", the "literal_type", the "lookup_type",
      the "conditional_type", the "template_literal_type", the "intersection_type",
      the "union_type", "const"]),
  ("template_type", parts ["$\x7b", oneOf [the "primary_type", the "infer_type"], "\x7d"]),
  ("template_literal_type",
    parts [
      "`", many (oneOf [named "string_fragment" Lexeme.templateText, the "template_type"]), "`"]),
  ("infer_type",
    right (parts ["infer", the "_type_identifier", optional (parts ["extends", the "type"])])),
  ("conditional_type",
    right (parts [
      field "left" (the "type"), "extends", field "right" (the "type"), "?",
      field "consequence" (the "type"), ":", field "alternative" (the "type")])),
  ("generic_type",
    rank "call" (parts [
      field "name" (oneOf [the "_type_identifier", the "nested_type_identifier"]),
      field "type_arguments" (the "type_arguments")])),
  ("type_predicate",
    parts [
      field "name" (oneOf [Lexeme.name, "this", named "identifier" (the "predefined_type")]),
      "is", field "type" (the "type")]),
  ("type_predicate_annotation", parts [":", the "type_predicate"])]

/-- The type of a value that is named. -/
def typeQueryRules : List (String × Rule) := [
  ("_type_query_member_expression",
    parts [
      field "object" (oneOf [
        Lexeme.name, "this",
        named "subscript_expression" (the "_type_query_subscript_expression"),
        named "member_expression" (the "_type_query_member_expression"),
        named "call_expression" (the "_type_query_call_expression")]),
      oneOf [".", "?."],
      field "property" (oneOf [Lexeme.secretName, named "property_identifier" Lexeme.name])]),
  ("_type_query_subscript_expression",
    parts [
      field "object" (oneOf [
        Lexeme.name, "this",
        named "subscript_expression" (the "_type_query_subscript_expression"),
        named "member_expression" (the "_type_query_member_expression"),
        named "call_expression" (the "_type_query_call_expression")]),
      optional "?.", "[",
      field "index" (oneOf [the "predefined_type", the "string", Lexeme.number]), "]"]),
  ("_type_query_call_expression",
    parts [
      field "function" (oneOf [
        the "import", Lexeme.name,
        named "member_expression" (the "_type_query_member_expression"),
        named "subscript_expression" (the "_type_query_subscript_expression")]),
      field "arguments" (the "arguments")]),
  ("_type_query_instantiation_expression",
    parts [
      field "function" (oneOf [
        the "import", Lexeme.name,
        named "member_expression" (the "_type_query_member_expression"),
        named "subscript_expression" (the "_type_query_subscript_expression")]),
      field "type_arguments" (the "type_arguments")]),
  ("type_query",
    right (parts [
      "typeof",
      oneOf [
        named "subscript_expression" (the "_type_query_subscript_expression"),
        named "member_expression" (the "_type_query_member_expression"),
        named "call_expression" (the "_type_query_call_expression"),
        named "instantiation_expression" (the "_type_query_instantiation_expression"),
        Lexeme.name, "this"]]))]

/-- Keys, members and literals as types. -/
def literalTypeRules : List (String × Rule) := [
  ("index_type_query", parts ["keyof", the "primary_type"]),
  ("lookup_type", parts [the "primary_type", "[", the "type", "]"]),
  ("mapped_type_clause",
    parts [
      field "name" (the "_type_identifier"), "in", field "type" (the "type"),
      optional (parts ["as", field "alias" (the "type")])]),
  ("literal_type",
    oneOf [
      named "unary_expression" (the "_number"), Lexeme.number, the "string", "true", "false",
      "null", "undefined"]),
  ("_number",
    ranked (.level 1) (some .left) (parts [
      field "operator" (oneOf ["-", "+"]), field "argument" Lexeme.number])),
  ("existential_type", "*"),
  ("flow_maybe_type", right (parts ["?", the "primary_type"])),
  ("parenthesized_type", parts ["(", the "type", ")"]),
  ("predefined_type",
    oneOf [
      "any", "number", "boolean", "string", "symbol",
      shown "unique symbol" false (parts ["unique", "symbol"]), "void", "unknown", "never",
      "object"])]

/-- Types of objects and functions, and parameters that stand for types. -/
def objectTypeRules : List (String × Rule) := [
  ("type_arguments", parts ["<", commas1 (the "type"), optional ",", ">"]),
  ("object_type",
    parts [
      oneOf ["\x7b", "\x7b|"],
      optional (parts [
        optional (oneOf [",", ";"]),
        oneOf [
          the "export_statement", the "property_signature", the "call_signature",
          the "construct_signature", the "index_signature", the "method_signature"],
        many (parts [
          oneOf [",", the "_semicolon"],
          oneOf [
            the "export_statement", the "property_signature", the "call_signature",
            the "construct_signature", the "index_signature", the "method_signature"]]),
        optional (oneOf [",", the "_semicolon"])]),
      oneOf ["\x7d", "|\x7d"]]),
  ("call_signature", the "_call_signature"),
  ("property_signature",
    parts [
      optional (the "accessibility_modifier"), optional "static",
      optional (the "override_modifier"), optional "readonly",
      field "name" (the "_property_name"), optional "?",
      field "type" (optional (the "type_annotation"))]),
  ("type_parameters", parts ["<", commas1 (the "type_parameter"), optional ",", ">"]),
  ("type_parameter",
    parts [
      optional "const", field "name" (the "_type_identifier"),
      field "constraint" (optional (the "constraint")),
      field "value" (optional (the "default_type"))]),
  ("default_type", parts ["=", the "type"]),
  ("constraint", parts [oneOf ["extends", ":"], the "type"]),
  ("construct_signature",
    parts [
      optional "abstract", "new", field "type_parameters" (optional (the "type_parameters")),
      field "parameters" (the "formal_parameters"),
      field "type" (optional (the "type_annotation"))]),
  ("index_signature",
    parts [
      optional (parts [field "sign" (optional (oneOf ["-", "+"])), "readonly"]), "[",
      oneOf [
        parts [
          field "name" (oneOf [Lexeme.name, named "identifier" (the "_reserved_identifier")]),
          ":", field "index_type" (the "type")],
        the "mapped_type_clause"],
      "]",
      field "type" (oneOf [
        the "type_annotation", the "omitting_type_annotation", the "adding_type_annotation",
        the "opting_type_annotation"])]),
  ("array_type", parts [the "primary_type", "[", "]"]),
  ("tuple_type", parts ["[", commas (the "_tuple_type_member"), optional ",", "]"]),
  ("readonly_type", parts ["readonly", the "type"]),
  ("union_type", left (parts [optional (the "type"), "|", the "type"])),
  ("intersection_type", left (parts [optional (the "type"), "&", the "type"])),
  ("function_type",
    left (parts [
      field "type_parameters" (optional (the "type_parameters")),
      field "parameters" (the "formal_parameters"), "=>",
      field "return_type" (oneOf [the "type", the "asserts", the "type_predicate"])])),
  ("_type_identifier", named "type_identifier" Lexeme.name)]

end PackageAtlas.Syntax.Grammar
