import PackageAtlas.Syntax.Rule

namespace PackageAtlas.Syntax.Grammar

open Rule

/-!
# Declarations

* `typedMemberRules`: fields and signatures of members;
* `typedValueRules`: values with types;
* `declarationRules`: classes, modules, interfaces, enumerations and aliases;
* `parameterRules`: parameters with their types.
-/

/-- Fields and the signatures of methods and functions. -/
def typedMemberRules : List (String × Rule) := [
  ("public_field_definition",
    parts [
      many (field "decorator" (the "decorator")),
      optional (oneOf [
        parts ["declare", optional (the "accessibility_modifier")],
        parts [the "accessibility_modifier", optional "declare"]]),
      oneOf [
        parts [optional "static", optional (the "override_modifier"), optional "readonly"],
        parts [optional "abstract", optional "readonly"],
        parts [optional "readonly", optional "abstract"], optional "accessor"],
      field "name" (the "_property_name"), optional (oneOf ["?", "!"]),
      field "type" (optional (the "type_annotation")), optional (the "_initializer")]),
  ("_import_identifier", oneOf [Lexeme.name, named "identifier" "type"]),
  ("non_null_expression", rankLeft "unary" (parts [the "expression", "!"])),
  ("method_signature",
    parts [
      optional (the "accessibility_modifier"), optional "static",
      optional (the "override_modifier"), optional "readonly", optional "async",
      optional (oneOf ["get", "set", "*"]), field "name" (the "_property_name"), optional "?",
      the "_call_signature"]),
  ("abstract_method_signature",
    parts [
      optional (the "accessibility_modifier"), "abstract", optional (the "override_modifier"),
      optional (oneOf ["get", "set", "*"]), field "name" (the "_property_name"), optional "?",
      the "_call_signature"]),
  ("function_signature",
    parts [
      optional "async", "function", field "name" Lexeme.name, the "_call_signature",
      oneOf [the "_semicolon", Lexeme.impliedHeadEnd]]),
  ("decorator_parenthesized_expression",
    parts [
      "(",
      oneOf [
        Lexeme.name, named "member_expression" (the "decorator_member_expression"),
        named "call_expression" (the "decorator_call_expression")],
      ")"])]

/-- Values whose type is told. -/
def typedValueRules : List (String × Rule) := [
  ("type_assertion", rankLeft "unary" (parts [the "type_arguments", the "expression"])),
  ("as_expression",
    rankLeft "binary" (parts [the "expression", "as", oneOf ["const", the "type"]])),
  ("satisfies_expression", rankLeft "binary" (parts [the "expression", "satisfies", the "type"])),
  ("instantiation_expression",
    rank "instantiation" (parts [
      the "expression", field "type_arguments" (the "type_arguments")]))]

/-- Declarations and what they build on. -/
def declarationRules : List (String × Rule) := [
  ("import_require_clause",
    parts [Lexeme.name, "=", "require", "(", field "source" (the "string"), ")"]),
  ("extends_clause", parts ["extends", commas1 (the "_extends_clause_single")]),
  ("_extends_clause_single",
    rank "extends" (parts [
      field "value" (the "expression"),
      field "type_arguments" (optional (the "type_arguments"))])),
  ("implements_clause", parts ["implements", commas1 (the "type")]),
  ("ambient_declaration",
    parts [
      "declare",
      oneOf [
        the "declaration", parts ["global", the "statement_block"],
        parts [
          "module", ".", named "property_identifier" Lexeme.name, ":", the "type",
          the "_semicolon"]]]),
  ("abstract_class_declaration",
    rank "declare" (parts [
      many (field "decorator" (the "decorator")), "abstract", "class",
      field "name" (the "_type_identifier"),
      field "type_parameters" (optional (the "type_parameters")), optional (the "class_heritage"),
      field "body" (the "class_body")])),
  ("module", parts ["module", the "_module"]),
  ("internal_module", parts ["namespace", the "_module"]),
  ("_module",
    right (parts [
      field "name" (oneOf [the "string", Lexeme.name, the "nested_identifier"]),
      field "body" (optional (the "statement_block"))])),
  ("import_alias",
    parts [
      "import", Lexeme.name, "=", oneOf [Lexeme.name, the "nested_identifier"],
      the "_semicolon"]),
  ("nested_type_identifier",
    rank "member" (parts [
      field "module" (oneOf [Lexeme.name, the "nested_identifier"]), ".",
      field "name" (the "_type_identifier")])),
  ("interface_declaration",
    parts [
      "interface", field "name" (the "_type_identifier"),
      field "type_parameters" (optional (the "type_parameters")),
      optional (the "extends_type_clause"),
      field "body" (named "interface_body" (the "object_type"))]),
  ("extends_type_clause",
    parts [
      "extends",
      commas1 (field "type" (oneOf [
        the "_type_identifier", the "nested_type_identifier", the "generic_type"]))]),
  ("enum_declaration",
    parts [optional "const", "enum", field "name" Lexeme.name, field "body" (the "enum_body")]),
  ("enum_body",
    parts [
      "\x7b",
      optional (parts [
        commas1 (oneOf [field "name" (the "_property_name"), the "enum_assignment"]),
        optional ","]),
      "\x7d"]),
  ("enum_assignment", parts [field "name" (the "_property_name"), the "_initializer"]),
  ("type_alias_declaration",
    parts [
      "type", field "name" (the "_type_identifier"),
      field "type_parameters" (optional (the "type_parameters")), "=", field "value" (the "type"),
      the "_semicolon"]),
  ("accessibility_modifier", oneOf ["public", "private", "protected"]),
  ("override_modifier", "override")]

/-- Parameters and annotations. -/
def parameterRules : List (String × Rule) := [
  ("required_parameter",
    parts [
      the "_parameter_name", field "type" (optional (the "type_annotation")),
      optional (the "_initializer")]),
  ("optional_parameter",
    parts [
      the "_parameter_name", "?", field "type" (optional (the "type_annotation")),
      optional (the "_initializer")]),
  ("_parameter_name",
    parts [
      many (field "decorator" (the "decorator")), optional (the "accessibility_modifier"),
      optional (the "override_modifier"), optional "readonly",
      field "pattern" (oneOf [the "pattern", "this"])]),
  ("omitting_type_annotation", parts ["-?:", the "type"]),
  ("adding_type_annotation", parts ["+?:", the "type"]),
  ("opting_type_annotation", parts ["?:", the "type"]),
  ("type_annotation",
    parts [
      ":",
      oneOf [
        the "type",
        named "member_expression" (the "_type_query_member_expression_in_type_annotation"),
        named "call_expression" (the "_type_query_call_expression_in_type_annotation")]]),
  ("_type_query_member_expression_in_type_annotation",
    parts [
      field "object" (oneOf [
        the "import",
        named "member_expression" (the "_type_query_member_expression_in_type_annotation"),
        named "call_expression" (the "_type_query_call_expression_in_type_annotation")]),
      ".",
      field "property" (oneOf [Lexeme.secretName, named "property_identifier" Lexeme.name])]),
  ("_type_query_call_expression_in_type_annotation",
    parts [
      field "function" (oneOf [
        the "import",
        named "member_expression" (the "_type_query_member_expression_in_type_annotation")]),
      field "arguments" (the "arguments")]),
  ("asserts", parts ["asserts", oneOf [the "type_predicate", Lexeme.name, "this"]]),
  ("asserts_annotation", parts [":", the "asserts"])]

end PackageAtlas.Syntax.Grammar
