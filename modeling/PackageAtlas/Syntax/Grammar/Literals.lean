import PackageAtlas.Syntax.Rule

namespace PackageAtlas.Syntax.Grammar

open Rule

/-!
# Literals, parameters and members

* `literalRules`: texts, templates and regular expressions;
* `argumentRules`: arguments, decorators, the members of classes and parameters;
* `memberRules`: members of objects and their names;
* `endRules`: words that are names too, and the ends of statements.
-/

/-- Texts, templates, regular expressions and names with a meaning of their own. -/
def literalRules : List (String × Rule) := [
  ("string",
    oneOf [
      parts ["\"", many (oneOf [named "string_fragment" Lexeme.doubleText, Lexeme.escape]), "\""],
      parts ["'", many (oneOf [named "string_fragment" Lexeme.singleText, Lexeme.escape]), "'"]]),
  ("template_string",
    parts [
      "`",
      many (oneOf [
        named "string_fragment" Lexeme.templateText, Lexeme.escape, the "template_substitution"]),
      "`"]),
  ("template_substitution", parts ["$\x7b", the "_expressions", "\x7d"]),
  ("regex",
    parts [
      "/", field "pattern" Lexeme.pattern, Lexeme.patternEnd,
      optional (field "flags" Lexeme.patternFlags)]),
  ("_identifier", oneOf ["undefined", Lexeme.name]),
  ("meta_property", oneOf [parts ["new", ".", "target"], parts ["import", ".", "meta"]])]

/-- Arguments, decorators, bodies of classes and parameters. -/
def argumentRules : List (String × Rule) := [
  ("arguments",
    parts ["(", commas (optional (oneOf [the "expression", the "spread_element"])), ")"]),
  ("decorator",
    parts [
      "@",
      oneOf [
        Lexeme.name, named "member_expression" (the "decorator_member_expression"),
        named "call_expression" (the "decorator_call_expression"),
        named "parenthesized_expression" (the "decorator_parenthesized_expression")]]),
  ("decorator_member_expression",
    rank "member" (parts [
      field "object" (oneOf [
        Lexeme.name, named "member_expression" (the "decorator_member_expression")]),
      ".", field "property" (named "property_identifier" Lexeme.name)])),
  ("decorator_call_expression",
    rank "call" (parts [
      field "function" (oneOf [
        Lexeme.name, named "member_expression" (the "decorator_member_expression")]),
      optional (field "type_arguments" (the "type_arguments")),
      field "arguments" (the "arguments")])),
  ("class_body",
    parts [
      "\x7b",
      many (oneOf [
        parts [
          many (field "decorator" (the "decorator")), the "method_definition",
          optional (the "_semicolon")],
        parts [the "method_signature", oneOf [Lexeme.impliedHeadEnd, ","]],
        the "class_static_block",
        parts [
          oneOf [
            the "abstract_method_signature", the "index_signature", the "method_signature",
            the "public_field_definition"],
          oneOf [the "_semicolon", ","]],
        ";"]),
      "\x7d"]),
  ("formal_parameters",
    parts ["(", optional (parts [commas1 (the "_formal_parameter"), optional ","]), ")"]),
  ("class_static_block", parts ["static", field "body" (the "statement_block")]),
  ("pattern", weighted (-1) (oneOf [the "_lhs_expression", the "rest_pattern"])),
  ("rest_pattern", right (parts ["...", the "_lhs_expression"]))]

/-- Members of objects. -/
def memberRules : List (String × Rule) := [
  ("method_definition",
    left (parts [
      optional (the "accessibility_modifier"), optional "static",
      optional (the "override_modifier"), optional "readonly", optional "async",
      optional (oneOf ["get", "set", "*"]), field "name" (the "_property_name"), optional "?",
      the "_call_signature", field "body" (the "statement_block")])),
  ("pair", parts [field "key" (the "_property_name"), ":", field "value" (the "expression")]),
  ("pair_pattern",
    parts [
      field "key" (the "_property_name"), ":",
      field "value" (oneOf [the "pattern", the "assignment_pattern"])]),
  ("_property_name",
    oneOf [
      named "property_identifier" (oneOf [Lexeme.name, the "_reserved_identifier"]),
      Lexeme.secretName, the "string", Lexeme.number, the "computed_property_name"]),
  ("computed_property_name", parts ["[", the "expression", "]"])]

/-- Words that serve as names too, and what ends a statement. -/
def endRules : List (String × Rule) := [
  ("_reserved_identifier",
    oneOf [
      "declare", "namespace", "type", "public", "private", "protected", "override", "readonly",
      "module", "any", "number", "boolean", "string", "symbol", "export", "object", "new", "get",
      "set", "async", "static", "let"]),
  ("_semicolon", oneOf [Lexeme.impliedEnd, ";"])]

end PackageAtlas.Syntax.Grammar
