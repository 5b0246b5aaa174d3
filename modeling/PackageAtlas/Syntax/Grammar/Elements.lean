import PackageAtlas.Syntax.Rule

namespace PackageAtlas.Syntax.Grammar

open Rule

/-!
# Elements

Elements are written among values: tags with attributes, and between them text, values in braces
and further elements.

* `elementRules`: elements and what they hold;
* `attributeRules`: the attributes of a tag.
-/

/-- Elements with their tags and contents. -/
def elementRules : List (String × Rule) := [
  ("_jsx_element", oneOf [the "jsx_element", the "jsx_self_closing_element"]),
  ("jsx_element",
    parts [
      field "open_tag" (the "jsx_opening_element"), many (the "_jsx_child"),
      field "close_tag" (the "jsx_closing_element")]),
  ("jsx_expression",
    parts [
      "\x7b",
      optional (oneOf [the "expression", the "sequence_expression", the "spread_element"]),
      "\x7d"]),
  ("_jsx_child",
    oneOf [Lexeme.elementText, Lexeme.reference, the "_jsx_element", the "jsx_expression"]),
  ("_jsx_identifier", oneOf [named "identifier" Lexeme.dashedName, Lexeme.name]),
  ("jsx_namespace_name", parts [the "_jsx_identifier", ":", the "_jsx_identifier"]),
  ("_jsx_element_name",
    oneOf [
      the "_jsx_identifier", named "member_expression" (the "nested_identifier"),
      the "jsx_namespace_name"]),
  ("_jsx_start_opening_element",
    parts [
      "<",
      optional (parts [
        oneOf [
          field "name" (oneOf [the "_jsx_identifier", the "jsx_namespace_name"]),
          parts [
            field "name" (oneOf [
              Lexeme.name, named "member_expression" (the "nested_identifier")]),
            field "type_arguments" (optional (the "type_arguments"))]],
        many (field "attribute" (the "_jsx_attribute"))])]),
  ("jsx_opening_element", weighted (-1) (parts [the "_jsx_start_opening_element", ">"])),
  ("jsx_self_closing_element", weighted (-1) (parts [the "_jsx_start_opening_element", "/>"])),
  ("jsx_closing_element", parts ["</", optional (field "name" (the "_jsx_element_name")), ">"])]

/-- Attributes and their values. -/
def attributeRules : List (String × Rule) := [
  ("_jsx_attribute", oneOf [the "jsx_attribute", the "jsx_expression"]),
  ("_jsx_attribute_name",
    oneOf [named "property_identifier" (the "_jsx_identifier"), the "jsx_namespace_name"]),
  ("jsx_attribute",
    parts [the "_jsx_attribute_name", optional (parts ["=", the "_jsx_attribute_value"])]),
  ("_jsx_string",
    oneOf [
      parts [
        "\"", many (oneOf [named "string_fragment" Lexeme.doubleValue, Lexeme.reference]), "\""],
      parts [
        "'", many (oneOf [named "string_fragment" Lexeme.singleValue, Lexeme.reference]), "'"]]),
  ("_jsx_attribute_value",
    oneOf [named "string" (the "_jsx_string"), the "jsx_expression", the "_jsx_element"])]

end PackageAtlas.Syntax.Grammar
