import PackageAtlas.Syntax.Rule

namespace PackageAtlas.Syntax.Grammar

open Rule

/-!
# Programs, imports and exports

* `programRules`: a whole source;
* `exportRules`, `importRules`: names that modules give to each other.
-/

/-- A source is a sequence of statements. -/
def programRules : List (String × Rule) := [
  ("program", parts [optional Lexeme.hashBang, many (the "statement")])]

/-- Statements that export names, and the declarations they may hold. -/
def exportRules : List (String × Rule) := [
  ("export_statement",
    oneOf [
      parts [
        "export",
        oneOf [
          parts ["*", the "_from_clause"], parts [the "namespace_export", the "_from_clause"],
          parts [the "export_clause", the "_from_clause"], the "export_clause"],
        the "_semicolon"],
      parts [
        many (field "decorator" (the "decorator")), "export",
        oneOf [
          field "declaration" (the "declaration"),
          parts [
            "default",
            oneOf [
              field "declaration" (the "declaration"),
              parts [field "value" (the "expression"), the "_semicolon"]]]]],
      parts [
        "export", "type", the "export_clause", optional (the "_from_clause"), the "_semicolon"],
      parts ["export", "import", the "import_alias"],
      parts ["export", "=", the "expression", the "_semicolon"],
      parts ["export", "as", "namespace", Lexeme.name, the "_semicolon"]]),
  ("namespace_export", parts ["*", "as", the "_module_export_name"]),
  ("export_clause", parts ["\x7b", commas (the "export_specifier"), optional ",", "\x7d"]),
  ("export_specifier",
    parts [
      optional (oneOf ["type", "typeof"]), field "name" (the "_module_export_name"),
      optional (parts ["as", field "alias" (the "_module_export_name")])]),
  ("_module_export_name", oneOf [Lexeme.name, the "string", "default"]),
  ("declaration",
    oneOf [
      the "function_declaration", the "generator_function_declaration", the "class_declaration",
      the "lexical_declaration", the "variable_declaration", the "function_signature",
      the "abstract_class_declaration", the "module", rank "declare" (the "internal_module"),
      the "type_alias_declaration", the "enum_declaration", the "interface_declaration",
      the "import_alias", the "ambient_declaration"])]

/-- Statements that make names of other modules known. -/
def importRules : List (String × Rule) := [
  ("import", "import"),
  ("import_statement",
    parts [
      "import", optional (oneOf ["type", "typeof"]),
      oneOf [
        parts [the "import_clause", the "_from_clause"], the "import_require_clause",
        field "source" (the "string")],
      optional (the "import_attribute"), the "_semicolon"]),
  ("import_clause",
    oneOf [
      the "namespace_import", the "named_imports",
      parts [
        the "_import_identifier",
        optional (parts [",", oneOf [the "namespace_import", the "named_imports"]])]]),
  ("_from_clause", parts ["from", field "source" (the "string")]),
  ("namespace_import", parts ["*", "as", Lexeme.name]),
  ("named_imports", parts ["\x7b", commas (the "import_specifier"), optional ",", "\x7d"]),
  ("import_specifier",
    parts [
      optional (oneOf ["type", "typeof"]),
      oneOf [
        field "name" (the "_import_identifier"),
        parts [
          field "name" (oneOf [the "_module_export_name", named "identifier" "type"]), "as",
          field "alias" (the "_import_identifier")]]]),
  ("import_attribute", parts ["with", the "object"])]

end PackageAtlas.Syntax.Grammar
