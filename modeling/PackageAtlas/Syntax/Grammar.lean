import PackageAtlas.Syntax.Grammar.Declarations
import PackageAtlas.Syntax.Grammar.Elements
import PackageAtlas.Syntax.Grammar.Expressions
import PackageAtlas.Syntax.Grammar.Functions
import PackageAtlas.Syntax.Grammar.Literals
import PackageAtlas.Syntax.Grammar.Modules
import PackageAtlas.Syntax.Grammar.Operators
import PackageAtlas.Syntax.Grammar.Statements
import PackageAtlas.Syntax.Grammar.Types

namespace PackageAtlas.Syntax.Grammar

/-!
# The grammar of TypeScript

* `allRules`: the rules of all constructs, in sources that may hold elements and in others;
* `rankOrders`: which ranks bind more tightly than others;
* `script`: the grammar.

The order of the rules is the order in which tokens are tried when one that is missing has to be
supplied.
-/

/-- The rules of all constructs. -/
def allRules (elements : Bool) : List (String × Rule) :=
  programRules ++ exportRules ++ importRules ++ statementRules ++ branchRules ++ clauseRules ++
    groupRules ++ [("expression", valueRule elements)] ++ primaryRules ++
    (if elements then elementRules ++ attributeRules else []) ++ functionRules ++ callRules ++
    assignmentRules ++ operatorRules ++ literalRules ++ argumentRules ++ memberRules ++ endRules ++
    typedMemberRules ++ typedValueRules ++ declarationRules ++ parameterRules ++ typeRules ++
    typeQueryRules ++ literalTypeRules ++ objectTypeRules

/-- Orders of ranks. The first is that of the operators; most of the others settle whether a word
    or a bracket belongs to a value or to a type. -/
def rankOrders : List (List RankEntry) :=
  [
    [.named "member", .named "template_call", .named "call", .construct "update_expression",
      .named "unary_void", .named "binary_exp", .named "binary_times", .named "binary_plus",
      .named "binary_shift", .named "binary_compare", .named "binary_relation",
      .named "binary_equality", .named "bitwise_and", .named "bitwise_xor", .named "bitwise_or",
      .named "logical_and", .named "logical_or", .named "ternary",
      .construct "sequence_expression", .construct "arrow_function"],
    [.named "assign", .construct "primary_expression"],
    [.named "member", .named "template_call", .named "new", .named "call",
      .construct "expression"],
    [.named "declare", .named "literal"],
    [.construct "primary_expression", .construct "statement_block", .named "object"],
    [.construct "meta_property", .construct "import"],
    [.construct "import_statement", .construct "import"],
    [.construct "export_statement", .construct "primary_expression"],
    [.construct "lexical_declaration", .construct "primary_expression"],
    [.named "call", .named "instantiation", .named "unary", .named "binary",
      .construct "await_expression", .construct "arrow_function"],
    [.named "extends", .named "instantiation"],
    [.construct "intersection_type", .construct "union_type", .construct "conditional_type",
      .construct "function_type", .named "binary", .construct "type_predicate",
      .construct "readonly_type"],
    [.construct "mapped_type_clause", .construct "primary_expression"],
    [.construct "accessibility_modifier", .construct "primary_expression"],
    [.named "unary_void", .construct "expression"],
    [.construct "extends_clause", .construct "primary_expression"],
    [.named "unary", .named "assign"],
    [.named "declare", .construct "expression"],
    [.construct "predefined_type", .construct "unary_expression"],
    [.construct "type", .construct "flow_maybe_type"],
    [.construct "tuple_type", .construct "array_type", .construct "pattern", .construct "type"],
    [.construct "readonly_type", .construct "pattern"],
    [.construct "readonly_type", .construct "primary_expression"],
    [.construct "type_query", .construct "subscript_expression", .construct "expression"],
    [.construct "type_query", .construct "_type_query_subscript_expression"],
    [.construct "nested_type_identifier", .construct "generic_type", .construct "primary_type",
      .construct "lookup_type", .construct "index_type_query", .construct "type"],
    [.construct "as_expression", .construct "satisfies_expression", .construct "primary_type"],
    [.construct "_type_query_member_expression", .construct "member_expression"],
    [.construct "member_expression",
      .construct "_type_query_member_expression_in_type_annotation"],
    [.construct "_type_query_member_expression", .construct "primary_expression"],
    [.construct "_type_query_subscript_expression", .construct "subscript_expression"],
    [.construct "_type_query_subscript_expression", .construct "primary_expression"],
    [.construct "_type_query_call_expression", .construct "primary_expression"],
    [.construct "_type_query_instantiation_expression", .construct "primary_expression"],
    [.construct "type_query", .construct "primary_expression"],
    [.construct "override_modifier", .construct "primary_expression"],
    [.construct "decorator_call_expression", .construct "decorator"],
    [.construct "literal_type", .construct "pattern"],
    [.construct "predefined_type", .construct "pattern"],
    [.construct "call_expression", .construct "_type_query_call_expression"],
    [.construct "call_expression", .construct "_type_query_call_expression_in_type_annotation"],
    [.construct "new_expression", .construct "primary_expression"],
    [.construct "meta_property", .construct "primary_expression"],
    [.construct "construct_signature", .construct "_property_name"]]

/-- The grammar of a source; `elements` tells whether elements are values. -/
def script (elements : Bool) : Grammar where
  rules := allRules elements
  inlined :=
    ["_expressions", "_semicolon", "_identifier", "_reserved_identifier", "_lhs_expression",
      "_type_identifier", "_jsx_attribute", "_jsx_element_name", "_jsx_child", "_jsx_element",
      "_jsx_attribute_name", "_jsx_attribute_value", "_jsx_identifier",
      "_jsx_start_opening_element"]
  groups :=
    ["statement", "declaration", "expression", "primary_expression", "pattern", "type",
      "primary_type"]
  wordNodes := ["this", "super", "true", "false", "null", "undefined"]
  orders := rankOrders
  extras := [.lexeme .comment, .lexeme .pageComment]

end PackageAtlas.Syntax.Grammar
