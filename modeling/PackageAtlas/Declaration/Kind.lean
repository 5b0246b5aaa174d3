namespace PackageAtlas.Declaration

/-!
# Kinds of declarations

* `Kind`: the closed set of kinds, with their names `Kind.name` and `Kind.ofName?`;
* `Shape`: what classification looks at;
* `classify`: the kind of a node of a given shape, if it declares anything.
-/

/-- What a declaration declares. -/
inductive Kind where
  | function
  | «class»
  | interface
  | type
  | enum
  | «namespace»
  | variable
deriving Repr, DecidableEq, Inhabited

/-- The name of a kind. -/
def Kind.name : Kind → String
  | .function => "function"
  | .class => "class"
  | .interface => "interface"
  | .type => "type"
  | .enum => "enum"
  | .namespace => "namespace"
  | .variable => "variable"

/-- Every kind. -/
def Kind.all : List Kind :=
  [.function, .class, .interface, .type, .enum, .namespace, .variable]

/-- The kind of a name. -/
def Kind.ofName? (name : String) : Option Kind := Kind.all.find? (fun k => k.name == name)

/-- The facts about a node that decide whether it is a declaration. -/
structure Shape where
  kind : String
  /-- Kind of the direct parent; none for the root. -/
  parent : Option String
  /-- Whether the node lies inside a function, a method or a static block. -/
  isLocal : Bool
  /-- Whether the node is a block that adds to the global scope. -/
  isGlobal : Bool
deriving Repr, DecidableEq

/-- Nodes that always declare something. -/
def declarationKind? : String → Option Kind
  | "function_declaration" => some .function
  | "generator_function_declaration" => some .function
  | "function_signature" => some .function
  | "class_declaration" => some .class
  | "abstract_class_declaration" => some .class
  | "interface_declaration" => some .interface
  | "type_alias_declaration" => some .type
  | "enum_declaration" => some .enum
  | "module" => some .namespace
  | "internal_module" => some .namespace
  | _ => none

/-- Expressions that declare something when they are exported as they stand. -/
def exportedKind? : String → Option Kind
  | "function_expression" => some .function
  | "function" => some .function
  | "generator_function" => some .function
  | "class" => some .class
  | _ => none

/-- Statements that declare variables. -/
def isVariableStatement (kind : String) : Bool :=
  kind == "lexical_declaration" || kind == "variable_declaration"

/-- Statements with a header that is no declaration. -/
def isLoop (kind : String) : Bool := kind == "for_statement" || kind == "for_in_statement"

/-- Nodes whose inside is local. -/
def opensLocalScope (kind : String) : Bool :=
  kind == "function_declaration" || kind == "generator_function_declaration" ||
    kind == "function_expression" || kind == "function" || kind == "generator_function" ||
    kind == "arrow_function" || kind == "method_definition" || kind == "class_static_block"

/-- Nodes that only wrap the declaration they carry. -/
def isWrapper (kind : String) : Bool :=
  kind == "export_statement" || kind == "ambient_declaration"

/-- The kind of declaration that a node of this shape is. -/
def classify (s : Shape) : Option Kind :=
  match declarationKind? s.kind with
  | some k => some k
  | none =>
    if isVariableStatement s.kind then
      if s.isLocal || (s.parent.any isLoop) then none else some .variable
    else if s.kind == "ambient_declaration" && s.isGlobal then some .namespace
    else if s.parent == some "export_statement" then exportedKind? s.kind
    else none

theorem Kind.ofName?_name (k : Kind) : Kind.ofName? k.name = some k := by
  cases k <;> decide

end PackageAtlas.Declaration
