namespace PackageAtlas.Tool

/-!
# Signatures

* `Signature`: what a function takes, by name;
* `BindingError`: arguments that do not fit a signature, with the wording; `Signature.check`.
-/

/-- The names of parameters. -/
structure Signature where
  /-- The name of what is called. -/
  function : String
  required : List String
  optional : List String
deriving Repr, DecidableEq

/-- Arguments that do not fit a signature. -/
inductive BindingError where
  | unexpected (function parameter : String)
  | missing (function : String) (parameters : List String)
  /-- The function is given the parameter already. -/
  | repeated (function parameter : String)
deriving Repr, DecidableEq

/-- Names in a row, as in a sentence. -/
def inSentence : List String → String
  | [] => ""
  | [a] => a
  | [a, b] => s!"{a} and {b}"
  | names =>
    String.intercalate ", " names.dropLast ++ ", and " ++ names.getLastD ""

/-- The wording for arguments that do not fit. -/
def BindingError.message : BindingError → String
  | .unexpected function parameter =>
    s!"{function}() got an unexpected keyword argument '{parameter}'"
  | .missing function parameters =>
    let noun := if parameters.length = 1 then "argument" else "arguments"
    let names := inSentence (parameters.map (fun p => s!"'{p}'"))
    s!"{function}() missing {parameters.length} required positional {noun}: {names}"
  | .repeated function parameter =>
    s!"{function}() got multiple values for argument '{parameter}'"

/-- Whether there is a parameter of a name. -/
def Signature.has (s : Signature) (name : String) : Bool :=
  s.required.contains name || s.optional.contains name

/-- Refuses names that no parameter has, and then names that are missing. -/
def Signature.check (s : Signature) (names : List String) : Except BindingError Unit :=
  match names.find? (fun n => !s.has n) with
  | some n => .error (.unexpected s.function n)
  | none =>
    match s.required.filter (fun n => !names.contains n) with
    | [] => .ok ()
    | missing => .error (.missing s.function missing)

end PackageAtlas.Tool
