import PackageAtlas.Tool.Run
import PackageAtlas.Tool.Signature

namespace PackageAtlas.Tool

/-!
# Calls by name

A tool is called by its name, with arguments by theirs.

* `Name`: the names of the tools, with their parameters as a `Signature`;
* `Name.request`: the request that arguments make;
* `Response`, `call`: what a caller gets, and the session after the call, if it can be made;
* `Name.published`: the parameters that clients can give.
-/

/-- The tools. -/
inductive Name where
  | listModules
  | search
  | readFile
  | listSymbols
  | getSymbol
  | getIndexStats
deriving Repr, DecidableEq

/-- The name of a tool. -/
def Name.text : Name → String
  | .listModules => "list_modules"
  | .search => "search"
  | .readFile => "read_file"
  | .listSymbols => "list_symbols"
  | .getSymbol => "get_symbol"
  | .getIndexStats => "get_index_stats"

/-- Every tool. -/
def Name.all : List Name :=
  [.listModules, .search, .readFile, .listSymbols, .getSymbol, .getIndexStats]

/-- The tool of a name. -/
def Name.ofText? (text : String) : Option Name := Name.all.find? (fun t => t.text == text)

/-- What an index cache is given as. -/
def indexParameter : String := "cache"

/-- What a replica of documentation is given as. -/
def docsParameter : String := "docs_cache"

/-- The parameters of a tool that clients know: those that must be given, and the others. -/
def Name.parameters : Name → List String × List String
  | .listModules => ([], ["root", "filter"])
  | .search => (["module", "pattern"], ["root", "flags", "context", "limit"])
  | .readFile => (["module", "file"], ["root", "start_line", "count"])
  | .listSymbols => (["module"], ["root", "kind", "name", "limit"])
  | .getSymbol => (["module", "file", "name"], ["root", "padding"])
  | .getIndexStats => ([], [])

/-- The parameters of a tool that only the program itself gives. -/
def Name.innerParameters : Name → List String
  | .listModules => []
  | .search => [docsParameter]
  | .readFile => [docsParameter]
  | .listSymbols => [indexParameter]
  | .getSymbol => [indexParameter]
  | .getIndexStats => [indexParameter]

/-- The signature of a tool. -/
def Name.signature (t : Name) : Signature :=
  ⟨"tool_" ++ t.text, t.parameters.1, t.parameters.2 ++ t.innerParameters⟩

/-- The signature of a tool for clients; the counts are not for them. -/
def Name.published (t : Name) : Option Signature :=
  match t with
  | .getIndexStats => none
  | _ => some ⟨t.text, t.parameters.1, t.parameters.2⟩

/-- The request that arguments make; a number that is not given has its default. -/
def Name.request (t : Name) (args : Arguments) : Request :=
  let given := fun name => args.get name .nothing
  let package := given "module"
  let root := given "root"
  match t with
  | .listModules => .packages root (given "filter")
  | .search => .search package (given "pattern") root (given "flags")
      (args.get "context" (.number 5)) (args.get "limit" (.number 20)) (given docsParameter)
  | .readFile => .file package (given "file") root (given "start_line") (given "count")
      (given docsParameter)
  | .listSymbols => .declarations package root (given "kind") (given "name")
      (args.get "limit" (.number 100)) (given indexParameter)
  | .getSymbol => .declaration package (given "file") (given "name") root
      (args.get "padding" (.number 10)) (given indexParameter)
  | .getIndexStats => .stats (given indexParameter)

/-! ### Calls -/

/-- What a caller gets. -/
inductive Response where
  | done (answer : Answer)
  | unknownTool (name : String)
  /-- The call of a function failed. -/
  | failed (function : String) (failure : Failure)
deriving Repr, DecidableEq

/-- What a caller is told if there is no answer. -/
def Response.error? : Response → Option String
  | .done (.absent what) => some what.message
  | .done _ => none
  | .unknownTool name => some s!"Unknown tool: {name}"
  | .failed _ failure => some (failure.text "")

/-- Calls a tool in a session. -/
def Name.invoke (t : Name) (args : Arguments) (s : Session) : Response × Session :=
  match t.signature.check (args.map Prod.fst) with
  | .error e => (.failed t.signature.function (.other e.message), s)
  | .ok () =>
    match ((t.request args).run).run.run s with
    | (.ok answer, s') => (.done answer, s')
    | (.error fault, s') => (.failed t.signature.function fault.failure, s')

/-- What the name of a tool is given as. -/
def toolParameter : String := "tool_name"

/-- Calls the tool of a name in a session; its name is not one of its arguments. -/
def call (name : String) (args : Arguments) (s : Session) :
    Except BindingError (Response × Session) :=
  if (args.lookup toolParameter).isSome then .error (.repeated "execute_tool" toolParameter)
  else match Name.ofText? name with
    | some t => .ok (t.invoke args s)
    | none => .ok (.unknownTool name, s)

end PackageAtlas.Tool
