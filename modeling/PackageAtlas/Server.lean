import PackageAtlas.Tool.Call

namespace PackageAtlas.Server

open Tool (Action Arguments BindingError Response Session)

/-!
# The server

* `Start`, `start`: what happens before the first call of a client;
* `callPublished`: a call of a client;
* `Outcome`, `outcome`: how the program ends;
* `missingDependency`: what is told if a part of the program is not installed.
-/

/-- What is known before the first call of a client. -/
structure Start where
  root : String
  /-- What has been copied, if anything was. -/
  docs : Option Docs.Summary
deriving Repr, DecidableEq

/-- Finds the project in which one stands, and copies its documentation if the settings say so;
    that it cannot be copied is no fault. -/
def start : Action Start := do
  let s ← get
  let root ← Tool.orFault .file (Package.currentProject s.fs s.here)
  let settings ← Tool.currentSettings
  if settings.docsEnabled then
    try
      return ⟨root, some (← Tool.fillReplica root)⟩
    catch
      | .file ⟨.nullCharacter, paths⟩ => throw (.file ⟨.nullCharacter, paths⟩)
      | .file _ => return ⟨root, none⟩
      | fault => throw fault
  else return ⟨root, none⟩

/-- A call of a client, if the tool is open to clients and the arguments fit. -/
def callPublished (t : Tool.Name) (args : Arguments) (s : Session) :
    Option (Except BindingError (Response × Session)) :=
  t.published.map (fun signature => do
    signature.check (args.map Prod.fst)
    return t.invoke args s)

/-- How the program ends. -/
structure Outcome where
  exitCode : Nat
  /-- How much was logged. -/
  level : LogLevel
deriving Repr, DecidableEq

/-- How the program ends in an environment, where serving clients succeeded or failed. -/
def outcome (env : Environment) (served : Bool) : Except SettingsError Outcome := do
  let settings ← Settings.ofEnvironment env
  return ⟨if served then 0 else 1, settings.logLevel⟩

/-- What is told if a part of the program is not installed; the text stands in for a name that is
    not known. -/
def missingDependency (name : Option String) (text : String) : String :=
  let known := name.getD ""
  let shown := if known.isEmpty then text else known
  s!"Missing required dependency: {shown}\nInstall project requirements first (use `pip install -e .` or activate your virtual environment).\n"

end PackageAtlas.Server
