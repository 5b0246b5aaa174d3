import PackageAtlas.FileSystem.Path
import PackageAtlas.Text.Case
import PackageAtlas.Text.Integer
import PackageAtlas.Text.Quoted

namespace PackageAtlas

/-!
# Settings

Settings come from environment variables; a variable that is missing or makes no sense leaves the
default.

* `LogLevel`: what is logged; `Settings`: the settings;
* `Settings.derive`: the settings of an environment; `Settings.check`: what is wrong with them;
* `Settings.ofEnvironment`: the settings of an environment, if they are sound;
* `SettingsError.message`, `Settings.describe`: wordings.
-/

/-- What the system tells. -/
structure Environment where
  /-- The variables that are set, with their values. -/
  bindings : List (String × String)
  /-- Where temporary files lie, as the system tells. It looks for a directory once, by the
      variables of that time, and then tells the same one, whatever becomes of them. -/
  temporary : String

/-- How much is logged. -/
inductive LogLevel where
  | debug
  | info
  | warning
  | error
  | critical
deriving Repr, DecidableEq

/-- The name of a level. -/
def LogLevel.name : LogLevel → String
  | .debug => "DEBUG"
  | .info => "INFO"
  | .warning => "WARNING"
  | .error => "ERROR"
  | .critical => "CRITICAL"

/-- The number of a level. -/
def LogLevel.number : LogLevel → Nat
  | .debug => 10
  | .info => 20
  | .warning => 30
  | .error => 40
  | .critical => 50

/-- The level of a name. -/
def LogLevel.ofName? (name : String) : Option LogLevel :=
  [LogLevel.debug, .info, .warning, .error, .critical].find? (fun l => l.name == name)

/-- What the program is told from outside. -/
structure Settings where
  /-- How many files of a package are indexed. -/
  maxIndexFiles : Int
  /-- How many lines are read where only the first one is given. -/
  defaultReadLines : Int
  /-- How many lines may be asked for. -/
  maxReadLines : Int
  /-- How many hits of a search may be asked for. -/
  maxSearchResults : Int
  /-- How many declarations may be asked for. -/
  maxSymbolResults : Int
  /-- Where documentation is replicated to. -/
  docsDirectory : String
  /-- Whether documentation is replicated at the start. -/
  docsEnabled : Bool
  logLevel : LogLevel
deriving Repr, DecidableEq

/-- What is wrong with settings. -/
inductive SettingsError where
  | notPositive (setting : String)
  | unknownLevel (name : String)
  | defaultAboveMax (lines limit : Int)
deriving Repr, DecidableEq

/-- The wording of what is wrong. -/
def SettingsError.message : SettingsError → String
  | .notPositive setting => s!"{setting} must be positive"
  | .unknownLevel name => s!"Unknown log level: {name}"
  | .defaultAboveMax lines limit =>
    s!"default_read_lines ({lines}) cannot exceed max_read_lines ({limit})"

/-! ### Variables -/

/-- The integer in a variable, or the default. -/
def integerSetting (env : Environment) (key : String) (default : Int) : Int :=
  match env.bindings.lookup key with
  | some text => (Text.integer? text).getD default
  | none => default

/-- The text in a variable, or the default if it is missing or empty. -/
def textSetting (env : Environment) (key default : String) : String :=
  match env.bindings.lookup key with
  | some text => if text.isEmpty then default else text
  | none => default

/-- The truth value of a word. -/
def truthOfWord? (word : String) : Option Bool :=
  if ["1", "true", "yes", "on"].contains word then some true
  else if ["0", "false", "no", "off"].contains word then some false
  else none

/-- The truth value in a variable, or the default. -/
def truthSetting (env : Environment) (key : String) (default : Bool) : Bool :=
  match env.bindings.lookup key with
  | some text => (truthOfWord? (Text.lower (Text.trim text))).getD default
  | none => default

/-! ### Settings -/

/-- Where documentation is replicated to if nothing is said. -/
def defaultDocsDirectory (env : Environment) : String :=
  Path.join env.temporary "mcp-node-modules-docs"

/-- The name of the level that an environment asks for. -/
def levelName (env : Environment) : String :=
  Text.upper (textSetting env "NODE_MODULES_MCP_LOG_LEVEL" "INFO")

/-- The settings that an environment asks for, sound or not; an unknown level is read as the
    default one. -/
def Settings.derive (env : Environment) : Settings where
  maxIndexFiles := integerSetting env "NODE_MODULES_MCP_MAX_INDEX_FILES" 3000
  defaultReadLines := integerSetting env "NODE_MODULES_MCP_DEFAULT_READ_LINES" 500
  maxReadLines := integerSetting env "NODE_MODULES_MCP_MAX_READ_LINES" 2000
  maxSearchResults := integerSetting env "NODE_MODULES_MCP_MAX_SEARCH_RESULTS" 100
  maxSymbolResults := integerSetting env "NODE_MODULES_MCP_MAX_SYMBOL_RESULTS" 500
  docsDirectory := textSetting env "NODE_MODULES_MCP_DOCS_CACHE_DIR" (defaultDocsDirectory env)
  docsEnabled := truthSetting env "NODE_MODULES_MCP_DOCS_CACHE_ENABLED" true
  logLevel := (LogLevel.ofName? (levelName env)).getD .info

/-- The first thing that is wrong with the settings of an environment. -/
def Settings.check (env : Environment) (s : Settings) : Option SettingsError :=
  if s.maxIndexFiles ≤ 0 then some (.notPositive "max_index_files")
  else if s.defaultReadLines ≤ 0 then some (.notPositive "default_read_lines")
  else if s.maxReadLines ≤ 0 then some (.notPositive "max_read_lines")
  else if s.maxSearchResults ≤ 0 then some (.notPositive "max_search_results")
  else if s.maxSymbolResults ≤ 0 then some (.notPositive "max_symbol_results")
  else if (LogLevel.ofName? (levelName env)).isNone then some (.unknownLevel (levelName env))
  else if s.maxReadLines < s.defaultReadLines then
    some (.defaultAboveMax s.defaultReadLines s.maxReadLines)
  else none

/-- The settings of an environment. -/
def Settings.ofEnvironment (env : Environment) : Except SettingsError Settings :=
  let s := Settings.derive env
  match s.check env with
  | some e => .error e
  | none => .ok s

/-- A truth value as a word. -/
def truthWord (b : Bool) : String := if b then "True" else "False"

/-- All settings in words. -/
def Settings.describe (s : Settings) : String :=
  "ServerConfig(" ++ String.intercalate ", "
    [s!"max_index_files={s.maxIndexFiles}", s!"default_read_lines={s.defaultReadLines}",
      s!"max_read_lines={s.maxReadLines}", s!"max_search_results={s.maxSearchResults}",
      s!"max_symbol_results={s.maxSymbolResults}",
      s!"docs_cache_dir={Text.quoted s.docsDirectory}",
      s!"docs_cache_enabled={truthWord s.docsEnabled}",
      s!"log_level={Text.quoted s.logLevel.name}"] ++ ")"

end PackageAtlas
