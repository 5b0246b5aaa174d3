import PackageAtlas.Declaration.Cache
import PackageAtlas.FileSystem.Canonical
import PackageAtlas.Package.Inside
import PackageAtlas.Search.Scan
import PackageAtlas.Settings
import PackageAtlas.Source.Window
import PackageAtlas.Tool.Argument
import PackageAtlas.Tool.Range

namespace PackageAtlas.Tool

open Declaration (IndexCache Indexer Record)
open Docs (KeepingError Replica)
open Text (UnwritableText)

/-!
# Sessions

A session is what the tools see and remember: the file system, the environment, and what has been
read from them already.

* `Session`: the state; `Fault`: why something cannot be done;
* `Action`: something that can be done in a session; what it changes before it fails stays changed;
* `currentSettings`, `currentReplica`, `currentIndexer`: made when they are asked for first;
* `indexBy`, `indexOf`: the declarations of a package; `isIndexed`: whether they are kept;
* `readRange`: lines of a file.
-/

/-- What the tools see and remember. -/
structure Session where
  fs : FileSystem
  /-- Where one stands. -/
  here : Standpoint
  env : Environment
  /-- The settings, once they have been asked for. -/
  settings : Option Settings
  /-- The indexes of packages. -/
  index : IndexCache
  /-- The documentation, once it has been asked for. -/
  replica : Option Replica
  /-- How sources are read. -/
  parse : Syntax.Parser

/-- A session in which nothing has been asked for. -/
def Session.new (fs : FileSystem) (here : Standpoint) (env : Environment) : Session :=
  ⟨fs, here, env, none, IndexCache.new none, none, Syntax.treeOf⟩

/-- Why something cannot be done. -/
inductive Fault where
  | file (error : FileError)
  | settings (error : SettingsError)
  | path (error : Package.PathError)
  | range (error : RangeError)
  | pattern (pattern : String) (error : Pattern.Error)
  /-- Something that no kind of declaration has as its name, as it is written. -/
  | kind (shown : String)
  | unwritable (error : UnwritableText)
  /-- An argument of the wrong sort. -/
  | misfit (error : Misfit)
  /-- A match that makes no sense. -/
  | span (error : Pattern.SpanError)
deriving Repr, DecidableEq

/-- The wording of a fault. -/
def Fault.message : Fault → String
  | .file e => e.message
  | .settings e => e.message
  | .path e => e.message
  | .range e => e.message
  | .pattern text e => e.message text
  | .kind shown => s!"{shown} is not a valid SymbolKind"
  | .unwritable e => e.message
  | .misfit e => e.message
  | .span e => e.message

/-- Something that can be done in a session. -/
abbrev Action := ExceptT Fault (StateM Session)

/-- A result, or the fault that an error means. -/
def orFault {ε α : Type} (fault : ε → Fault) : Except ε α → Action α
  | .ok a => pure a
  | .error e => throw (fault e)

/-- The fault that an error of keeping documentation means. -/
def keepingFault : KeepingError → Fault
  | .unwritable e => .unwritable e
  | .file e => .file e

/-- The fault that an error of a search means. -/
def searchFault : Search.SearchError → Fault
  | .keeping e => keepingFault e
  | .span e => .span e

/-! ### Settings, documentation and indexes -/

/-- The settings: those of the environment when they were asked for first. -/
def currentSettings : Action Settings := do
  let s ← get
  match s.settings with
  | some settings => return settings
  | none =>
    let settings ← orFault .settings (Settings.ofEnvironment s.env)
    set { s with settings := some settings }
    return settings

/-- The documentation, in the directory that the settings gave when it was asked for first. -/
def currentReplica : Action Replica := do
  match (← get).replica with
  | some replica => return replica
  | none =>
    let settings ← currentSettings
    let replica := Replica.new settings.docsDirectory
    modify (fun s => { s with replica := some replica })
    return replica

/-- The indexer of as many files as are given, or as the settings say. -/
def makeIndexer (maxFiles : Option Int) (filter : FileFilter) : Action Indexer := do
  match maxFiles with
  | some n => return ⟨n, filter⟩
  | none => return ⟨(← currentSettings).maxIndexFiles, filter⟩

/-- The indexer of the indexes of packages. -/
def currentIndexer : Action Indexer := do
  match (← get).index.indexer with
  | some indexer => return indexer
  | none =>
    let indexer ← makeIndexer none FileFilter.declarations
    modify (fun s => { s with index := { s.index with indexer := some indexer } })
    return indexer

/-- The key under which the index of a package is kept. -/
def indexKey (s : Session) (p : Package) : Except FileError String :=
  s.fs.canonical s.here p.directory

/-- What makes the index of a package: the indexer that is given, or else that of the indexes. -/
def builder (given : Option Indexer) : Action Indexer := do
  match given with
  | some indexer => return indexer
  | none => currentIndexer

/-- The declarations of a package; they are looked for only once. -/
def indexBy (given : Option Indexer) (p : Package) : Action (List Record) := do
  let s ← get
  let key ← orFault .file (indexKey s p)
  match s.index.lookup? key with
  | some index =>
    set { s with index := s.index.hit }
    return index
  | none =>
    set { s with index := s.index.miss }
    let indexer ← builder given
    let index ← orFault .file (indexer.index s.fs s.here p.directory s.parse)
    modify (fun s => { s with index := s.index.store key index })
    return index

/-- The declarations of a package, by the indexer of the indexes. -/
def indexOf (p : Package) : Action (List Record) := indexBy none p

/-- Whether the declarations of a package are kept. -/
def isIndexed (p : Package) : Action Bool := do
  let s ← get
  let key ← orFault .file (indexKey s p)
  return (s.index.lookup? key).isSome

/-- Drops the declarations of all packages. -/
def clearIndexes : Action Unit := modify (fun s => { s with index := s.index.clear })

/-! ### Packages -/

/-- The normal path from the root on. -/
def absolutePath (path : String) : Action String := do
  orFault .file ((← get).here.absolute path)

/-- The project that is meant. -/
def rootOf (root : Argument) : Action String := do
  let s ← get
  match root with
  | .text path => orFault .file (Package.resolveRoot s.fs s.here path)
  | _ =>
    if root.holds then throw (.misfit (.notPath root.sort))
    else orFault .file (Package.currentProject s.fs s.here)

/-- The package that a name means in a project; what is no text is in no name. -/
def findPackage (name : Argument) (root : Argument) : Action (Option Package) := do
  let top ← rootOf root
  let s ← get
  match name with
  | .text name => orFault .file (Package.find? s.fs s.here name top)
  | _ =>
    let all ← orFault .file (Package.scan s.fs s.here top "")
    if all.isEmpty then return none
    else throw (.misfit (.notInText name.sort))

/-- The package that a name means, with its declarations. The indexes are those of the session,
    unless something else is given for them. -/
def findIndexed (name root indexes : Argument) : Action (Option (Package × List Record)) := do
  match ← findPackage name root with
  | some p =>
    if indexes.holds then throw (.misfit (.lacks indexes.sort "get_or_build"))
    return some (p, ← indexOf p)
  | none => return none

/-- The path of a file of a package. -/
def pathInside (dir file : String) : Action String := orFault .path (Package.insidePath dir file)

/-- Whether a path leads to a file. -/
def isFile (path : String) : Action Bool := do
  let s ← get
  return s.fs.isFile s.here path

/-! ### Reading -/

/-- The text of a file. -/
def readText (path : String) : Action String := do
  let s ← get
  return Text.Utf8.decodeBytes (← orFault .file (s.fs.read s.here path))

/-- The text of a file, or some of its lines: from the first one on if only their number is given,
    and as many as the settings say if only the first is. -/
def readRange (path : String) (start count : Option Int) : Action String := do
  let text ← readText path
  match start, count with
  | none, none => return text
  | _, some count => return Source.excerpt text ⟨start.getD 1, count⟩
  | some start, none => return Source.excerpt text ⟨start, (← currentSettings).defaultReadLines⟩

/-- The lines of a declaration, with lines before and behind it. -/
def readAround (path : String) (first last padding : Int) : Action String :=
  let w := Source.Window.around first last padding
  readRange path (some w.start) (some w.count)

/-- Does something to the file system. -/
def changeFiles {α : Type} (change : FileSystem.Change α) : Action α := do
  let s ← get
  let (result, fs) := change.run.run s.fs
  set { s with fs := fs }
  orFault .file result

/-- Copies the documentation of the packages of a project. -/
def fillReplica (root : String) : Action Docs.Summary := do
  let replica ← currentReplica
  let (summary, replica) ← changeFiles (replica.fill (← get).here root)
  modify (fun s => { s with replica := some replica })
  return summary

end PackageAtlas.Tool
