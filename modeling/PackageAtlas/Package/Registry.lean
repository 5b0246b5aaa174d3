import PackageAtlas.Package.Project

namespace PackageAtlas

open Text (WideText)

/-!
# Installed packages

The packages that are installed in a project, as they lie on disk at the moment.

* `Package`: a package with its name, version and directory;
* `Package.candidates`: everything that may be a package, in order;
* `Package.scan`: the packages, one for each name; `Package.find?`: the package that a name means.

The path of a project starts at the root.
-/

/-- An installed package. -/
structure Package where
  name : WideText
  version : WideText
  /-- Path of its directory. -/
  directory : String
deriving Repr, DecidableEq

namespace Package

/-- The version of a package that gives none. -/
def unknownVersion : WideText := WideText.ofString "unknown"

/-- The package in a directory, if it has a manifest; the name stands in for one that the manifest
    does not give. -/
def inDirectory? (fs : FileSystem) (here : Standpoint) (dir fallback : String) : Option Package :=
  let path := Path.join dir manifestName
  if fs.exists? here path then
    let manifest := (readManifest fs here path).getD .null
    some
      { name := ((manifest.get? "name").bind Value.text?).getD (WideText.ofString fallback)
        version := ((manifest.get? "version").bind Value.text?).getD unknownVersion
        directory := Path.normalize dir }
  else none

/-- Whether an entry holds packages that share a scope. -/
def isScope (name : String) : Bool := name.toList.head? == some '@'

/-- The packages of an entry of a dependency directory. -/
def inEntry (fs : FileSystem) (here : Standpoint) (dir name : String) : List Package :=
  let path := Path.join dir name
  if isHidden name then []
  else if isScope name then
    if fs.isDirectory here path then
      ((fs.list? here path).getD []).filterMap (fun sub =>
        inDirectory? fs here (Path.join path sub) (name ++ "/" ++ sub))
    else []
  else (inDirectory? fs here path name).toList

/-- The packages of a dependency directory. -/
def inDependencies (fs : FileSystem) (here : Standpoint) (dir : String) : List Package :=
  ((fs.list? here dir).getD []).flatMap (inEntry fs here dir)

/-- Everything that may be a package of a project, in order. -/
def candidates (fs : FileSystem) (here : Standpoint) (root : String) :
    Except FileError (List Package) := do
  return (← dependencyDirectories fs here root).flatMap (inDependencies fs here)

/-- The first package of each name that is not in `seen`. -/
def firstByName (seen : List WideText) : List Package → List Package
  | [] => []
  | p :: ps =>
    if seen.contains p.name then firstByName seen ps
    else p :: firstByName (p.name :: seen) ps

/-- The packages of a project, one for each name, whose names hold a text. -/
def scan (fs : FileSystem) (here : Standpoint) (root filter : String) :
    Except FileError (List Package) := do
  return (firstByName [] (← candidates fs here root)).filter (fun p => p.name.contains filter)

/-- The package among others that a name means: the one of that name, or else the first whose name
    holds it. -/
def meant? (name : String) (all : List Package) : Option Package :=
  match all.find? (fun p => p.name == WideText.ofString name) with
  | some p => some p
  | none => all.find? (fun p => p.name.contains name)

/-- The package of a project that a name means. -/
def find? (fs : FileSystem) (here : Standpoint) (name root : String) :
    Except FileError (Option Package) := do
  return meant? name (← scan fs here root "")

end Package

end PackageAtlas
