import PackageAtlas.FileSystem.Filter
import PackageAtlas.FileSystem.Basic
import PackageAtlas.Package.Value
import PackageAtlas.Text.Utf8

namespace PackageAtlas.Package

/-!
# Projects

A project is a directory with a manifest in which dependencies are or will be installed.

* `readManifest`: the value of a manifest;
* `projectRoot`: the nearest project above a directory; `resolveRoot`: the project that is meant;
* `isWorkspace`: whether a project has members;
* `dependencyDirectories`: where the dependencies of a project and its members are installed, which
  fails if a name on the way to a member is too long.

All functions take a file system and where one stands.
-/

/-- The name of directories that hold dependencies. -/
def dependencyName : String := "node_modules"

/-- The name of manifests. -/
def manifestName : String := "package.json"

/-- The name of files that make a project a workspace. -/
def workspaceName : String := "pnpm-workspace.yaml"

/-- What shows that dependencies are or will be installed. -/
def rootMarkers : List String := [dependencyName, workspaceName, "yarn.lock"]

/-- The value of a manifest; none if it is missing or malformed. -/
def readManifest (fs : FileSystem) (here : Standpoint) (path : String) : Option Value :=
  match fs.read here path with
  | .ok bytes => (Text.Utf8.decodeBytes? bytes).bind valueOf?
  | .error _ => none

/-- Whether a directory is a project. -/
def isProject (fs : FileSystem) (here : Standpoint) (dir : String) : Bool :=
  fs.exists? here (Path.join dir manifestName) &&
    rootMarkers.any (fun m => fs.exists? here (Path.join dir m))

/-- The nearest project among a path from the root on and what it lies below; the path if there is
    none. -/
def nearestProject (fs : FileSystem) (here : Standpoint) (top : String) : String :=
  ((Path.ancestors top).find? (isProject fs here)).getD top

/-- The nearest project that is a directory or lies above it; the directory if there is none. -/
def projectRoot (fs : FileSystem) (here : Standpoint) (start : String) : Except FileError String :=
  return nearestProject fs here (← here.absolute start)

/-- The project in which one stands. -/
def currentProject (fs : FileSystem) (here : Standpoint) : Except FileError String := do
  projectRoot fs here (← here.path)

/-- The project that is meant: the one that is given, or the one in which one stands. -/
def resolveRoot (fs : FileSystem) (here : Standpoint) (root : String) : Except FileError String :=
  if root.isEmpty then currentProject fs here else here.absolute root

/-- Whether a project has members. -/
def isWorkspace (fs : FileSystem) (here : Standpoint) (root : String) : Bool :=
  fs.exists? here (Path.join root workspaceName) ||
    match readManifest fs here (Path.join root manifestName) with
    | some manifest => ((manifest.get? "workspaces").map Value.holds).getD false
    | none => false

/-! ### Members -/

/-- The directories in which members of a workspace lie. -/
def memberBases (root : String) : List String :=
  [Path.join root "packages", Path.join root "apps", root]

/-- Whether an entry may be a member of a workspace. -/
def isMemberName (name : String) : Bool := !isHidden name && name != dependencyName

/-- What a step gives for some items, one after the other, up to the first that it fails for. -/
def gather {α β ε : Type} (step : α → Except ε (List β)) : List α → Except ε (List β)
  | [] => .ok []
  | a :: as => return (← step a) ++ (← gather step as)

/-- Whether a directory has something named as dependencies are in it. -/
def hasDependencies (fs : FileSystem) (here : Standpoint) (dir : String) :
    Except FileError Bool := do
  if ← fs.leadsTo here Entry.isDirectory dir then
    fs.leadsTo here (fun _ => true) (Path.join dir dependencyName)
  else return false

/-- The dependency directory of an entry of a directory of members, if it is a member that has one.
    Entries that are no members are looked at all the same. -/
def memberDirectory (fs : FileSystem) (here : Standpoint) (base name : String) :
    Except FileError (List String) := do
  let dir := Path.join base name
  let path := Path.join dir dependencyName
  if (← hasDependencies fs here dir) && isMemberName name then
    return if ← fs.leadsTo here Entry.isDirectory path then [path] else []
  else return []

/-- The dependency directories of the members in a directory. -/
def memberDirectories (fs : FileSystem) (here : Standpoint) (base : String) :
    Except FileError (List String) := do
  if ← fs.leadsTo here Entry.isDirectory base then
    gather (memberDirectory fs here base) ((fs.list? here base).getD [])
  else return []

/-- The dependency directories of the members of a project, which has none if it is no workspace. -/
def workspaceDirectories (fs : FileSystem) (here : Standpoint) (top : String) :
    Except FileError (List String) :=
  if isWorkspace fs here top then gather (memberDirectories fs here) (memberBases top) else .ok []

/-- The dependency directories of a project: its own first, then those of its members. The path of
    the project starts at the root. -/
def dependencyDirectories (fs : FileSystem) (here : Standpoint) (top : String) :
    Except FileError (List String) := do
  let members ← workspaceDirectories fs here top
  return (Path.join top dependencyName :: members).eraseDups.filter (fs.isDirectory here)

end PackageAtlas.Package
