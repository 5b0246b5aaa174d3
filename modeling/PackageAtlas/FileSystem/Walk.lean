import PackageAtlas.FileSystem.Basic
import PackageAtlas.FileSystem.Filter

namespace PackageAtlas.FileSystem

/-!
# Walks

A walk lists the files below a directory that a filter lets through: those of the directory itself
first, then those of its directories, all in the order of their names. Directories behind links are
not entered, and are no files either.

* `walkFrom`: the names that lead to each file;
* `walk`: their paths; `firstFiles`: the first of them;
* `walkFirst`: the first files, or why there can be no walk.
-/

/-- Whether an entry of the directory `dir` is a directory, or a link that leads to one on the path
    by which the directory was reached. -/
def leadsToDirectory (fs : FileSystem) (here : Standpoint) (path : String) (dir : Location)
    (name : String) : Bool :=
  match fs.at? (dir ++ [name]) with
  | some .directory => true
  | some (.link _) => fs.isDirectory here (Path.join path name)
  | _ => false

/-- Whether an entry of a directory is a directory itself. -/
def isPlainDirectory (fs : FileSystem) (dir : Location) (name : String) : Bool :=
  match fs.at? (dir ++ [name]) with
  | some .directory => true
  | _ => false

/-- The files that a filter lets through of a directory that was reached by `path`. -/
def filesIn (fs : FileSystem) (here : Standpoint) (filter : FileFilter) (path : String)
    (dir : Location) : List String :=
  (fs.names dir).filter (fun n =>
    !fs.leadsToDirectory here path dir n && !filter.rejectsFile n)

/-- The directories of a directory that a filter lets enter. -/
def directoriesIn (fs : FileSystem) (filter : FileFilter) (dir : Location) : List String :=
  (fs.names dir).filter (fun n => fs.isPlainDirectory dir n && !filter.rejectsDirectory n)

/-- The names that lead from `dir`, which was reached by `path`, to each file that a filter lets
    through, less than `depth` directories deep. -/
def walkFrom (fs : FileSystem) (here : Standpoint) (filter : FileFilter) :
    Nat → String → Location → List Location
  | 0, _, _ => []
  | depth + 1, path, dir =>
    (fs.filesIn here filter path dir).map (fun n => [n]) ++
      (fs.directoriesIn filter dir).flatMap (fun n =>
        (walkFrom fs here filter depth (Path.join path n) (dir ++ [n])).map (n :: ·))

/-- The length of the longest location. -/
def depth (fs : FileSystem) : Nat := (fs.nodes.map (fun e => e.1.length)).foldl max 0

/-- The paths of the files below a directory that a filter lets through, from that directory on. -/
def walk (fs : FileSystem) (here : Standpoint) (filter : FileFilter) (path : String) :
    List String :=
  match fs.find? here path with
  | .ok (loc, .directory) => (fs.walkFrom here filter (fs.depth + 1) path loc).map Path.ofNames
  | _ => []

/-- The first of some items, all of them if there is no limit; a limit below zero is zero. -/
def firstFiles {α : Type} (limit : Option Int) (files : List α) : List α :=
  match limit with
  | some n => files.take n.toNat
  | none => files

/-- The first files of a walk. Nothing can be walked whose path no file system has, and no file has
    a path from a directory on that was removed. -/
def walkFirst (fs : FileSystem) (here : Standpoint) (filter : FileFilter) (limit : Option Int)
    (path : String) : Except FileError (List String) := do
  if path.toList.contains (Char.ofNat 0) then throw ⟨.nullCharacter, [path]⟩
  let files := firstFiles limit (fs.walk here filter path)
  if !files.isEmpty then
    let _ ← here.absolute path
  return files

end PackageAtlas.FileSystem
