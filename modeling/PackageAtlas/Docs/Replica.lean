import PackageAtlas.Digest.Xxh3
import PackageAtlas.FileSystem.Change
import PackageAtlas.FileSystem.Walk
import PackageAtlas.Package.Registry

namespace PackageAtlas.Docs

open FileSystem (Change)
open Text (UnwritableText)

/-!
# Replicas of documentation

The documentation of packages is copied to a directory of its own, each package to a directory
named by a digest of its name and version.

* `packageKey`: that digest;
* `selectDocs`: the files of a package that are copied;
* `Replica`: what has been copied where; `Replica.copyPackage`, `Replica.fill`.
-/

/-- The digest of the name and version of a package. -/
def packageKey (p : Package) : Except UnwritableText String := do
  let text ← ((p.name.append (.ofString "@")).append p.version).toString?
  return Digest.digestText text.toUTF8

/-! ### Selection -/

/-- The first of the paths that differ only in case, without those that are in `seen` in small
    letters. -/
def firstByLower (seen : List String) : List String → List String
  | [] => []
  | p :: ps =>
    let small := Text.lower p
    if seen.contains small then firstByLower seen ps
    else p :: firstByLower (small :: seen) ps

/-- Whether a path lies below a directory. -/
def isNested (path : String) : Bool := path.toList.contains '/'

/-- The documentation files that are copied: those below directories, one for each spelling. -/
def selectDocs (paths : List String) : List String :=
  (firstByLower [] paths).filter isNested

/-! ### Copies -/

/-- Copies one file, with all directories it needs. -/
def copyOne (here : Standpoint) (source target file : String) : Change Unit := do
  let path := Path.join target file
  FileSystem.makeDirectories here (Path.parent path)
  FileSystem.copy here (Path.join source file) path

/-- Copies some files, up to the first that cannot be copied. -/
def copyAll (here : Standpoint) (source target : String) : List String → Change Unit
  | [] => return
  | f :: files => do
    copyOne here source target f
    copyAll here source target files

/-- Why the documentation of a package cannot be kept. -/
inductive KeepingError where
  /-- The name or version cannot be written. -/
  | unwritable (error : UnwritableText)
  | file (error : FileError)
deriving Repr, DecidableEq

/-- A result, or the error that the name of a package means. -/
def orUnwritable {α : Type} : Except UnwritableText α → Except KeepingError α
  | .ok a => .ok a
  | .error e => .error (.unwritable e)

/-- What has been copied to a directory. -/
structure Replica where
  directory : String
  /-- The files by the digest of their package, oldest first. -/
  memo : List (String × List String)
deriving Repr, DecidableEq

/-- How many packages there are, and how many have documentation. -/
structure Summary where
  total : Nat
  cached : Nat
deriving Repr, DecidableEq

namespace Replica

/-- A replica to which nothing has been copied. -/
def new (directory : String) : Replica := ⟨directory, []⟩

/-- The directory for the files of a package. -/
def packageDirectory (r : Replica) (p : Package) : Except UnwritableText String := do
  return Path.join r.directory (← packageKey p)

/-- The files of a package that have been copied. -/
def docs (r : Replica) (p : Package) : Except UnwritableText (List String) := do
  return (r.memo.lookup (← packageKey p)).getD []

/-- Whether a file of a package has been copied. -/
def isCached (r : Replica) (p : Package) (file : String) : Except UnwritableText Bool := do
  return (← r.docs p).contains file

/-- The replica without its memory of what has been copied. -/
def clear (r : Replica) : Replica := { r with memo := [] }

/-- The documentation files of a package that are copied. One that stands in a removed directory has
    none. -/
def docsOf (fs : FileSystem) (here : Standpoint) (p : Package) :
    Except KeepingError (List String) :=
  match fs.walkFirst here FileFilter.docs none p.directory with
  | .ok files => .ok (selectDocs files)
  | .error e => if e.cause = .nullCharacter then .error (.file e) else .ok []

/-- The files of a package after they have been copied; what has been copied before is not copied
    again. Files that cannot be copied are remembered all the same, unless no file system can have
    a file of their path. -/
def copyPackage (r : Replica) (fs : FileSystem) (here : Standpoint) (p : Package) :
    Except KeepingError (List String × Replica × FileSystem) := do
  let key ← orUnwritable (packageKey p)
  match r.memo.lookup key with
  | some files => return (files, r, fs)
  | none =>
    let files ← docsOf fs here p
    let (result, fs') := (copyAll here p.directory (Path.join r.directory key) files).run.run fs
    match result with
    | .error ⟨.nullCharacter, paths⟩ => throw (.file ⟨.nullCharacter, paths⟩)
    | _ => return (files, { r with memo := r.memo ++ [(key, files)] }, fs')

/-- Copies the files of some packages, and counts the packages that have any. -/
def copyPackages (here : Standpoint) :
    Nat → Replica → FileSystem → List Package → Nat × Replica × FileSystem
  | cached, r, fs, [] => (cached, r, fs)
  | cached, r, fs, p :: ps =>
    match r.copyPackage fs here p with
    | .ok (files, r', fs') =>
      copyPackages here (if files.isEmpty then cached else cached + 1) r' fs' ps
    | .error _ => copyPackages here cached r fs ps

/-- Copies the files of all packages of a project. -/
def fill (r : Replica) (here : Standpoint) (root : String) : Change (Summary × Replica) := do
  FileSystem.makeDirectories here r.directory
  match here.absolute root with
  | .error e => throw e
  | .ok top =>
    let fs ← get
    match Package.scan fs here top "" with
    | .error e => throw e
    | .ok packages =>
      let (cached, r, fs) := copyPackages here 0 r fs packages
      set fs
      return (⟨packages.length, cached⟩, r)

end Replica

end PackageAtlas.Docs
