import PackageAtlas.FileSystem.Basic

namespace PackageAtlas.FileSystem

/-!
# Changes of file systems

* `Change`: something that is done to a file system; what it changes before it fails stays changed;
* `makeDirectory`, `makeDirectories`: new directories, the second with all they lie below;
* `write`: a file with new bytes, also through a link;
* `copy`: the bytes of one file in another;
* `addLink`, `remove`: links, and the end of a node with all below it.
-/

/-- Something that is done to a file system. -/
abbrev Change := ExceptT FileError (StateM FileSystem)

/-- A path without slashes at its end. -/
def withoutSlashes (path : String) : String :=
  let cs := Path.dropSlashes path.toList
  if cs.isEmpty then path else String.ofList cs

/-- Where a path leads, or the error that it leads nowhere. -/
def resolved (follow : Bool) (here : Standpoint) (path : String) (paths : List String) :
    Change Location := do
  match (← get).resolve follow here path with
  | .ok loc => return loc
  | .error cause => throw ⟨cause, paths⟩

/-- Makes a directory, which must not exist. -/
def makeDirectory (here : Standpoint) (path : String) : Change Unit := do
  let loc ← resolved false here (withoutSlashes path) [path]
  let fs ← get
  match fs.at? loc with
  | some _ => throw ⟨.alreadyThere, [path]⟩
  | none => set (fs.put loc .directory)

/-- A path without its last piece, and that piece; slashes at the end are passed over. -/
def splitPath (path : String) : String × String :=
  let (head, tail) := Path.split path
  if tail.isEmpty then Path.split head else (head, tail)

/-- Makes a directory and all it lies below, at most `fuel` of them. -/
def makeDirectoriesUpTo (here : Standpoint) : Nat → String → Change Unit
  | 0, _ => return
  | fuel + 1, path => do
    let (head, tail) := splitPath path
    let lacking := head != "" && tail != "" && !(← get).exists? here head
    if lacking then
      tryCatch (makeDirectoriesUpTo here fuel head)
        (fun e => if e.cause = .alreadyThere then pure () else throw e)
    if lacking && tail == "." then return
    tryCatch (makeDirectory here path)
      (fun e => do if (← get).isDirectory here path then pure () else throw e)

/-- Makes a directory and all it lies below. -/
def makeDirectories (here : Standpoint) (path : String) : Change Unit :=
  makeDirectoriesUpTo here (path.length + 1) path

/-- Puts new bytes in a file, which is made if it does not exist. -/
def write (here : Standpoint) (path : String) (bytes : ByteArray) : Change Unit := do
  let loc ← resolved true here path [path]
  let fs ← get
  match fs.at? loc with
  | some .directory => throw ⟨.isDirectory, [path]⟩
  | _ => set (fs.put loc (.file bytes))

/-- Whether two paths lead to one node. -/
def sameNode (fs : FileSystem) (here : Standpoint) (p q : String) : Bool :=
  match fs.find? here p, fs.find? here q with
  | .ok (a, _), .ok (b, _) => a == b
  | _, _ => false

/-- Puts the bytes of `source` in `target`; a file is not copied onto itself. -/
def copy (here : Standpoint) (source target : String) : Change Unit := do
  let fs ← get
  if fs.sameNode here source target then throw ⟨.alreadyThere, [target]⟩
  match fs.read here source with
  | .ok bytes => write here target bytes
  | .error e => throw e

/-- Makes a link. -/
def addLink (here : Standpoint) (path target : String) : Change Unit := do
  let loc ← resolved false here path [target, path]
  let fs ← get
  match fs.at? loc with
  | some _ => throw ⟨.alreadyThere, [target, path]⟩
  | none => set (fs.put loc (.link target))

/-- Takes away what a path names, and all below it, and tells where it was; a link is not
    followed. -/
def remove (here : Standpoint) (path : String) : Change Location := do
  let loc ← resolved false here path [path]
  let fs ← get
  match fs.at? loc with
  | some _ =>
    set (fs.erase loc)
    return loc
  | none => throw ⟨.missing, [path]⟩

end PackageAtlas.FileSystem
