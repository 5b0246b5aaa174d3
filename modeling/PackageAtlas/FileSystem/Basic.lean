import PackageAtlas.FileSystem.Path
import PackageAtlas.Text.Quoted

namespace PackageAtlas

/-!
# File systems

A file system is a table from locations to nodes.

* `Location`: the names that lead from the root to a node;
* `Standpoint`: where one stands, which may have been removed since;
* `Entry`: a directory, a file or a link; `FileSystem.at?`: the node of a location;
* `FileSystem.names`: the entries of a directory, in order;
* `FileSystem.resolveFrom`, `FileSystem.resolve`: where a path leads when links are followed;
* `FileSystem.find?`, `FileSystem.read`: what is there;
* `FileError`: why nothing is found, with its wording.
-/

/-- The names that lead from the root to a node. -/
abbrev Location := List String

/-- What a file system holds at a location. -/
inductive Entry where
  | directory
  | file (bytes : ByteArray)
  /-- A link to a path, which is taken from the directory of the link on. -/
  | link (target : String)
deriving Inhabited

/-- Whether an entry is a link. -/
def Entry.isLink : Entry → Bool
  | .link _ => true
  | _ => false

/-- Whether an entry is a directory. -/
def Entry.isDirectory : Entry → Bool
  | .directory => true
  | _ => false

/-- A file system; the root is always a directory. -/
structure FileSystem where
  nodes : List (Location × Entry)

namespace FileSystem

/-- A file system with nothing but its root. -/
def empty : FileSystem := ⟨[]⟩

/-- The node of a location. -/
def at? (fs : FileSystem) (loc : Location) : Option Entry :=
  if loc = [] then some .directory else fs.nodes.lookup loc

/-- The file system with an entry put at a location. -/
def put (fs : FileSystem) (loc : Location) (n : Entry) : FileSystem :=
  ⟨(loc, n) :: fs.nodes.filter (fun e => e.1 != loc)⟩

/-- The file system without a location and all below it. -/
def erase (fs : FileSystem) (loc : Location) : FileSystem :=
  ⟨fs.nodes.filter (fun e => !loc.isPrefixOf e.1)⟩

/-- The name of a location in a directory, if it is one of its entries. -/
def entryName? (dir : Location) (loc : Location) : Option String :=
  match loc.getLast? with
  | some name => if loc.dropLast = dir then some name else none
  | none => none

/-- Names in order, with one more in its place. -/
def insertName (name : String) : List String → List String
  | [] => [name]
  | n :: ns => if name ≤ n then name :: n :: ns else n :: insertName name ns

/-- Names in the order of their code points. -/
def sortNames (ns : List String) : List String := ns.foldr insertName []

/-- The names of the entries of a directory, in the order of their code points. -/
def names (fs : FileSystem) (dir : Location) : List String :=
  sortNames (fs.nodes.filterMap (fun e => entryName? dir e.1))

/-- The number of links. -/
def linkCount (fs : FileSystem) : Nat := (fs.nodes.filter (fun e => e.2.isLink)).length

end FileSystem

/-! ### Errors -/

/-- Why a path cannot be used. -/
inductive FileCause where
  | missing
  | alreadyThere
  | notDirectory
  | isDirectory
  | tooManyLinks
  | nameTooLong
  /-- The path holds a character that no path can hold. -/
  | nullCharacter
deriving Repr, DecidableEq

/-- An attempt that failed, with the paths that it was made with: none if they are not known, two
    if something was to be put in two places. -/
structure FileError where
  cause : FileCause
  paths : List String
deriving Repr, DecidableEq

/-- The number and the wording of a cause. -/
def FileCause.text : FileCause → Nat × String
  | .missing => (2, "No such file or directory")
  | .alreadyThere => (17, "File exists")
  | .notDirectory => (20, "Not a directory")
  | .isDirectory => (21, "Is a directory")
  | .tooManyLinks => (40, "Too many levels of symbolic links")
  | .nameTooLong => (36, "File name too long")
  | .nullCharacter => (22, "Invalid argument")

/-- The wording of an error. -/
def FileError.message (e : FileError) : String :=
  match e.cause with
  | .nullCharacter => "embedded null byte"
  | cause =>
    let (number, text) := cause.text
    let about := String.intercalate " -> " (e.paths.map Text.quoted)
    if e.paths.isEmpty then s!"[Errno {number}] {text}" else s!"[Errno {number}] {text}: {about}"

/-! ### Standpoints -/

/-- Where one stands. The last `lost` names of the location lead nowhere any more, even if there is
    something new of the same names. -/
structure Standpoint where
  location : Location
  lost : Nat := 0
deriving Repr, DecidableEq

namespace Standpoint

/-- The path of where one stands, which has none if it was removed. -/
def path (here : Standpoint) : Except FileError String :=
  if here.lost = 0 then .ok ("/" ++ Path.ofNames here.location) else .error ⟨.missing, []⟩

/-- The normal path from the root on for one who stands here. -/
def absolute (here : Standpoint) (text : String) : Except FileError String :=
  if Path.isAbsolute text then .ok (Path.normalize text)
  else do return Path.absolute (← here.path) text

/-- Where one stands after a location was removed with all below it. -/
def without (here : Standpoint) (loc : Location) : Standpoint :=
  let kept := here.location.take (here.location.length - here.lost)
  if loc.isPrefixOf kept then { here with lost := here.location.length - loc.length + 1 } else here

end Standpoint

/-! ### Following paths -/

namespace FileSystem

/-- How many links are followed on the way to one node. -/
def linkLimit : Nat := 40

/-- How many bytes a name can have. -/
def nameLimit : Nat := 255

/-- The directory that the target of a link in `dir` is taken from. -/
def targetBase (dir : Location) (target : String) : Location :=
  if Path.isAbsolute target then [] else dir

/-- Where the pieces of a path lead from `dir` on, where `jump` tells it for the pieces behind a
    link. A link in the last place is followed only if `follow` says so; in the last place there
    may be nothing. -/
def resolveWith (fs : FileSystem) (follow : Bool)
    (jump : Location → List String → Except FileCause Location) (dir : Location) :
    List String → Except FileCause Location
  | [] => .ok dir
  | piece :: rest =>
    if Path.isIdle piece then resolveWith fs follow jump dir rest
    else if piece == ".." then resolveWith fs follow jump dir.dropLast rest
    else if nameLimit < piece.utf8ByteSize then .error .nameTooLong
    else
      let loc := dir ++ [piece]
      match fs.at? loc with
      | none => if rest.isEmpty then .ok loc else .error .missing
      | some .directory => resolveWith fs follow jump loc rest
      | some (.file _) => if rest.isEmpty then .ok loc else .error .notDirectory
      | some (.link target) =>
        if rest.isEmpty && !follow then .ok loc
        else jump (targetBase dir target) (Path.pieces target ++ rest)

/-- Where the pieces of a path lead from a directory on, if no more than a number of links are
    followed on the way. -/
def resolveFrom (fs : FileSystem) (follow : Bool) :
    Nat → Location → List String → Except FileCause Location
  | 0 => resolveWith fs follow (fun _ _ => .error .tooManyLinks)
  | links + 1 => resolveWith fs follow (resolveFrom fs follow links)

/-- The pieces of a path that can be followed. -/
def followable (path : String) : Except FileCause (List String) :=
  if path.isEmpty then .error .missing
  else if path.toList.contains (Char.ofNat 0) then .error .nullCharacter
  else .ok (Path.pieces path)

/-- The location that the first pieces of a path lead to, and the other pieces, for one who stands
    in a directory the last `lost` names of which were removed. -/
def leaveLost (dir : Location) : Nat → List String → Except FileCause (Location × List String)
  | 0, ps => .ok (dir, ps)
  | _ + 1, [] => .error .missing
  | lost + 1, piece :: rest =>
    if Path.isIdle piece then leaveLost dir (lost + 1) rest
    else if piece == ".." then leaveLost dir.dropLast lost rest
    else .error .missing

/-- Where a path leads for one who stands in `here`. -/
def resolve (fs : FileSystem) (follow : Bool) (here : Standpoint) (path : String) :
    Except FileCause Location := do
  let ps ← followable path
  if Path.isAbsolute path then fs.resolveFrom follow linkLimit [] ps
  else
    let (dir, ps) ← leaveLost here.location here.lost ps
    fs.resolveFrom follow linkLimit dir ps

/-- The location and the node that a path leads to. -/
def find? (fs : FileSystem) (here : Standpoint) (path : String) :
    Except FileCause (Location × Entry) := do
  let loc ← fs.resolve true here path
  match fs.at? loc with
  | some n => .ok (loc, n)
  | none => .error .missing

/-- Whether a path leads to anything. -/
def exists? (fs : FileSystem) (here : Standpoint) (path : String) : Bool :=
  match fs.find? here path with
  | .ok _ => true
  | .error _ => false

/-- Whether a path leads to a directory. -/
def isDirectory (fs : FileSystem) (here : Standpoint) (path : String) : Bool :=
  match fs.find? here path with
  | .ok (_, .directory) => true
  | _ => false

/-- Whether a path leads to a file. -/
def isFile (fs : FileSystem) (here : Standpoint) (path : String) : Bool :=
  match fs.find? here path with
  | .ok (_, .file _) => true
  | _ => false

/-- Whether a path leads to an entry of some sort. A path that leads nowhere does not, but it is an
    error if a name on the way is too long. -/
def leadsTo (fs : FileSystem) (here : Standpoint) (sort : Entry → Bool) (path : String) :
    Except FileError Bool :=
  match fs.find? here path with
  | .ok (_, n) => .ok (sort n)
  | .error .nameTooLong => .error ⟨.nameTooLong, [path]⟩
  | .error _ => .ok false

/-- The bytes of the file that a path leads to. -/
def read (fs : FileSystem) (here : Standpoint) (path : String) : Except FileError ByteArray :=
  match fs.find? here path with
  | .ok (_, .file bytes) => .ok bytes
  | .ok _ => .error ⟨.isDirectory, [path]⟩
  | .error cause => .error ⟨cause, [path]⟩

/-- The entries of the directory that a path leads to, in the order of their code points. -/
def list? (fs : FileSystem) (here : Standpoint) (path : String) : Option (List String) :=
  match fs.find? here path with
  | .ok (loc, .directory) => some (fs.names loc)
  | _ => none

/-- The path of a location. -/
def pathOf (loc : Location) : String := "/" ++ Path.ofNames loc

/-- Where one stands who stands in a directory that is there. -/
def standing (loc : Location) : Standpoint := ⟨loc, 0⟩

/-- Entries of other locations do not matter for what is found. -/
theorem lookup_filter {q : Location} {p : Location × Entry → Bool}
    (h : ∀ e, e.1 = q → p e = true) (nodes : List (Location × Entry)) :
    (nodes.filter p).lookup q = nodes.lookup q := by
  induction nodes with
  | nil => rfl
  | cons e es ih =>
    obtain ⟨l, entry⟩ := e
    rw [List.filter_cons]
    by_cases hp : p (l, entry) = true
    · rw [if_pos hp, List.lookup_cons, List.lookup_cons, ih]
    · have hne : (q == l) = false := by
        rw [beq_eq_false_iff_ne]
        rintro rfl
        exact hp (h (q, entry) rfl)
      rw [if_neg hp, ih, List.lookup_cons, hne]

theorem at?_put (fs : FileSystem) (loc q : Location) (n : Entry) (h : q ≠ []) :
    (fs.put loc n).at? q = if q = loc then some n else fs.at? q := by
  simp only [at?, put, h, if_false]
  by_cases hq : q = loc
  · subst hq
    simp
  · have hb : (q == loc) = false := by simpa using hq
    rw [if_neg hq, List.lookup_cons, hb]
    refine lookup_filter ?_ fs.nodes
    rintro e rfl
    simpa using hq

end FileSystem

end PackageAtlas
