import PackageAtlas.FileSystem.Basic

namespace PackageAtlas.FileSystem

/-!
# Canonical paths

The canonical path of a path holds no links: paths that lead to one node have one canonical path.

* `canonicalFrom`: follows pieces, links and all; where links run in a circle, the rest is left as
  it is;
* `canonical`: the canonical path, if the path can be followed at all.
-/

/-- Pieces that are left as they are, behind a location. Pieces that start with an empty one, which
    are the pieces of a text that starts with a slash, are taken from the root on. -/
def leftAsIs (loc : Location) (rest : List String) : Location :=
  match rest with
  | "" :: _ :: _ => rest
  | _ => loc ++ rest

/-- Where pieces lead from `dir` on, and whether all links could be followed, where `enter` tells it
    for the target of a link: its location, the directory that the target is taken from, and the
    pieces of the target. -/
def canonicalWith (fs : FileSystem) (enter : Location → Location → List String → Location × Bool)
    (dir : Location) : List String → Location × Bool
  | [] => (dir, true)
  | piece :: rest =>
    if Path.isIdle piece then canonicalWith fs enter dir rest
    else if piece == ".." then canonicalWith fs enter dir.dropLast rest
    else
      let loc := dir ++ [piece]
      match fs.at? loc with
      | some (.link target) =>
        match enter loc (targetBase dir target) (Path.pieces target) with
        | (found, true) => canonicalWith fs enter found rest
        | (found, false) => (leftAsIs found rest, false)
      | _ => canonicalWith fs enter loc rest

/-- Where pieces lead from a directory on, and whether all links could be followed; the links in
    `active` are being followed already, and no more than `fuel` can be followed inside of them. -/
def canonicalFrom (fs : FileSystem) : Nat → List Location → Location → List String →
    Location × Bool
  | 0, _ => canonicalWith fs (fun loc _ _ => (loc, false))
  | fuel + 1, active => canonicalWith fs (fun loc base ps =>
      if active.contains loc then (loc, false)
      else canonicalFrom fs fuel (loc :: active) base ps)

/-- The canonical path of a path for one who stands in `here`. -/
def canonical (fs : FileSystem) (here : Standpoint) (path : String) : Except FileError String := do
  if path.toList.contains (Char.ofNat 0) then throw ⟨.nullCharacter, [path]⟩
  let _ ← here.absolute path
  let base := if Path.isAbsolute path then [] else here.location
  let found := (fs.canonicalFrom (fs.linkCount + 1) [] base (Path.pieces path)).1
  return pathOf (Path.normalPieces true found)

end PackageAtlas.FileSystem
