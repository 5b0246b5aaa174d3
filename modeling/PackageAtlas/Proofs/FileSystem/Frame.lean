import PackageAtlas.Proofs.FileSystem.Lookup

namespace PackageAtlas.FileSystem

open PackageAtlas.Path (isAbsolute isIdle pieces)

/-!
# What the way of a path depends on

A path is followed from one location to the next, and nothing else is looked at:

* `Passes`: the locations that the way of some pieces comes by, however many links are followed;
* `Follows.passes`: where pieces lead to is the last of them;
* `resolveFrom_congr`: pieces lead to the same place wherever these locations are the same;
* `find?_congr`, `list?_congr`: so do paths, and the same is found there.
-/

variable {fs fs' : FileSystem} {here : Standpoint} {follow : Bool} {links : Nat}
  {dir loc : Location} {path : String} {ps : List String}

/-- The way of some pieces from the directory `dir` on comes by a location. -/
inductive Passes (fs : FileSystem) : Location → List String → Location → Prop where
  | here (dir : Location) (ps : List String) : Passes fs dir ps dir
  | entry {dir : Location} {piece : String} {rest : List String} (h : IsStep piece) :
      Passes fs dir (piece :: rest) (dir ++ [piece])
  | idle {dir loc : Location} {piece : String} {rest : List String} (h : isIdle piece = true)
      (hrest : Passes fs dir rest loc) : Passes fs dir (piece :: rest) loc
  | up {dir loc : Location} {rest : List String} (hrest : Passes fs dir.dropLast rest loc) :
      Passes fs dir (".." :: rest) loc
  | directory {dir loc : Location} {piece : String} {rest : List String} (h : IsStep piece)
      (hentry : fs.at? (dir ++ [piece]) = some .directory)
      (hrest : Passes fs (dir ++ [piece]) rest loc) : Passes fs dir (piece :: rest) loc
  | link {dir loc : Location} {piece target : String} {rest : List String} (h : IsStep piece)
      (hentry : fs.at? (dir ++ [piece]) = some (.link target))
      (hrest : Passes fs (targetBase dir target) (pieces target ++ rest) loc) :
      Passes fs dir (piece :: rest) loc

/-- The way of some pieces comes by the place that they lead to. -/
theorem Follows.passes (h : Follows fs follow links dir ps loc) : Passes fs dir ps loc := by
  induction h with
  | here => exact .here _ []
  | idle hidle _ ih => exact .idle hidle ih
  | up _ ih => exact .up ih
  | last hstep _ => exact .entry hstep
  | directory hstep hentry _ ih => exact .directory hstep hentry ih
  | link hstep hentry _ _ ih => exact .link hstep hentry ih

/-- **Frame.** Pieces lead to the same place wherever the locations on their way are the same. -/
theorem resolveFrom_congr (hsame : ∀ l, Passes fs dir ps l → fs'.at? l = fs.at? l) :
    fs'.resolveFrom true links dir ps = fs.resolveFrom true links dir ps := by
  -- Each step looks at one entry, which the way comes by.
  induction links, dir, ps using way_induction fs with
  | nil => rw [resolveFrom_nil, resolveFrom_nil]
  | idle hidle ih =>
    rw [resolveFrom_idle hidle, resolveFrom_idle hidle]
    exact ih (fun l hl => hsame l (.idle hidle hl))
  | up ih =>
    rw [resolveFrom_up, resolveFrom_up]
    exact ih (fun l hl => hsame l (.up hl))
  | long hlong => rw [resolveFrom_long hlong, resolveFrom_long hlong]
  | missing hstep hentry =>
    have hloc := hsame _ (.entry hstep)
    rw [resolveFrom_missing hstep (hloc.trans hentry), resolveFrom_missing hstep hentry]
  | directory hstep hentry ih =>
    have hloc := hsame _ (.entry hstep)
    rw [resolveFrom_directory hstep (hloc.trans hentry), resolveFrom_directory hstep hentry]
    exact ih (fun l hl => hsame l (.directory hstep hentry hl))
  | file hstep hentry =>
    have hloc := hsame _ (.entry hstep)
    rw [resolveFrom_file hstep (hloc.trans hentry), resolveFrom_file hstep hentry]
  | lastLink hstep hentry =>
    have hloc := hsame _ (.entry hstep)
    rw [resolveFrom_link_zero hstep (hloc.trans hentry), resolveFrom_link_zero hstep hentry]
  | link hstep hentry ih =>
    have hloc := hsame _ (.entry hstep)
    rw [resolveFrom_link hstep (hloc.trans hentry), resolveFrom_link hstep hentry]
    exact ih (fun l hl => hsame l (.link hstep hentry hl))

/-! ### Paths from the root on -/

section Absolute

variable (habs : isAbsolute path = true)
  (hsame : ∀ l, Passes fs [] (pieces path) l → fs'.at? l = fs.at? l)

include habs

theorem passes_of_resolve (h : fs.resolve true here path = .ok loc) :
    Passes fs [] (pieces path) loc := by
  obtain ⟨-, -, hfrom⟩ := (resolve_eq_ok_iff (Or.inl habs)).mp h
  rw [startOf, if_pos habs] at hfrom
  exact (follows_of_resolveFrom hfrom).passes

include hsame

theorem resolve_congr : fs'.resolve true here path = fs.resolve true here path := by
  have hway : fs'.resolveFrom true linkLimit [] (pieces path) =
      fs.resolveFrom true linkLimit [] (pieces path) := resolveFrom_congr hsame
  unfold resolve
  rcases hps : followable path with cause | qs
  · show Except.error cause = Except.error cause
    rfl
  · obtain ⟨-, -, rfl⟩ := followable_eq_ok_iff.mp hps
    show (if _ then _ else _) = (if _ then _ else _)
    rw [if_pos habs, if_pos habs, hway]

theorem find?_congr : fs'.find? here path = fs.find? here path := by
  unfold find?
  rw [resolve_congr habs hsame]
  rcases hresolve : fs.resolve true here path with cause | l
  · rfl
  · simp only [bind, Except.bind]
    rw [hsame l (passes_of_resolve habs hresolve)]

theorem list?_congr (hnames : ∀ l, Passes fs [] (pieces path) l → fs'.names l = fs.names l) :
    fs'.list? here path = fs.list? here path := by
  unfold list?
  rw [find?_congr habs hsame]
  rcases hfind : fs.find? here path with cause | ⟨l, _ | bytes | target⟩
  · rfl
  · simp only
    rw [hnames l (passes_of_resolve habs (find?_eq_ok_iff.mp hfind).1)]
  · rfl
  · rfl

end Absolute

end PackageAtlas.FileSystem
