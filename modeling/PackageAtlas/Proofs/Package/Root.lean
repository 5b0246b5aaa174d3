import PackageAtlas.Proofs.Package.Registry
import PackageAtlas.Proofs.Path.Ancestors

namespace PackageAtlas.Package

open FileSystem (Settled absolute_of_not_settled exists_absolute_of_settled)
open PackageAtlas.Path (IsNormal LiesBelow ancestors)

/-!
# The nearest project

The project of a directory is looked for upwards, one directory after another, until there is
nothing above any more:

* `IsInstalled`: a directory with a manifest in which dependencies are or will be installed;
* `Climbs`, `climbs_iff`: the way up, which comes to one end;
* `isInstalled_nearestProject`: what is found is a project, and the nearest one;
* `nearestProject_nearestProject`: what is found is found again from there;
* `project_root_is_nearest`: all of it together.
-/

variable {fs : FileSystem} {here : Standpoint} {top dir root : String}

/-! ### Projects -/

/-- A directory with a manifest in which dependencies are or will be installed. -/
structure IsInstalled (fs : FileSystem) (here : Standpoint) (dir : String) : Prop where
  manifest : fs.exists? here (Path.join dir "package.json") = true
  marker : ∃ m ∈ ["node_modules", "pnpm-workspace.yaml", "yarn.lock"],
    fs.exists? here (Path.join dir m) = true

theorem isProject_eq_true_iff : isProject fs here dir = true ↔ IsInstalled fs here dir := by
  rw [isProject, Bool.and_eq_true, List.any_eq_true]
  exact ⟨fun h => ⟨h.1, h.2⟩, fun h => ⟨h.manifest, h.marker⟩⟩

/-! ### The way up -/

/-- The way up from a directory: it ends at the first project, and at `top` if it comes to where
    nothing lies above. -/
inductive Climbs (fs : FileSystem) (here : Standpoint) (top : String) : String → String → Prop
  | found {dir : String} (h : IsInstalled fs here dir) : Climbs fs here top dir dir
  | ended {dir : String} (h : ¬ IsInstalled fs here dir) (hself : Path.parent dir = dir) :
    Climbs fs here top dir top
  | up {dir root : String} (h : ¬ IsInstalled fs here dir) (hne : Path.parent dir ≠ dir)
    (hrest : Climbs fs here top (Path.parent dir) root) : Climbs fs here top dir root

/-- What is found from a directory on upwards. -/
theorem find?_ancestors (hnot : ¬ IsInstalled fs here dir) (hne : Path.parent dir ≠ dir) :
    (ancestors dir).find? (isProject fs here) =
      (ancestors (Path.parent dir)).find? (isProject fs here) := by
  rw [Path.ancestors_of_parent_ne hne,
    List.find?_cons_of_neg (by rwa [isProject_eq_true_iff])]

theorem find?_ancestors_of_isInstalled (h : IsInstalled fs here dir) :
    (ancestors dir).find? (isProject fs here) = some dir := by
  have hproject : isProject fs here dir = true := isProject_eq_true_iff.mpr h
  by_cases hself : Path.parent dir = dir
  · rw [Path.ancestors_of_parent_eq hself, List.find?_cons_of_pos hproject]
  · rw [Path.ancestors_of_parent_ne hself, List.find?_cons_of_pos hproject]

/-- The way up comes to an end, and to one only: the first project that is found, or `top`. -/
theorem climbs_iff :
    Climbs fs here top dir root ↔
      root = ((ancestors dir).find? (isProject fs here)).getD top := by
  -- Along the steps of the climb, and back along the ancestors of the path.
  constructor
  · intro h
    induction h with
    | found h => rw [find?_ancestors_of_isInstalled h, Option.getD_some]
    | ended h hself =>
      rw [Path.ancestors_of_parent_eq hself,
        List.find?_cons_of_neg (by rwa [isProject_eq_true_iff])]
      rfl
    | up h hne hrest ih => rw [ih, find?_ancestors h hne]
  · rintro rfl
    induction dir using Path.ancestor_induction with
    | ended dir hself =>
      by_cases h : IsInstalled fs here dir
      · rw [find?_ancestors_of_isInstalled h]
        exact .found h
      · rw [Path.ancestors_of_parent_eq hself,
          List.find?_cons_of_neg (by rwa [isProject_eq_true_iff])]
        exact .ended h hself
    | down dir hne ih =>
      by_cases h : IsInstalled fs here dir
      · rw [find?_ancestors_of_isInstalled h]
        exact .found h
      · rw [find?_ancestors h hne]
        exact .up h hne ih

/-! ### What is found -/

theorem nearestProject_mem (top : String) : nearestProject fs here top ∈ ancestors top := by
  unfold nearestProject
  rcases hfound : (ancestors top).find? (isProject fs here) with _ | found
  · exact Path.mem_ancestors_self top
  · exact List.mem_of_find?_eq_some hfound

/-- Below a project, a project is found; and every project above is above that one. -/
theorem isInstalled_nearestProject (hdir : dir ∈ ancestors top) (h : IsInstalled fs here dir) :
    IsInstalled fs here (nearestProject fs here top) ∧
      dir ∈ ancestors (nearestProject fs here top) := by
  have hproject : isProject fs here dir = true := isProject_eq_true_iff.mpr h
  unfold nearestProject
  rcases hfound : (ancestors top).find? (isProject fs here) with _ | found
  · exact absurd hproject (List.find?_eq_none.mp hfound dir hdir)
  · exact ⟨isProject_eq_true_iff.mp (List.find?_some hfound),
      Path.mem_ancestors_of_find? hfound hdir hproject⟩

/-- What is found is a project, if it is not where one started. -/
theorem isInstalled_or_eq (fs : FileSystem) (here : Standpoint) (top : String) :
    IsInstalled fs here (nearestProject fs here top) ∨
      nearestProject fs here top = top ∧ ∀ dir ∈ ancestors top, ¬ IsInstalled fs here dir := by
  by_cases h : ∃ dir ∈ ancestors top, IsInstalled fs here dir
  · obtain ⟨dir, hdir, hinstalled⟩ := h
    exact Or.inl (isInstalled_nearestProject hdir hinstalled).1
  · have hnone : ∀ dir ∈ ancestors top, ¬ IsInstalled fs here dir :=
      fun dir hdir hinstalled => h ⟨dir, hdir, hinstalled⟩
    refine Or.inr ⟨?_, hnone⟩
    rw [nearestProject, List.find?_eq_none.mpr (fun dir hdir => ?_), Option.getD_none]
    rw [isProject_eq_true_iff]
    exact hnone dir hdir

/-- What is found is found again from there. -/
theorem nearestProject_nearestProject (fs : FileSystem) (here : Standpoint) (top : String) :
    nearestProject fs here (nearestProject fs here top) = nearestProject fs here top := by
  rcases isInstalled_or_eq fs here top with h | ⟨heq, -⟩
  · rw [nearestProject, find?_ancestors_of_isInstalled h, Option.getD_some]
  · rw [heq, heq]

/-! ### All of it -/

/-- A path stands for a directory or for one above it. -/
def IsAbove (above dir : String) : Prop := IsNormal above ∧ LiesBelow above dir

/-- **The nearest project.** From every path that leads anywhere, one climbs to a directory that is
    the nearest project above, or back to the path itself if there is none; all other projects above
    have shorter paths. From there, one climbs no further. A path that is taken from a place that
    was removed fails. -/
theorem project_root_is_nearest (fs : FileSystem) (here : Standpoint) (start : String) :
    (¬ Settled here start → projectRoot fs here start = .error ⟨.missing, []⟩) ∧
    (Settled here start → ∃ top root, here.absolute start = .ok top ∧
      projectRoot fs here start = .ok root ∧
      (∀ found, Climbs fs here top top found ↔ found = root) ∧
      IsAbove root top ∧
      (∀ dir, IsAbove dir top → IsInstalled fs here dir →
        IsInstalled fs here root ∧ (dir = root ∨ dir.length < root.length)) ∧
      ((∀ dir, IsAbove dir top → ¬ IsInstalled fs here dir) → root = top) ∧
      projectRoot fs here root = .ok root) := by
  constructor
  · intro h
    rw [projectRoot, absolute_of_not_settled h]
    rfl
  · intro h
    obtain ⟨top, htop⟩ := exists_absolute_of_settled h
    have hnormal : IsNormal top := isNormal_of_absolute htop
    have hroot : IsNormal (nearestProject fs here top) := isNormal_of_nearestProject hnormal
    have habove : ∀ dir, IsAbove dir top ↔ dir ∈ ancestors top :=
      fun dir => (Path.mem_ancestors_iff hnormal).symm
    refine ⟨top, nearestProject fs here top, htop, ?_, fun found => climbs_iff,
      (habove _).mpr (nearestProject_mem top), ?_, ?_, ?_⟩
    · rw [projectRoot, htop]
      rfl
    · intro dir hdir hinstalled
      obtain ⟨hfound, hlonger⟩ := isInstalled_nearestProject ((habove dir).mp hdir) hinstalled
      exact ⟨hfound, Path.eq_or_length_lt_of_mem_ancestors hlonger⟩
    · intro hnone
      rcases isInstalled_or_eq fs here top with hfound | ⟨heq, -⟩
      · exact absurd hfound (hnone _ ((habove _).mpr (nearestProject_mem top)))
      · exact heq
    · have habs : here.absolute (nearestProject fs here top) = .ok (nearestProject fs here top) := by
        rw [Standpoint.absolute, if_pos hroot.isAbsolute_eq, hroot.normalize_eq]
      rw [projectRoot, habs]
      exact congrArg Except.ok (nearestProject_nearestProject fs here top)

/-- A project, in which another directory has a manifest but nothing is installed. -/
def nestedFiles : FileSystem :=
  ⟨[(["W"], .directory),
    (["W", "package.json"], .file "\x7b\x7d".toUTF8),
    (["W", "yarn.lock"], .file "".toUTF8),
    (["W", "a"], .directory),
    (["W", "a", "package.json"], .file "\x7b\x7d".toUTF8),
    (["W", "a", "b"], .directory)]⟩

/-- Two slashes at the front stay on the way up, on which the nearer manifest is passed by; and a
    path from a directory that was removed leads nowhere. -/
theorem project_root_is_nearest_nested :
    let here := FileSystem.standing []
    let gone : Standpoint := ⟨["W", "a"], 1⟩
    Settled here "//W/a/./c/../b/" ∧ ¬ Settled gone "b" ∧
    projectRoot nestedFiles here "//W/a/./c/../b/" = .ok "//W" ∧
    IsInstalled nestedFiles here "//W" ∧ ¬ IsInstalled nestedFiles here "//W/a" ∧
    Climbs nestedFiles here "//W/a/b" "//W/a/b" "//W" ∧
    projectRoot nestedFiles here "//W" = .ok "//W" ∧
    projectRoot nestedFiles gone "b" = .error ⟨.missing, []⟩ := by
  intro here gone
  have hsettled : Settled here "//W/a/./c/../b/" := Or.inl (by decide +kernel)
  have hgone : ¬ Settled gone "b" := by
    rintro (h | h)
    · exact absurd h (by decide +kernel)
    · exact absurd h (by decide)
  have hmissing := (project_root_is_nearest nestedFiles gone "b").1 hgone
  obtain ⟨top, root, htop, hroot, hclimbs, -, hnearest, -, hagain⟩ :=
    (project_root_is_nearest nestedFiles here "//W/a/./c/../b/").2 hsettled
  have htop' : here.absolute "//W/a/./c/../b/" = .ok "//W/a/b" := by decide +kernel
  have hroot' : projectRoot nestedFiles here "//W/a/./c/../b/" = .ok "//W" := by decide +kernel
  obtain rfl : "//W/a/b" = top := Except.ok.inj (htop'.symm.trans htop)
  obtain rfl : "//W" = root := Except.ok.inj (hroot'.symm.trans hroot)
  have habove : IsAbove "//W" "//W/a/b" :=
    ⟨⟨"//", ["W"], Or.inr rfl, by decide +kernel, by decide +kernel⟩, by decide +kernel,
      by decide +kernel⟩
  have hinstalled : IsInstalled nestedFiles here "//W" :=
    isProject_eq_true_iff.mp (by decide +kernel)
  have hnot : ¬ IsInstalled nestedFiles here "//W/a" := by
    rw [← isProject_eq_true_iff]
    decide +kernel
  exact ⟨hsettled, hgone, hroot, (hnearest "//W" habove hinstalled).1, hnot,
    (hclimbs "//W").mpr rfl, hagain, hmissing⟩

end PackageAtlas.Package
