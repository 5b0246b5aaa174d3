import Mathlib.Data.List.Infix
import PackageAtlas.Package.Registry
import PackageAtlas.Proofs.FileSystem.Lookup
import PackageAtlas.Proofs.FirstBy
import PackageAtlas.Proofs.Path.Normal

namespace PackageAtlas.Package

open FileSystem (WellFormed)
open PackageAtlas.Path (IsName IsNormal)
open Text (WideText holdsList)

/-!
# Where installed packages lie

A package is found only where its directory is: its path is a normal one, and it leads to a
directory.

* `isNormal_of_absolute`, `isNormal_of_resolveRoot`: the paths of projects are normal;
* `cases_of_mem_dependencyDirectories`: where dependency directories lie;
* `of_mem_dependencyDirectories`, `exists_inDirectory?_of_mem_candidates`: what is closed under
  adding names holds of all directories in which packages are looked for;
* `IsListed`, `isListed_of_find?`: the packages that a catalogue lists, and those that names mean;
* `IsListed.exists_find?`: the directories of packages.
-/

variable {fs : FileSystem} {here : Standpoint} {top dir : String} {p : Package}

/-! ### Names that are looked for -/

theorem isName_dependencyName : IsName dependencyName := by decide

theorem isName_manifestName : IsName manifestName := by decide

theorem isName_workspaceName : IsName workspaceName := by decide

/-! ### Projects -/

theorem isAbsolute_path {path : String} (h : here.path = .ok path) :
    Path.isAbsolute path = true := by
  unfold Standpoint.path at h
  split at h
  · obtain rfl := Except.ok.inj h
    rw [Path.isAbsolute, String.toList_append]
    rfl
  · simp at h

/-- A path from the root on is a normal one. -/
theorem isNormal_of_absolute {text full : String} (h : here.absolute text = .ok full) :
    IsNormal full := by
  unfold Standpoint.absolute at h
  split at h
  · rename_i habs
    obtain rfl := Except.ok.inj h
    exact Path.isNormal_normalize habs
  · rename_i hrel
    obtain ⟨path, hpath, h⟩ := bind_eq_ok_iff.mp h
    obtain rfl : Path.absolute path text = full := Except.ok.inj h
    have habs := isAbsolute_path hpath
    apply Path.isNormal_normalize
    rw [Path.isAbsolute_join (Path.ne_empty_of_isAbsolute habs) (Bool.eq_false_iff.mpr hrel), habs]

theorem isNormal_of_nearestProject (h : IsNormal top) : IsNormal (nearestProject fs here top) := by
  unfold nearestProject
  rcases hfound : (Path.ancestors top).find? (isProject fs here) with _ | found
  · exact h
  · exact h.of_mem_ancestors found (List.mem_of_find?_eq_some hfound)

theorem isNormal_of_currentProject (h : currentProject fs here = .ok top) : IsNormal top := by
  unfold currentProject projectRoot at h
  obtain ⟨path, -, h⟩ := bind_eq_ok_iff.mp h
  obtain ⟨full, hfull, h⟩ := bind_eq_ok_iff.mp h
  obtain rfl : nearestProject fs here full = top := Except.ok.inj h
  exact isNormal_of_nearestProject (isNormal_of_absolute hfull)

theorem isNormal_of_resolveRoot {root : String} (h : resolveRoot fs here root = .ok top) :
    IsNormal top := by
  unfold resolveRoot at h
  split at h
  · exact isNormal_of_currentProject h
  · exact isNormal_of_absolute h

/-! ### Dependency directories -/

theorem isName_of_mem_list? (hfs : fs.WellFormed) {name : String}
    (h : name ∈ (fs.list? here dir).getD []) : IsName name := by
  unfold FileSystem.list? at h
  split at h
  · exact hfs.isName_of_mem_names h
  · simp at h

section Gather

variable {α β ε : Type} {step step' : α → Except ε (List β)} {as : List α} {bs : List β}

/-- What is gathered was given for one of the items. -/
theorem exists_of_mem_gather (h : gather step as = .ok bs) {b : β} (hb : b ∈ bs) :
    ∃ a ∈ as, ∃ found, step a = .ok found ∧ b ∈ found := by
  induction as generalizing bs with
  | nil =>
    obtain rfl : [] = bs := Except.ok.inj h
    simp at hb
  | cons a as ih =>
    obtain ⟨found, hfound, h⟩ := bind_eq_ok_iff.mp h
    obtain ⟨more, hmore, h⟩ := bind_eq_ok_iff.mp h
    obtain rfl : found ++ more = bs := Except.ok.inj h
    rcases List.mem_append.mp hb with hb | hb
    · exact ⟨a, List.mem_cons_self, found, hfound, hb⟩
    · obtain ⟨a', ha', hgiven⟩ := ih hmore hb
      exact ⟨a', List.mem_cons_of_mem a ha', hgiven⟩

theorem gather_congr (h : ∀ a ∈ as, step a = step' a) : gather step as = gather step' as := by
  induction as with
  | nil => rfl
  | cons a as ih =>
    rw [gather, gather, h a List.mem_cons_self,
      ih (fun b hb => h b (List.mem_cons_of_mem a hb))]

end Gather

theorem eq_of_mem_memberDirectory {base name : String} {dirs : List String}
    (h : memberDirectory fs here base name = .ok dirs) (hdir : dir ∈ dirs) :
    isMemberName name = true ∧ dir = Path.join (Path.join base name) dependencyName := by
  unfold memberDirectory at h
  obtain ⟨found, -, h⟩ := bind_eq_ok_iff.mp h
  split at h
  · rename_i hname
    obtain ⟨there, -, h⟩ := bind_eq_ok_iff.mp h
    obtain rfl := Except.ok.inj h
    split at hdir
    · exact ⟨(Bool.and_eq_true_iff.mp hname).2, List.mem_singleton.mp hdir⟩
    · simp at hdir
  · obtain rfl := Except.ok.inj h
    simp at hdir

/-- Where the dependency directories of members lie. -/
theorem exists_member_of_mem_memberDirectories {base : String} {dirs : List String}
    (h : memberDirectories fs here base = .ok dirs) (hdir : dir ∈ dirs) :
    ∃ m ∈ (fs.list? here base).getD [], isMemberName m = true ∧
      dir = Path.join (Path.join base m) dependencyName := by
  unfold memberDirectories at h
  obtain ⟨there, -, h⟩ := bind_eq_ok_iff.mp h
  split at h
  · obtain ⟨m, hm, found, hfound, hmem⟩ := exists_of_mem_gather h hdir
    exact ⟨m, hm, eq_of_mem_memberDirectory hfound hmem⟩
  · obtain rfl := Except.ok.inj h
    simp at hdir

theorem exists_member_of_mem_workspaceDirectories {dirs : List String}
    (h : workspaceDirectories fs here top = .ok dirs) (hdir : dir ∈ dirs) :
    ∃ base ∈ memberBases top, ∃ m ∈ (fs.list? here base).getD [], isMemberName m = true ∧
      dir = Path.join (Path.join base m) dependencyName := by
  unfold workspaceDirectories at h
  split at h
  · obtain ⟨base, hbase, found, hfound, hdir⟩ := exists_of_mem_gather h hdir
    exact ⟨base, hbase, exists_member_of_mem_memberDirectories hfound hdir⟩
  · obtain rfl := Except.ok.inj h
    simp at hdir

/-- A dependency directory is that of the project, or that of a member. -/
theorem cases_of_mem_dependencyDirectories {dirs : List String}
    (h : dependencyDirectories fs here top = .ok dirs) (hdir : dir ∈ dirs) :
    dir = Path.join top dependencyName ∨
      ∃ base ∈ memberBases top, ∃ m ∈ (fs.list? here base).getD [], isMemberName m = true ∧
        dir = Path.join (Path.join base m) dependencyName := by
  obtain ⟨members, hmembers, h⟩ := bind_eq_ok_iff.mp h
  obtain rfl := Except.ok.inj h
  have hmem := List.mem_eraseDups.mp (List.mem_filter.mp hdir).1
  rcases List.mem_cons.mp hmem with rfl | hmem
  · exact Or.inl rfl
  · exact Or.inr (exists_member_of_mem_workspaceDirectories hmembers hmem)

section Closed

variable {Q : String → Prop} (hfs : fs.WellFormed) (htop : Q top)
  (hjoin : ∀ dir name, Q dir → IsName name → Q (Path.join dir name))

include htop hjoin

/-- The directories of members are found by adding names to the path of the project. -/
theorem of_mem_memberBases {base : String} (h : base ∈ memberBases top) : Q base := by
  simp only [memberBases, List.mem_cons, List.not_mem_nil, or_false] at h
  rcases h with rfl | rfl | rfl
  · exact hjoin _ _ htop (by decide)
  · exact hjoin _ _ htop (by decide)
  · exact htop

include hfs

/-- Dependency directories are found by adding names to the path of the project. -/
theorem of_mem_dependencyDirectories {dirs : List String}
    (h : dependencyDirectories fs here top = .ok dirs) (hdir : dir ∈ dirs) : Q dir := by
  rcases cases_of_mem_dependencyDirectories h hdir with rfl | ⟨base, hbase, m, hm, -, rfl⟩
  · exact hjoin _ _ htop isName_dependencyName
  · -- A member of a workspace lies one name below a directory of members.
    exact hjoin _ _ (hjoin _ _ (of_mem_memberBases htop hjoin hbase)
      (isName_of_mem_list? hfs hm)) isName_dependencyName

/-- Packages are found by adding names to the path of the project. -/
theorem exists_inDirectory?_of_mem_candidates {found : List Package}
    (h : candidates fs here top = .ok found) (hp : p ∈ found) :
    ∃ dir fallback, Q dir ∧ inDirectory? fs here dir fallback = some p := by
  obtain ⟨dirs, hdirs, h⟩ := bind_eq_ok_iff.mp h
  obtain rfl := Except.ok.inj h
  obtain ⟨dir, hdir, hentries⟩ := List.mem_flatMap.mp hp
  have hQ := of_mem_dependencyDirectories hfs htop hjoin hdirs hdir
  obtain ⟨name, hname, hentry⟩ := List.mem_flatMap.mp hentries
  have hpath := hjoin _ _ hQ (isName_of_mem_list? hfs hname)
  unfold inEntry at hentry
  simp only at hentry
  split at hentry
  · simp at hentry
  · split at hentry
    · split at hentry
      · -- The packages of a scope lie one directory deeper.
        obtain ⟨sub, hsub, hp⟩ := List.mem_filterMap.mp hentry
        exact ⟨_, _, hjoin _ _ hpath (isName_of_mem_list? hfs hsub), hp⟩
      · simp at hentry
    · exact ⟨_, _, hpath, by simpa using hentry⟩

end Closed

/-! ### Texts in texts -/

/-- One list stands somewhere in another. -/
theorem holdsList_iff {α : Type} [BEq α] [LawfulBEq α] {xs ys : List α} :
    holdsList xs ys = true ↔ xs <:+: ys := by
  induction ys with
  | nil => simp [holdsList]
  | cons y ys ih => rw [holdsList, Bool.or_eq_true, List.isPrefixOf_iff_prefix, ih,
      List.infix_cons_iff]

/-- Every name holds the empty text. -/
theorem contains_empty (name : WideText) : name.contains "" = true :=
  holdsList_iff.mpr (List.nil_infix)

/-! ### Packages -/

/-- A package lies in a directory, the path of which is that of the package. -/
theorem directory_of_inDirectory? (hfs : fs.WellFormed) (hdir : IsNormal dir) {fallback : String}
    (h : inDirectory? fs here dir fallback = some p) :
    p.directory = dir ∧ ∃ loc, fs.find? here dir = .ok (loc, .directory) := by
  unfold inDirectory? at h
  simp only at h
  split at h
  · rename_i hexists
    obtain rfl := Option.some.inj h
    exact ⟨hdir.normalize_eq,
      FileSystem.exists_find?_of_join hfs hdir.isAbsolute_eq isName_manifestName hexists⟩
  · simp at h

/-- A catalogue lists the first package of each name. -/
theorem firstByName_eq_firstBy (seen : List WideText) (ps : List Package) :
    firstByName seen ps = firstBy Package.name seen ps := by
  induction ps generalizing seen with
  | nil => rfl
  | cons p ps ih => rw [firstByName, firstBy, ih, ih]

theorem mem_of_mem_firstByName {seen : List WideText} {ps : List Package}
    (h : p ∈ firstByName seen ps) : p ∈ ps :=
  (firstBy_sublist _ seen ps).subset (firstByName_eq_firstBy seen ps ▸ h)

/-- A package is listed in the catalogue of a project. -/
def IsListed (fs : FileSystem) (here : Standpoint) (top : String) (p : Package) : Prop :=
  ∃ all, scan fs here top "" = .ok all ∧ p ∈ all

theorem isListed_iff {all : List Package} (h : scan fs here top "" = .ok all) :
    IsListed fs here top p ↔ p ∈ all := by
  rw [IsListed, h]
  simp

/-- A catalogue lists candidates. -/
theorem scan_eq_ok_iff {filter : String} {all : List Package} :
    scan fs here top filter = .ok all ↔ ∃ found, candidates fs here top = .ok found ∧
      all = (firstByName [] found).filter (fun p => p.name.contains filter) := by
  unfold scan
  rw [bind_eq_ok_iff]
  refine exists_congr (fun found => and_congr_right (fun _ => ?_))
  exact ⟨fun h => (Except.ok.inj h).symm, fun h => congrArg Except.ok h.symm⟩

/-- What is listed for a text is listed. -/
theorem isListed_of_mem_scan {filter : String} {all : List Package}
    (h : scan fs here top filter = .ok all) (hp : p ∈ all) : IsListed fs here top p := by
  obtain ⟨found, hfound, rfl⟩ := scan_eq_ok_iff.mp h
  refine ⟨_, scan_eq_ok_iff.mpr ⟨found, hfound, rfl⟩, List.mem_filter.mpr ⟨?_, ?_⟩⟩
  · exact (List.mem_filter.mp hp).1
  · exact contains_empty p.name

/-- A package that is listed is one of the candidates. -/
theorem IsListed.exists_candidates (h : IsListed fs here top p) :
    ∃ found, candidates fs here top = .ok found ∧ p ∈ found := by
  obtain ⟨all, hscan, hp⟩ := h
  obtain ⟨found, hfound, rfl⟩ := scan_eq_ok_iff.mp hscan
  exact ⟨found, hfound, mem_of_mem_firstByName (List.mem_filter.mp hp).1⟩

/-- Packages that are listed are found by adding names to the path of the project. -/
theorem IsListed.exists_inDirectory? {Q : String → Prop} (h : IsListed fs here top p)
    (hfs : fs.WellFormed) (htop : Q top)
    (hjoin : ∀ dir name, Q dir → IsName name → Q (Path.join dir name)) :
    ∃ dir fallback, Q dir ∧ inDirectory? fs here dir fallback = some p := by
  obtain ⟨found, hfound, hp⟩ := h.exists_candidates
  exact exists_inDirectory?_of_mem_candidates hfs htop hjoin hfound hp

/-- The path of a package that is listed is a normal one, and leads to a directory. -/
theorem IsListed.isNormal_directory (h : IsListed fs here top p) (hfs : fs.WellFormed)
    (htop : IsNormal top) :
    IsNormal p.directory ∧ ∃ loc, fs.find? here p.directory = .ok (loc, .directory) := by
  obtain ⟨dir, fallback, hdir, hp⟩ := h.exists_inDirectory? hfs htop
    (fun _ _ hdir hname => hdir.join hname)
  obtain ⟨rfl, hloc⟩ := directory_of_inDirectory? hfs hdir hp
  exact ⟨hdir, hloc⟩

/-- **Packages lie in directories.** Every package that is listed in a project leads to one. -/
theorem IsListed.exists_find? (h : IsListed fs here top p) (hfs : fs.WellFormed)
    (htop : IsNormal top) : ∃ loc, fs.find? here p.directory = .ok (loc, .directory) :=
  (h.isNormal_directory hfs htop).2

theorem mem_of_meant? {name : String} {all : List Package} (h : meant? name all = some p) :
    p ∈ all := by
  unfold meant? at h
  split at h
  · rename_i q hq
    obtain rfl := Option.some.inj h
    exact List.mem_of_find?_eq_some hq
  · exact List.mem_of_find?_eq_some h

/-- A package that a name means is listed. -/
theorem isListed_of_find? {name : String} (h : find? fs here name top = .ok (some p)) :
    IsListed fs here top p := by
  obtain ⟨all, hscan, h⟩ := bind_eq_ok_iff.mp h
  exact ⟨all, hscan, mem_of_meant? (Except.ok.inj h)⟩

end PackageAtlas.Package
