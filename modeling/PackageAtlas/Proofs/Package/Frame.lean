import PackageAtlas.Proofs.FileSystem.Frame
import PackageAtlas.Proofs.Package.Inside
import PackageAtlas.Proofs.Package.Registry

namespace PackageAtlas.Package

open FileSystem (Passes)
open PackageAtlas.Path (IsName IsNormal)

/-!
# What the packages of a project depend on

The packages of a project are told by what lies below its path, and by nothing else:

* `IsBelow`: the paths that are made by adding names to that of a project;
* `IsListed.isBelow`: the directories of packages are such paths;
* `Alike`: two file systems in which the same is found by all of them;
* `alike_of_passes`: so it is if all that they come by is the same;
* `Alike.scan_eq`: the packages of a project are then the same as well.
-/

variable {fs fs' : FileSystem} {here : Standpoint} {top dir path : String} {p : Package}

/-! ### Paths below a project -/

/-- A path is that of a project with names added. -/
def IsBelow (top path : String) : Prop :=
  ∃ ns, (∀ n ∈ ns, IsName n) ∧ path = extend top ns

theorem isBelow_self (top : String) : IsBelow top top := ⟨[], by simp, rfl⟩

theorem IsBelow.join (h : IsBelow top dir) {name : String} (hname : IsName name) :
    IsBelow top (Path.join dir name) := by
  obtain ⟨ns, hns, rfl⟩ := h
  refine ⟨ns ++ [name], Path.isName_of_mem_concat hns hname, ?_⟩
  rw [extend, extend, List.foldl_append]
  rfl

theorem IsBelow.join_ofNames (h : IsBelow top dir) {ns : List String} (hne : ns ≠ [])
    (hns : ∀ n ∈ ns, IsName n) : IsBelow top (Path.join dir (Path.ofNames ns)) := by
  obtain ⟨ms, hms, rfl⟩ := h
  refine ⟨ms ++ ns, ?_, ?_⟩
  · intro n hn
    rcases List.mem_append.mp hn with hn | hn
    · exact hms n hn
    · exact hns n hn
  · rw [← extend_eq_join _ hne hns, extend, extend, extend, List.foldl_append]

theorem IsBelow.isNormal (h : IsBelow top dir) (htop : IsNormal top) : IsNormal dir := by
  obtain ⟨ns, hns, rfl⟩ := h
  induction ns generalizing top with
  | nil => exact htop
  | cons n ns ih =>
    rw [extend_cons]
    exact ih (htop.join (hns n List.mem_cons_self))
      (fun m hm => hns m (List.mem_cons_of_mem n hm))

/-- The directory of a package lies below its project. -/
theorem IsListed.isBelow (h : IsListed fs here top p) (hfs : fs.WellFormed)
    (htop : IsNormal top) : IsBelow top p.directory := by
  obtain ⟨dir, fallback, hdir, hp⟩ := h.exists_inDirectory? hfs (isBelow_self top)
    (fun _ _ hdir hname => hdir.join hname)
  rw [(directory_of_inDirectory? hfs (hdir.isNormal htop) hp).1]
  exact hdir

/-! ### Alike below a project -/

/-- The same is found by all paths below a project. -/
structure Alike (fs fs' : FileSystem) (here : Standpoint) (top : String) : Prop where
  find? : ∀ path, IsBelow top path → fs'.find? here path = fs.find? here path
  list? : ∀ path, IsBelow top path → fs'.list? here path = fs.list? here path

/-- Two file systems are alike below a project if all that its paths come by is the same. -/
theorem alike_of_passes (htop : IsNormal top)
    (hsame : ∀ path l, IsBelow top path → Passes fs [] (Path.pieces path) l →
      fs'.at? l = fs.at? l ∧ fs'.names l = fs.names l) : Alike fs fs' here top := by
  constructor
  · intro path hpath
    exact FileSystem.find?_congr (hpath.isNormal htop).isAbsolute_eq
      (fun l hl => (hsame path l hpath hl).1)
  · intro path hpath
    exact FileSystem.list?_congr (hpath.isNormal htop).isAbsolute_eq
      (fun l hl => (hsame path l hpath hl).1) (fun l hl => (hsame path l hpath hl).2)

namespace Alike

variable (h : Alike fs fs' here top)

include h

theorem read_eq (hpath : IsBelow top path) : fs'.read here path = fs.read here path := by
  rw [FileSystem.read, FileSystem.read, h.find? path hpath]

theorem exists?_eq (hpath : IsBelow top path) : fs'.exists? here path = fs.exists? here path := by
  rw [FileSystem.exists?, FileSystem.exists?, h.find? path hpath]

theorem isDirectory_eq (hpath : IsBelow top path) :
    fs'.isDirectory here path = fs.isDirectory here path := by
  rw [FileSystem.isDirectory, FileSystem.isDirectory, h.find? path hpath]

theorem leadsTo_eq (sort : Entry → Bool) (hpath : IsBelow top path) :
    fs'.leadsTo here sort path = fs.leadsTo here sort path := by
  rw [FileSystem.leadsTo, FileSystem.leadsTo, h.find? path hpath]

theorem readManifest_eq (hpath : IsBelow top path) :
    readManifest fs' here path = readManifest fs here path := by
  rw [readManifest, readManifest, h.read_eq hpath]

theorem inDirectory?_eq (hdir : IsBelow top dir) (fallback : String) :
    inDirectory? fs' here dir fallback = inDirectory? fs here dir fallback := by
  have hmanifest : IsBelow top (Path.join dir manifestName) := hdir.join isName_manifestName
  unfold inDirectory?
  simp only
  rw [h.exists?_eq hmanifest, h.readManifest_eq hmanifest]

theorem memberDirectory_eq (hdir : IsBelow top dir) {name : String} (hname : IsName name) :
    memberDirectory fs' here dir name = memberDirectory fs here dir name := by
  have hmember := hdir.join hname
  have hpath : IsBelow top (Path.join (Path.join dir name) dependencyName) :=
    hmember.join isName_dependencyName
  unfold memberDirectory hasDependencies
  simp only [h.leadsTo_eq _ hmember, h.leadsTo_eq _ hpath]

variable (hfs : fs.WellFormed)

include hfs

theorem memberDirectories_eq (hdir : IsBelow top dir) :
    memberDirectories fs' here dir = memberDirectories fs here dir := by
  have hgather : gather (memberDirectory fs' here dir) ((fs.list? here dir).getD []) =
      gather (memberDirectory fs here dir) ((fs.list? here dir).getD []) :=
    gather_congr (fun m hm => h.memberDirectory_eq hdir (isName_of_mem_list? hfs hm))
  unfold memberDirectories
  rw [h.leadsTo_eq _ hdir, h.list? dir hdir, hgather]

theorem workspaceDirectories_eq :
    workspaceDirectories fs' here top = workspaceDirectories fs here top := by
  have hself := isBelow_self top
  have hworkspace : isWorkspace fs' here top = isWorkspace fs here top := by
    unfold isWorkspace
    rw [h.exists?_eq (hself.join isName_workspaceName),
      h.readManifest_eq (hself.join isName_manifestName)]
  have hmembers : gather (memberDirectories fs' here) (memberBases top) =
      gather (memberDirectories fs here) (memberBases top) :=
    gather_congr (fun base hbase => h.memberDirectories_eq hfs
      (of_mem_memberBases hself (fun _ _ hd hname => hd.join hname) hbase))
  rw [workspaceDirectories, workspaceDirectories, hworkspace, hmembers]

theorem dependencyDirectories_eq :
    dependencyDirectories fs' here top = dependencyDirectories fs here top := by
  have hself := isBelow_self top
  unfold dependencyDirectories
  rw [h.workspaceDirectories_eq hfs]
  rcases hmembers : workspaceDirectories fs here top with e | members
  · rfl
  refine congrArg Except.ok (List.filter_congr (fun d hd => h.isDirectory_eq ?_))
  -- Whatever is looked for was made by adding names.
  rcases List.mem_cons.mp (List.mem_eraseDups.mp hd) with rfl | hd
  · exact hself.join isName_dependencyName
  · obtain ⟨base, hbase, m, hm, -, rfl⟩ := exists_member_of_mem_workspaceDirectories hmembers hd
    have hbelow : IsBelow top base :=
      of_mem_memberBases hself (fun _ _ hd hname => hd.join hname) hbase
    exact (hbelow.join (isName_of_mem_list? hfs hm)).join isName_dependencyName

theorem inEntry_eq (hdir : IsBelow top dir) {name : String} (hname : IsName name) :
    inEntry fs' here dir name = inEntry fs here dir name := by
  have hpath := hdir.join hname
  unfold inEntry
  simp only
  rw [h.isDirectory_eq hpath, h.list? _ hpath, h.inDirectory?_eq hpath]
  have hscope : ((fs.list? here (Path.join dir name)).getD []).filterMap (fun sub =>
      inDirectory? fs' here (Path.join (Path.join dir name) sub) (name ++ "/" ++ sub)) =
      ((fs.list? here (Path.join dir name)).getD []).filterMap (fun sub =>
        inDirectory? fs here (Path.join (Path.join dir name) sub) (name ++ "/" ++ sub)) :=
    List.filterMap_congr (fun sub hsub =>
      h.inDirectory?_eq (hpath.join (isName_of_mem_list? hfs hsub)) _)
  rw [hscope]

theorem candidates_eq : candidates fs' here top = candidates fs here top := by
  unfold candidates
  rw [h.dependencyDirectories_eq hfs]
  rcases hdirs : dependencyDirectories fs here top with e | dirs
  · rfl
  refine congrArg Except.ok (List.flatMap_congr (fun dir hdir => ?_))
  have hbelow : IsBelow top dir :=
    of_mem_dependencyDirectories hfs (isBelow_self top) (fun _ _ hd hname => hd.join hname) hdirs
      hdir
  unfold inDependencies
  rw [h.list? dir hbelow]
  exact List.flatMap_congr (fun name hname =>
    h.inEntry_eq hfs hbelow (isName_of_mem_list? hfs hname))

/-- **The same packages.** Two file systems that are alike below a project have the same packages
    in it. -/
theorem scan_eq (filter : String) : scan fs' here top filter = scan fs here top filter := by
  rw [scan, scan, h.candidates_eq hfs]

end Alike

end PackageAtlas.Package
