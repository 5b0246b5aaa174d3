import PackageAtlas.Proofs.Docs.Reports
import PackageAtlas.Proofs.FileSystem.Inside
import PackageAtlas.Proofs.Package.Frame

namespace PackageAtlas.Docs

open FileSystem (Grown LinkFree Maintains Passes Stands behind makeDirectories outcome)
open Package (Alike IsBelow IsListed)
open PackageAtlas.Path (IsName IsNormal)

/-!
# Filling a replica

A replica that is filled for a project, in a directory that was empty and lies apart from it, holds
nothing but the bytes of files of the project:

* `Fresh`: a directory for copies that is empty and apart from a project;
* `Copied`: what may be put there; `Fresh.alike`: nothing of it is seen from the project;
* `Fresh.read_eq`: so a copy holds the bytes of its file;
* `Filling`, `Fresh.copyPackage`, `Fresh.copyPackages`: copying puts nothing else there, one package
  after another;
* `IsFree`, `IsFree.read_copy`: so it is behind filling a replica in a directory that was not used
  before.
-/

variable {fs mid : FileSystem} {here : Standpoint} {dir top : String} {base loc : Location}
  {packages : List Package} {p : Package} {key : String} {names files : List String}

/-- A directory for copies is there and holds no files and no links, and no path below a project
    comes by it or by what is inside. -/
structure Fresh (fs : FileSystem) (here : Standpoint) (dir top : String) (base : Location) : Prop where
  found : fs.find? here dir = .ok (base, .directory)
  links : LinkFree fs base
  empty : ∀ ns bytes, fs.at? (base ++ ns) ≠ some (.file bytes)
  apart : ∀ path l, IsBelow top path → Passes fs [] (Path.pieces path) l → ¬ base <+: l

/-- What copying the documentation of packages puts into a directory: directories, and in the place
    of the copy of a file the bytes that the file has in `fs`. -/
def Copied (fs : FileSystem) (here : Standpoint) (packages : List Package) (base : Location)
    (l : Location) (e : Entry) : Prop :=
  ∃ ns, ns ≠ [] ∧ l = base ++ ns ∧ ∀ bytes, e = .file bytes →
    ∃ p ∈ packages, ∃ key names, packageKey p = .ok key ∧ names ≠ [] ∧
      (∀ n ∈ names, IsName n) ∧ ns = key :: names ∧
      fs.read here (Path.join p.directory (Path.ofNames names)) = .ok bytes

/-- A replica is being filled in a directory, and so far only documentation of some packages has
    been put there since the file system was `fs`. -/
structure Filling (fs : FileSystem) (here : Standpoint) (dir : String) (packages : List Package)
    (base : Location) (r : Replica) (mid : FileSystem) : Prop where
  stands : Stands mid here
  directory : r.directory = dir
  documents : r.Documents
  grown : Grown (Copied fs here packages base) fs mid

/-- The path of a copy is that of the directory for copies with names added. -/
theorem join_join_ofNames (dir : String) (hkey : IsName key) (hne : names ≠ [])
    (hnames : ∀ n ∈ names, IsName n) :
    Path.join (Path.join dir key) (Path.ofNames names) =
      Path.join dir (Path.ofNames (key :: names)) := by
  rw [Path.join_join dir hkey (Path.isAbsolute_ofNames hnames)]
  obtain ⟨n, ns, rfl⟩ := List.exists_cons_of_ne_nil hne
  rw [Path.ofNames_cons_cons]

/-- A file is copied to the same names below the directory for the copies of its package, and the
    directory that it lies in there is made first. -/
theorem copyOne_join_ofNames (here : Standpoint) (source dir : String) {front : List String}
    {last : String} (hkey : IsName key) (hfront : ∀ n ∈ front, IsName n) (hlast : IsName last) :
    copyOne here source (Path.join dir key) (Path.ofNames (front ++ [last])) = (do
      FileSystem.makeDirectories here (Path.join dir (Path.ofNames (key :: front)))
      FileSystem.copy here (Path.join source (Path.ofNames (front ++ [last])))
        (Path.join dir (Path.ofNames (key :: (front ++ [last]))))) := by
  have hall : ∀ n ∈ key :: front, IsName n := List.forall_mem_cons.mpr ⟨hkey, hfront⟩
  unfold copyOne
  simp only
  rw [join_join_ofNames dir hkey (by simp) (Path.isName_of_mem_concat hfront hlast),
    ← List.cons_append, FileSystem.parent_join_concat dir (by simp) hall hlast]

namespace Fresh

variable (h : Fresh fs here dir top base) (hgrown : Grown (Copied fs here packages base) fs mid)

include h hgrown

/-- The directory stays where it is. -/
theorem find?_eq : mid.find? here dir = .ok (base, .directory) :=
  hgrown.find?_directory h.found

theorem linkFree : LinkFree mid base := fun ns t => hgrown.not_link (h.links ns) t

/-- **Nothing of the copies is seen from the project.** -/
theorem alike (htop : IsNormal top) : Alike fs mid here top := by
  refine Package.alike_of_passes htop (fun path l hpath hl => ?_)
  have hout := h.apart path l hpath hl
  constructor
  · rcases hgrown.at?_eq_or l with heq | ⟨e, -, ns, -, rfl, -⟩
    · exact heq
    · exact absurd (List.prefix_append base ns) hout
  · refine hgrown.names_eq ?_
    rintro l' e ⟨ns, hne, rfl, -⟩ hlast
    rw [List.dropLast_append_of_ne_nil hne] at hlast
    exact hout ⟨ns.dropLast, hlast⟩

/-- **A copy holds the bytes of its file.** What is found in the place of a copy are the bytes that
    the file has, if no other package has the same key. -/
theorem read_eq (htop : IsNormal top) (hbelow : ∀ q ∈ packages, IsBelow top q.directory)
    (hkeys : ∀ q ∈ packages, packageKey q = .ok key → q = p) (hkey : packageKey p = .ok key)
    (hne : names ≠ []) (hnames : ∀ n ∈ names, IsName n) {bytes : ByteArray}
    (hread : mid.read here (Path.join (Path.join dir key) (Path.ofNames names)) = .ok bytes) :
    mid.read here (Path.join p.directory (Path.ofNames names)) = .ok bytes := by
  have hname := isName_of_packageKey hkey
  have hall : ∀ n ∈ key :: names, IsName n := by
    intro n hn
    rcases List.mem_cons.mp hn with rfl | hn
    · exact hname
    · exact hnames n hn
  rw [join_join_ofNames dir hname hne hnames] at hread
  obtain ⟨l, hl⟩ := FileSystem.read_eq_ok_iff.mp hread
  obtain ⟨hresolve, hat⟩ := FileSystem.find?_eq_ok_iff.mp hl
  obtain rfl := (h.linkFree hgrown).eq_of_resolve_join (h.find?_eq hgrown) (by simp) hall hresolve
  -- The directory was empty, so the file there is the copy of some file.
  rcases hgrown.at?_eq_or (base ++ key :: names) with heq | ⟨e, he, ns, -, hns, hcopied⟩
  · rw [hat] at heq
    exact absurd heq.symm (h.empty _ bytes)
  · rw [hat, Option.some.injEq] at he
    obtain ⟨q, hq, key', names', hkey', -, -, rfl, hsource⟩ := hcopied bytes he.symm
    obtain ⟨rfl, rfl⟩ := List.cons.inj (List.append_cancel_left hns)
    -- Only the package itself has its key.
    obtain rfl := hkeys q hq hkey'
    rw [(h.alike hgrown htop).read_eq ((hbelow q hq).join_ofNames hne hnames)]
    exact hsource

end Fresh

namespace Fresh

variable (h : Fresh fs here dir top base) (htop : IsNormal top)

include h htop

/-- Copying a file of a package puts its bytes in the place of its copy, and directories. -/
theorem maintains_copyOne (hp : p ∈ packages) (hbelow : IsBelow top p.directory)
    (hkey : packageKey p = .ok key) (hne : names ≠ []) (hnames : ∀ n ∈ names, IsName n) :
    Maintains (Grown (Copied fs here packages base) fs)
      (copyOne here p.directory (Path.join dir key) (Path.ofNames names)) := by
  obtain ⟨front, last, rfl⟩ : ∃ front last, names = front ++ [last] :=
    ⟨names.dropLast, names.getLast hne, (List.dropLast_concat_getLast hne).symm⟩
  have hname := isName_of_packageKey hkey
  have hfront : ∀ n ∈ front, IsName n := fun n hn => hnames n (by simp [hn])
  have hall : ∀ n ∈ key :: (front ++ [last]), IsName n := List.forall_mem_cons.mpr ⟨hname, hnames⟩
  rw [copyOne_join_ofNames here p.directory dir hname hfront (hnames last (by simp))]
  -- First the directory of the copy is made, and then the file is copied into it.
  refine Maintains.bind ?_ (fun _ => ?_)
  · refine FileSystem.maintains_makeDirectories_inside (fun mid hmid => h.find?_eq hmid)
      (fun mid hmid => h.linkFree hmid) ?_ (by simp) (List.forall_mem_cons.mpr ⟨hname, hfront⟩)
    intro mid ns hmid hns hnone
    exact .directory hmid hnone ⟨ns, hns, rfl, by simp⟩
  · refine FileSystem.maintains_copy (fun mid loc bytes hmid hread hloc hdir => ?_)
    obtain rfl := (h.linkFree hmid).eq_of_resolve_join (h.find?_eq hmid) (by simp) hall hloc
    rw [(h.alike hmid htop).read_eq (hbelow.join_ofNames hne hnames)] at hread
    refine .file hmid ?_ ⟨key :: (front ++ [last]), by simp, rfl, ?_⟩
    · rintro (_ | b | t) he
      · exact absurd he hdir
      · exact ⟨b, rfl⟩
      · exact absurd he (h.linkFree hmid _ t)
    · rintro b hb
      obtain rfl := Entry.file.inj hb
      exact ⟨p, hp, key, _, hkey, hne, hnames, rfl, hread⟩

theorem maintains_copyAll (hp : p ∈ packages) (hbelow : IsBelow top p.directory)
    (hkey : packageKey p = .ok key) (hfiles : ∀ f ∈ files, IsDocsFile f) :
    Maintains (Grown (Copied fs here packages base) fs)
      (copyAll here p.directory (Path.join dir key) files) := by
  refine Docs.maintains_copyAll (fun f hf => ?_)
  obtain ⟨names, hne, hnames, rfl, -⟩ := hfiles f hf
  exact h.maintains_copyOne htop hp hbelow hkey hne hnames

/-- One package more: its documentation is put into the directory, and nothing else. -/
theorem copyPackage {r r' : Replica} {mid' : FileSystem} (hp : p ∈ packages)
    (hbelow : IsBelow top p.directory) (hr : Filling fs here dir packages base r mid)
    (hcopy : r.copyPackage mid here p = .ok (files, r', mid')) :
    Filling fs here dir packages base r' mid' := by
  have hstands := Replica.stands_of_copyPackage hr.stands hcopy
  have hdocuments := hr.documents.copyPackage hr.stands.files hcopy
  obtain ⟨key, hkey, ⟨-, rfl, rfl⟩ | ⟨-, hdocs, rfl, hbehind⟩⟩ := Replica.copyPackage_cases hcopy
  · exact hr
  · refine ⟨hstands, hr.directory, hdocuments, ?_⟩
    rw [hbehind, hr.directory]
    exact h.maintains_copyAll htop hp hbelow hkey
      (fun f hf => isDocsFile_of_mem_docsOf hr.stands.files hdocs hf) mid hr.grown

/-- All packages of a project, one after another. -/
theorem copyPackages (hbelow : ∀ p ∈ packages, IsBelow top p.directory) (hfs : Stands fs here) :
    Filling fs here dir packages base
      (Replica.copyPackages here 0 (Replica.new dir) fs packages).2.1
      (Replica.copyPackages here 0 (Replica.new dir) fs packages).2.2 :=
  Replica.copyPackages_induction (J := Filling fs here dir packages base)
    (fun _ _ p _ _ _ hp hr hcopy => h.copyPackage htop hp (hbelow p hp) hr hcopy)
    0 (Replica.new dir) fs ⟨hfs, rfl, Replica.documents_new dir, .same⟩

end Fresh

/-! ### Directories that were not used before -/

/-- A directory for copies is absent or empty, and once it has been made no path below a project
    comes by it or by what is inside, through links or without. The directories of packages are
    among these paths (`Package.IsListed.isBelow`). -/
def IsFree (fs : FileSystem) (here : Standpoint) (dir top : String) : Prop :=
  let made := behind (makeDirectories here dir) fs
  ∃ base, made.find? here dir = .ok (base, .directory) ∧
    (∀ ns, ns ≠ [] → fs.at? (base ++ ns) = none) ∧
    ∀ path l, IsBelow top path → Passes made [] (Path.pieces path) l → ¬ base <+: l

/-- A directory for copies that was absent or empty is fresh once it has been made. -/
theorem IsFree.fresh (h : IsFree fs here dir top) :
    ∃ base, Fresh (behind (makeDirectories here dir) fs) here dir top base := by
  obtain ⟨base, hfound, hempty, hapart⟩ := h
  have hmade : Grown (fun _ e => e = .directory) fs (behind (makeDirectories here dir) fs) :=
    FileSystem.maintains_grown_makeDirectories fs .same
  have hbase := (FileSystem.find?_eq_ok_iff.mp hfound).2
  -- Nothing but directories has been made, so whatever else is there was there before.
  have honly : ∀ ns e, (behind (makeDirectories here dir) fs).at? (base ++ ns) = some e →
      e = .directory := by
    intro ns e he
    by_cases hns : ns = []
    · subst hns
      rw [List.append_nil, hbase] at he
      exact (Option.some.inj he).symm
    · rcases hmade.at?_eq_or (base ++ ns) with heq | ⟨e', he', rfl⟩
      · rw [heq, hempty ns hns] at he
        simp at he
      · rw [he, Option.some.injEq] at he'
        exact he'
  refine ⟨base, hfound, ?_, ?_, hapart⟩
  · intro ns t he
    exact absurd (honly ns _ he) (by simp)
  · intro ns bytes he
    exact absurd (honly ns _ he) (by simp)

/-- Where there are no links, a directory for copies that is absent or empty is free if it neither
    lies in the project nor the other way round. -/
theorem isFree_of_linkFree (hlinks : LinkFree fs [])
    (hfound : (behind (makeDirectories here dir) fs).find? here dir = .ok (base, .directory))
    (hempty : ∀ ns, ns ≠ [] → fs.at? (base ++ ns) = none) (htop : IsNormal top)
    (hout : ¬ base <+: Path.normalNames top) (hin : ¬ Path.normalNames top <+: base) :
    IsFree fs here dir top := by
  have hmade : Grown (fun _ e => e = .directory) fs (behind (makeDirectories here dir) fs) :=
    FileSystem.maintains_grown_makeDirectories fs .same
  have hfree : LinkFree (behind (makeDirectories here dir) fs) [] :=
    fun ns t => hmade.not_link (hlinks ns) t
  refine ⟨base, hfound, hempty, ?_⟩
  intro path l hpath hl hbase
  have hnormal := hpath.isNormal htop
  obtain ⟨ns, hns, rfl⟩ := hpath
  -- Whatever the path comes by says the names of the project first.
  have hnames : l <+: Path.normalNames top ++ ns := by
    obtain ⟨front, hfront, rfl⟩ :=
      hfree.exists_prefix_of_passes (fun p hp => hnormal.isName_of_mem_pieces hp) hl
    rw [← Package.normalNames_extend top hns, ← hnormal.parts_eq]
    exact hfront
  rcases List.prefix_or_prefix_of_prefix (hbase.trans hnames) (List.prefix_append _ ns) with h | h
  · exact hout h
  · exact hin h

/-- **Copies hold the bytes of their files.** Once a replica has been filled in a directory that was
    not used before, the copies that are found there have the bytes of the files, if no two packages
    have the same key. -/
theorem IsFree.read_copy {root : String} {summary : Summary} {r : Replica}
    (h : IsFree fs here dir top) (hfs : Stands fs here) (htop : here.absolute root = .ok top)
    (hfill : outcome ((Replica.new dir).fill here root) fs = (.ok (summary, r), mid))
    (hkeys : ∀ p q, IsListed mid here top p → IsListed mid here top q → ∀ key,
      packageKey p = .ok key → packageKey q = .ok key → p = q)
    (hp : IsListed mid here top p) (hkey : packageKey p = .ok key) {f : String}
    (hf : f ∈ (r.memo.lookup key).getD []) :
    r.directory = dir ∧ ∃ names, names ≠ [] ∧ (∀ n ∈ names, IsName n) ∧ f = Path.ofNames names ∧
      ∀ bytes, mid.read here (Path.join (Path.join dir key) f) = .ok bytes →
        mid.read here (Path.join p.directory f) = .ok bytes := by
  obtain ⟨base, hfresh⟩ := h.fresh
  have hnormal : IsNormal top := Package.isNormal_of_absolute htop
  have hmade : Stands (behind (makeDirectories here dir) fs) here :=
    FileSystem.sound_makeDirectories fs hfs
  obtain ⟨top', packages, htop', hscan, hr, hmid⟩ := Replica.fill_cases hfill
  obtain rfl : top = top' := Except.ok.inj (htop.symm.trans htop')
  rw [show (Replica.new dir).directory = dir from rfl] at hscan hr hmid
  have hbelow : ∀ q ∈ packages, IsBelow top q.directory :=
    fun q hq => (Package.isListed_of_mem_scan hscan hq).isBelow hmade.files hnormal
  have hfilling := hfresh.copyPackages hnormal hbelow hmade
  rw [← hr, ← hmid] at hfilling
  -- The packages are those that were there before anything was copied.
  rw [← (hfresh.alike hfilling.grown hnormal).scan_eq hmade.files ""] at hscan
  simp only [Package.isListed_iff hscan] at hkeys hp
  obtain ⟨files, hfiles, hmem⟩ : ∃ files, r.memo.lookup key = some files ∧ f ∈ files := by
    rcases hlook : r.memo.lookup key with _ | files
    · rw [hlook] at hf
      simp at hf
    · exact ⟨files, rfl, by simpa [hlook] using hf⟩
  obtain ⟨names, hne, hnames, rfl, -⟩ := hfilling.documents key files hfiles f hmem
  refine ⟨hfilling.directory, names, hne, hnames, rfl, fun bytes hread => ?_⟩
  exact hfresh.read_eq hfilling.grown hnormal hbelow
    (fun q hq hq' => hkeys q p hq hp key hq' hkey) hkey hne hnames hread

end PackageAtlas.Docs
