import Mathlib.Data.List.Infix
import Mathlib.Data.List.Nodup
import PackageAtlas.Proofs.FileSystem.Listing
import PackageAtlas.Proofs.Package.Registry

namespace PackageAtlas.Package

open FileSystem (WellFormed)
open PackageAtlas.Path (IsName IsNormal)
open Text (WideText holdsList)

/-!
# The catalogue of installed packages

What the catalogue of a project lists, said by way of the places where packages may lie, and what
names mean in it.

* `Slot`, `slots`: the places, in the order in which they are looked at;
* `installed`, `candidates_eq_installed`: the packages in these places;
* `firstByName_eq_firsts`: a catalogue leaves out what has the name of something before it;
* `catalogue_lists_first_of_each_name`: all that a catalogue is;
* `scanWide`, `findWide?`: catalogues and meanings for any wide text;
* `meantWide?_eq_head?` and others: a name means what the catalogue lists for it.
-/

variable {fs : FileSystem} {here : Standpoint} {top dir : String} {p : Package}

/-! ### Entries in order -/

/-- The entries of the directory that a path leads to; none if it leads to no directory. -/
def entries (fs : FileSystem) (here : Standpoint) (dir : String) : List String :=
  (fs.list? here dir).getD []

/-- Entries are listed in the order of their code points. -/
theorem pairwise_entries (fs : FileSystem) (here : Standpoint) (dir : String) :
    (entries fs here dir).Pairwise (· ≤ ·) := by
  unfold entries FileSystem.list?
  split
  · exact FileSystem.pairwise_sortNames _
  · exact List.Pairwise.nil

theorem mem_entries_iff {name : String} :
    name ∈ entries fs here dir ↔ ∃ loc, fs.find? here dir = .ok (loc, .directory) ∧
      (fs.at? (loc ++ [name])).isSome = true := by
  unfold entries FileSystem.list?
  split
  · rename_i loc hfind
    rw [Option.getD_some, FileSystem.mem_names_iff, hfind]
    simp
  · rename_i hfind
    simp only [Option.getD_none, List.not_mem_nil, false_iff]
    rintro ⟨loc, hloc, -⟩
    exact hfind loc hloc

/-! ### Places of packages -/

/-- A directory in which a package may lie, with the name for one that declares none. -/
structure Slot where
  directory : String
  fallback : String
deriving Repr, DecidableEq

/-- The places that an entry of a dependency directory stands for: a scope stands for its own
    entries. -/
def slotsAt (fs : FileSystem) (here : Standpoint) (dir name : String) : List Slot :=
  if isScope name then
    (entries fs here (Path.join dir name)).map (fun sub =>
      ⟨Path.join (Path.join dir name) sub, name ++ "/" ++ sub⟩)
  else [⟨Path.join dir name, name⟩]

/-- The places in dependency directories, in order; what is hidden there is no place. -/
def slots (fs : FileSystem) (here : Standpoint) (dirs : List String) : List Slot :=
  dirs.flatMap (fun dir =>
    ((entries fs here dir).filter (fun name => !isHidden name)).flatMap (slotsAt fs here dir))

/-- Whether there is a manifest in a place. -/
def hasManifest (fs : FileSystem) (here : Standpoint) (slot : Slot) : Bool :=
  fs.exists? here (Path.join slot.directory manifestName)

/-- The text that the manifest in a place has under a key: it must be a record, and the text must
    not be empty. -/
def declared? (fs : FileSystem) (here : Standpoint) (slot : Slot) (key : String) :
    Option WideText := do
  let manifest ← readManifest fs here (Path.join slot.directory manifestName)
  (← manifest.get? key).text?

/-- The package in a place: what it does not declare stands in. -/
def packageAt (fs : FileSystem) (here : Standpoint) (slot : Slot) : Package where
  name := (declared? fs here slot "name").getD (WideText.ofString slot.fallback)
  version := (declared? fs here slot "version").getD unknownVersion
  directory := slot.directory

/-- The package in a place, if there is a manifest. -/
def installedAt? (fs : FileSystem) (here : Standpoint) (slot : Slot) : Option Package :=
  if hasManifest fs here slot then some (packageAt fs here slot) else none

/-- The packages in the places with a manifest. -/
def installed (fs : FileSystem) (here : Standpoint) (dirs : List String) : List Package :=
  (slots fs here dirs).filterMap (installedAt? fs here)

/-- What lies in a directory is the package in that place. -/
theorem inDirectory?_eq (hdir : IsNormal dir) (fallback : String) :
    inDirectory? fs here dir fallback = installedAt? fs here ⟨dir, fallback⟩ := by
  have hdeclared : ∀ key,
      (((readManifest fs here (Path.join dir manifestName)).getD .null).get? key).bind Value.text? =
        declared? fs here ⟨dir, fallback⟩ key := by
    intro key
    unfold declared?
    rcases readManifest fs here (Path.join dir manifestName) with _ | manifest <;> rfl
  unfold inDirectory?
  simp only [hdeclared, hdir.normalize_eq]
  rfl

theorem entries_eq_nil (h : fs.isDirectory here dir = false) : entries fs here dir = [] := by
  unfold FileSystem.isDirectory at h
  unfold entries FileSystem.list?
  split
  · rename_i hfind
    simp [hfind] at h
  · rfl

/-- The packages of an entry that is not hidden are those in its places. -/
theorem inEntry_eq (hfs : fs.WellFormed) (hdir : IsNormal dir) {name : String}
    (hname : IsName name) (hshown : isHidden name = false) :
    inEntry fs here dir name = (slotsAt fs here dir name).filterMap (installedAt? fs here) := by
  have hpath : IsNormal (Path.join dir name) := hdir.join hname
  unfold inEntry slotsAt
  rw [if_neg (by simp [hshown])]
  split
  · -- A scope is looked into where it is a directory; elsewhere it has no entries.
    rw [List.filterMap_map]
    split
    · refine List.filterMap_congr (fun sub hsub => ?_)
      rw [Function.comp_apply, inDirectory?_eq (hpath.join (isName_of_mem_list? hfs hsub))]
    · rename_i hno
      rw [entries_eq_nil (Bool.eq_false_iff.mpr hno)]
      rfl
  · rw [List.filterMap_cons, List.filterMap_nil, inDirectory?_eq hpath]
    rcases installedAt? fs here ⟨Path.join dir name, name⟩ with _ | p <;> rfl

/-- The packages of a dependency directory are those in the places of what is not hidden in it. -/
theorem inDependencies_eq (hfs : fs.WellFormed) (hdir : IsNormal dir) :
    inDependencies fs here dir =
      (((entries fs here dir).filter (fun name => !isHidden name)).flatMap
        (slotsAt fs here dir)).filterMap (installedAt? fs here) := by
  have hnames : ∀ name ∈ entries fs here dir, IsName name :=
    fun name hname => isName_of_mem_list? hfs hname
  show (entries fs here dir).flatMap (inEntry fs here dir) = _
  -- Entry by entry: one that is hidden has no packages and no places.
  revert hnames
  induction entries fs here dir with
  | nil => exact fun _ => rfl
  | cons name names ih =>
    intro hnames
    have hrest := ih (fun n hn => hnames n (List.mem_cons_of_mem name hn))
    rw [List.flatMap_cons, hrest]
    by_cases hhidden : isHidden name = true
    · rw [List.filter_cons_of_neg (by simp [hhidden])]
      simp [inEntry, hhidden]
    · rw [List.filter_cons_of_pos (by simp [hhidden]), List.flatMap_cons, List.filterMap_append,
        inEntry_eq hfs hdir (hnames name List.mem_cons_self) (Bool.eq_false_iff.mpr hhidden)]

/-- Everything that may be a package of a project is what lies in its places. -/
theorem candidates_eq_installed (hfs : fs.WellFormed) (htop : IsNormal top) {dirs : List String}
    (hdirs : dependencyDirectories fs here top = .ok dirs) :
    candidates fs here top = .ok (installed fs here dirs) := by
  unfold candidates
  rw [hdirs]
  refine congrArg Except.ok ?_
  unfold installed slots
  rw [List.filterMap_flatMap]
  refine List.flatMap_congr (fun dir hdir => inDependencies_eq hfs ?_)
  exact of_mem_dependencyDirectories hfs htop (fun _ _ hdir hname => hdir.join hname) hdirs hdir

/-! ### One package for each name -/

/-- The packages that have the name of none before them. -/
def firsts (ps : List Package) : List Package :=
  (ps.zipIdx.filter (fun e => (ps.take e.2).all (fun q => q.name != e.1.name))).map Prod.fst

theorem firsts_concat (ps : List Package) (p : Package) :
    firsts (ps ++ [p]) = firsts ps ++ if p.name ∈ ps.map Package.name then [] else [p] := by
  have hbefore : ∀ e ∈ ps.zipIdx, (ps ++ [p]).take e.2 = ps.take e.2 := fun e he =>
    List.take_append_of_le_length (List.snd_lt_of_mem_zipIdx he).le
  have hall : ps.all (fun q => q.name != p.name) = !decide (p.name ∈ ps.map Package.name) := by
    rw [Bool.eq_iff_iff, List.all_eq_true, Bool.not_eq_true', decide_eq_false_iff_not, List.mem_map]
    simp only [bne_iff_ne, ne_eq, not_exists, not_and]
  unfold firsts
  rw [List.zipIdx_append, List.filter_append, List.map_append]
  congr 1
  · exact congrArg _ (List.filter_congr (fun e he => by rw [hbefore e he]))
  · rw [Nat.zero_add, List.zipIdx_singleton, List.filter_singleton, List.take_left, hall]
    by_cases hp : p.name ∈ ps.map Package.name <;> simp [hp]

/-- A catalogue leaves out what has the name of something before it. -/
theorem firstByName_eq_firsts (ps : List Package) : firstByName [] ps = firsts ps := by
  induction ps using List.reverseRecOn with
  | nil => rfl
  | append_singleton ps p ih =>
    rw [firstByName_eq_firstBy] at ih ⊢
    simp [firstBy_concat, firsts_concat, ih]

theorem nodup_names_firstByName (seen : List WideText) (ps : List Package) :
    ((firstByName seen ps).map Package.name).Nodup := by
  rw [firstByName_eq_firstBy]
  exact List.pairwise_map.mpr (pairwise_firstBy _ seen ps)

/-- Without a text to look for, a catalogue is of all names. -/
theorem scan_empty_eq_ok_iff {all : List Package} :
    scan fs here top "" = .ok all ↔
      ∃ found, candidates fs here top = .ok found ∧ all = firstByName [] found := by
  rw [scan_eq_ok_iff]
  refine exists_congr (fun found => and_congr_right (fun _ => ?_))
  rw [List.filter_eq_self.mpr (fun p _ => contains_empty p.name)]

theorem nodup_names_of_scan {all : List Package} (h : scan fs here top "" = .ok all) :
    (all.map Package.name).Nodup := by
  obtain ⟨found, -, rfl⟩ := scan_empty_eq_ok_iff.mp h
  exact nodup_names_firstByName [] found

/-- With a text, a catalogue is that of all names without those that do not hold it. -/
theorem scan_eq_map (fs : FileSystem) (here : Standpoint) (top part : String) :
    scan fs here top part =
      (scan fs here top "").map (fun all => all.filter (fun p => p.name.contains part)) := by
  have hall : ∀ found : List Package,
      (firstByName [] found).filter (fun p => p.name.contains "") = firstByName [] found :=
    fun found => List.filter_eq_self.mpr (fun p _ => contains_empty p.name)
  unfold scan
  rcases candidates fs here top with e | found
  · rfl
  · show Except.ok _ = Except.ok _
    rw [hall]

/-- There is no catalogue where the dependency directories cannot be looked for. -/
theorem scan_eq_error_iff {part : String} {e : FileError} :
    scan fs here top part = .error e ↔ dependencyDirectories fs here top = .error e := by
  unfold scan candidates
  rcases dependencyDirectories fs here top with e' | dirs <;>
    simp [bind, Except.bind, pure, Except.pure]

/-- **The catalogue of a project.** The places of packages are the entries of the dependency
    directories that are not hidden, in the order of their code points, where a scope stands for
    its own entries; the packages are what lies in those of them with a manifest. The catalogue is
    these packages without those whose name stands before them: names are distinct, none is lost,
    and each is that of its first package. With a text, it is what holds the text in its name. There
    is no catalogue exactly if the dependency directories cannot be looked for. -/
theorem catalogue_lists_first_of_each_name (hfs : fs.WellFormed) {root : String}
    (htop : here.absolute root = .ok top) :
    (∀ dir, (entries fs here dir).Pairwise (· ≤ ·) ∧ ∀ name, name ∈ entries fs here dir ↔
      ∃ loc, fs.find? here dir = .ok (loc, .directory) ∧
        (fs.at? (loc ++ [name])).isSome = true) ∧
    (∀ part e, scan fs here top part = .error e ↔ dependencyDirectories fs here top = .error e) ∧
    ∀ dirs, dependencyDirectories fs here top = .ok dirs →
      ∃ all, scan fs here top "" = .ok all ∧ all = firsts (installed fs here dirs) ∧
        (all.map Package.name).Nodup ∧
        (∀ p ∈ installed fs here dirs, ∃ q ∈ all, q.name = p.name) ∧
        (∀ p ∈ all, (installed fs here dirs).find? (fun q => q.name == p.name) = some p) ∧
        ∀ part, scan fs here top part = .ok (all.filter (fun p =>
          decide ((WideText.ofString part).codes <:+: p.name.codes))) := by
  refine ⟨fun dir => ⟨pairwise_entries fs here dir, fun name => mem_entries_iff⟩,
    fun part e => scan_eq_error_iff, fun dirs hdirs => ?_⟩
  -- All candidates lie in places of packages, and the first of each name is listed.
  have hscan : scan fs here top "" = .ok (firstByName [] (installed fs here dirs)) :=
    scan_empty_eq_ok_iff.mpr
      ⟨_, candidates_eq_installed hfs (isNormal_of_absolute htop) hdirs, rfl⟩
  refine ⟨_, hscan, firstByName_eq_firsts _, nodup_names_of_scan hscan, fun p hp => ?_,
    fun p hp => ?_, fun part => ?_⟩
  · rw [firstByName_eq_firstBy]
    exact exists_key_of_mem hp List.not_mem_nil
  · rw [firstByName_eq_firstBy] at hp
    exact find?_of_mem_firstBy hp
  · rw [scan_eq_map, hscan]
    refine congrArg Except.ok (List.filter_congr (fun p _ => ?_))
    rw [Bool.eq_iff_iff, decide_eq_true_iff]
    exact holdsList_iff

/-- A project with three packages, two of which declare the same name. -/
def shadowedFiles : FileSystem :=
  ⟨[(["W"], .directory), (["W", "node_modules"], .directory),
    (["W", "node_modules", "a"], .directory), (["W", "node_modules", "b"], .directory),
    (["W", "node_modules", "@s"], .directory), (["W", "node_modules", "@s", "c"], .directory),
    (["W", "node_modules", "b", "package.json"], .file "\x7b\"name\": \"z\"\x7d".toUTF8),
    (["W", "node_modules", "a", "package.json"], .file "\x7b\"name\": \"z\"\x7d".toUTF8),
    (["W", "node_modules", "@s", "c", "package.json"], .file "[]".toUTF8)]⟩

/-- A package of the projects here, none of which declares a version. -/
def undatedPackage (name directory : String) : Package :=
  ⟨WideText.ofString name, unknownVersion, directory⟩

/-- Of the packages that declare the same name, the first one is listed. -/
theorem catalogue_lists_first_of_each_name_shadowed :
    installed shadowedFiles (FileSystem.standing ["W"]) ["/W/node_modules"] =
      [undatedPackage "@s/c" "/W/node_modules/@s/c", undatedPackage "z" "/W/node_modules/a",
        undatedPackage "z" "/W/node_modules/b"] ∧
    scan shadowedFiles (FileSystem.standing ["W"]) "/W" "" =
      .ok [undatedPackage "@s/c" "/W/node_modules/@s/c",
        undatedPackage "z" "/W/node_modules/a"] := by
  have hfs : shadowedFiles.WellFormed := by decide +kernel
  have htop : (FileSystem.standing ["W"]).absolute "." = .ok "/W" := by decide +kernel
  have hdirs : dependencyDirectories shadowedFiles (FileSystem.standing ["W"]) "/W" =
      .ok ["/W/node_modules"] := by decide +kernel
  have hinstalled : installed shadowedFiles (FileSystem.standing ["W"]) ["/W/node_modules"] =
      [undatedPackage "@s/c" "/W/node_modules/@s/c", undatedPackage "z" "/W/node_modules/a",
        undatedPackage "z" "/W/node_modules/b"] := by decide +kernel
  obtain ⟨-, -, hcatalogue⟩ := catalogue_lists_first_of_each_name hfs htop
  obtain ⟨all, hscan, hfirsts, -⟩ := hcatalogue _ hdirs
  rw [hfirsts, hinstalled] at hscan
  exact ⟨hinstalled, hscan.trans (by decide +kernel)⟩

/-- A project with one package, which is hidden. -/
def hiddenFiles : FileSystem :=
  ⟨[(["W"], .directory), (["W", "node_modules"], .directory),
    (["W", "node_modules", ".h"], .directory),
    (["W", "node_modules", ".h", "package.json"], .file "\x7b\x7d".toUTF8)]⟩

/-- **What is hidden is not listed.** An entry of a dependency directory that is hidden is no
    package of the catalogue, though it has a manifest. -/
theorem catalogue_leaves_out_hidden :
    hiddenFiles.WellFormed ∧
    dependencyDirectories hiddenFiles (FileSystem.standing ["W"]) "/W" = .ok ["/W/node_modules"] ∧
    entries hiddenFiles (FileSystem.standing ["W"]) "/W/node_modules" = [".h"] ∧
    (slotsAt hiddenFiles (FileSystem.standing ["W"]) "/W/node_modules" ".h").filterMap
        (installedAt? hiddenFiles (FileSystem.standing ["W"])) =
      [undatedPackage ".h" "/W/node_modules/.h"] ∧
    scan hiddenFiles (FileSystem.standing ["W"]) "/W" "" = .ok [] := by
  decide +kernel

/-! ### What names mean -/

/-- The packages whose names hold a wide text. -/
def holding (part : WideText) (all : List Package) : List Package :=
  all.filter (fun p => holdsList part.codes p.name.codes)

/-- The package among others that a wide text means. -/
def meantWide? (name : WideText) (all : List Package) : Option Package :=
  match all.find? (fun p => p.name == name) with
  | some p => some p
  | none => all.find? (fun p => holdsList name.codes p.name.codes)

/-- The packages of a project whose names hold a wide text. -/
def scanWide (fs : FileSystem) (here : Standpoint) (top : String) (part : WideText) :
    Except FileError (List Package) :=
  (scan fs here top "").map (holding part)

/-- The package of a project that a wide text means. -/
def findWide? (fs : FileSystem) (here : Standpoint) (name : WideText) (top : String) :
    Except FileError (Option Package) :=
  (scan fs here top "").map (meantWide? name)

theorem scan_eq_scanWide (part : String) :
    scan fs here top part = scanWide fs here top (WideText.ofString part) := by
  rw [scan_eq_map]
  rfl

theorem find?_eq_findWide? (name : String) :
    find? fs here name top = findWide? fs here (WideText.ofString name) top := by
  unfold find? findWide?
  rcases scan fs here top "" with e | all <;> rfl

section Names

variable {all : List Package}

/-- The name of a package means that package, where names are distinct. -/
theorem meantWide?_of_mem (h : (all.map Package.name).Nodup) (hp : p ∈ all) :
    meantWide? p.name all = some p := by
  obtain ⟨q, hfound⟩ : ∃ q, all.find? (fun q => q.name == p.name) = some q :=
    Option.isSome_iff_exists.mp (List.find?_isSome.mpr ⟨p, hp, beq_self_eq_true p.name⟩)
  have hname : q.name = p.name := by simpa using List.find?_some hfound
  obtain rfl := List.inj_on_of_nodup_map h (List.mem_of_find?_eq_some hfound) hp hname
  rw [meantWide?, hfound]

/-- A text that is no name means the first package whose name holds it. -/
theorem meantWide?_eq_head? {name : WideText} (h : ∀ p ∈ all, p.name ≠ name) :
    meantWide? name all = (holding name all).head? := by
  have hnone : all.find? (fun p => p.name == name) = none :=
    List.find?_eq_none.mpr (fun p hp heq => h p hp (beq_iff_eq.mp heq))
  rw [meantWide?, hnone, holding, List.head?_filter]

/-- A text means nothing exactly if no name holds it. -/
theorem meantWide?_eq_none_iff (h : (all.map Package.name).Nodup) {name : WideText} :
    meantWide? name all = none ↔ holding name all = [] := by
  by_cases hother : ∀ p ∈ all, p.name ≠ name
  · rw [meantWide?_eq_head? hother, List.head?_eq_none_iff]
  · -- A package of that name is both meant and listed, as its name holds itself.
    push Not at hother
    obtain ⟨p, hp, rfl⟩ := hother
    have hlisted : p ∈ holding p.name all :=
      List.mem_filter.mpr ⟨hp, holdsList_iff.mpr List.infix_rfl⟩
    rw [meantWide?_of_mem h hp]
    simp [List.ne_nil_of_mem hlisted]

end Names

/-- A text means what it means among the packages of the catalogue. -/
theorem findWide?_eq_ok_iff {name : WideText} {found : Option Package} :
    findWide? fs here name top = .ok found ↔
      ∃ all, scan fs here top "" = .ok all ∧ found = meantWide? name all := by
  unfold findWide?
  rcases scan fs here top "" with e | all <;> simp [Except.map, eq_comm]

theorem scanWide_eq_ok_iff {part : WideText} {listed : List Package} :
    scanWide fs here top part = .ok listed ↔
      ∃ all, scan fs here top "" = .ok all ∧ listed = holding part all := by
  unfold scanWide
  rcases scan fs here top "" with e | all <;> simp [Except.map, eq_comm]

/-- Looking for a package and listing packages fail in the same way. -/
theorem findWide?_eq_error_iff {name part : WideText} {e : FileError} :
    findWide? fs here name top = .error e ↔ scanWide fs here top part = .error e := by
  unfold findWide? scanWide
  rcases scan fs here top "" with e' | all <;> simp [Except.map]

/-- The name of a package that is listed means that package. -/
theorem IsListed.findWide?_name (h : IsListed fs here top p) :
    findWide? fs here p.name top = .ok (some p) := by
  obtain ⟨all, hscan, hp⟩ := h
  exact findWide?_eq_ok_iff.mpr
    ⟨all, hscan, (meantWide?_of_mem (nodup_names_of_scan hscan) hp).symm⟩

/-- Names tell packages of a catalogue apart. -/
theorem IsListed.eq_of_name {q : Package} (hp : IsListed fs here top p)
    (hq : IsListed fs here top q) (hname : p.name = q.name) : p = q := by
  have h := hp.findWide?_name
  rw [hname, hq.findWide?_name] at h
  exact (Option.some.inj (Except.ok.inj h)).symm

/-- A text means nothing exactly if nothing is listed for it. -/
theorem findWide?_eq_none_iff {name : WideText} :
    findWide? fs here name top = .ok none ↔ scanWide fs here top name = .ok [] := by
  rw [findWide?_eq_ok_iff, scanWide_eq_ok_iff]
  refine exists_congr (fun all => and_congr_right (fun hscan => ?_))
  rw [eq_comm, meantWide?_eq_none_iff (nodup_names_of_scan hscan), eq_comm]

/-- A text that is no name means the first package that is listed for it. -/
theorem findWide?_eq_head? {name : WideText} {listed : List Package}
    (hlisted : scanWide fs here top name = .ok listed)
    (h : ∀ p, IsListed fs here top p → p.name ≠ name) :
    findWide? fs here name top = .ok listed.head? := by
  obtain ⟨all, hscan, rfl⟩ := scanWide_eq_ok_iff.mp hlisted
  refine findWide?_eq_ok_iff.mpr ⟨all, hscan, (meantWide?_eq_head? (fun p hp => ?_)).symm⟩
  exact h p ((isListed_iff hscan).mpr hp)

end PackageAtlas.Package
