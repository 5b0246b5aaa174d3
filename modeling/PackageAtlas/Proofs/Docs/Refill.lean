import PackageAtlas.Proofs.Docs.Selection
import PackageAtlas.Proofs.FileSystem.Directories
import PackageAtlas.Proofs.Package.Catalogue

namespace PackageAtlas.Docs

open FileSystem (CleanStands Grown Keeps Maintains Stands behind makeDirectories outcome splitPath)
open PackageAtlas.Path (IsClean)
open Text (WideText)

/-!
# Filling a replica again

A replica that was filled for a project remembers something about each of its packages, those
without a key apart. When it is filled again, the same packages are counted, and nothing is copied:

* `Replica.Knows`, `Replica.hasDocs`: something is remembered about a package, and that it has
  documentation;
* `Replica.copyPackages_spec`: all packages are known behind copying them, and those are counted
  that have documentation by what is remembered in the end;
* `Replica.copyPackages_of_knows`: packages that are known are counted the same way, and not copied;
* `releases`, `perm_releases`: the names and versions of packages, on which all of this depends;
* `filling_again_changes_nothing`: all of it together.
-/

variable {fs fs' : FileSystem} {here : Standpoint} {p : Package} {packages : List Package}
  {key top : String} {files : List String}

namespace Replica

variable {r r' : Replica}

/-! ### What is known about packages -/

/-- Something is remembered about a package, if it has a key. -/
def Knows (r : Replica) (p : Package) : Prop :=
  ∀ key, packageKey p = .ok key → ∃ files, r.memo.lookup key = some files

/-- A package has documentation, as far as is remembered. -/
def hasDocs (r : Replica) (p : Package) : Bool :=
  match r.docs p with
  | .ok files => !files.isEmpty
  | .error _ => false

theorem hasDocs_of_lookup (hkey : packageKey p = .ok key)
    (hlook : r.memo.lookup key = some files) : r.hasDocs p = !files.isEmpty := by
  rw [hasDocs, docs_of_lookup hkey hlook]

theorem hasDocs_of_error {e : Text.UnwritableText} (hkey : packageKey p = .error e) :
    r.hasDocs p = false := by
  rw [hasDocs, docs, hkey]
  rfl

/-- Nothing is copied of a package without a key. -/
theorem copyPackage_of_error {e : Text.UnwritableText} (hkey : packageKey p = .error e) :
    r.copyPackage fs here p = .error (.unwritable e) := by
  unfold copyPackage
  simp only [hkey, orUnwritable]
  rfl

/-! ### Copying packages -/

theorem maintains_cleanStands_copyAll {source target : String} :
    Maintains (fun fs => CleanStands fs here) (copyAll here source target files) := by
  refine maintains_copyAll (fun f _ => ?_)
  unfold copyOne
  exact Maintains.bind FileSystem.maintains_cleanStands_makeDirectories
    (fun _ => FileSystem.maintains_cleanStands_copy)

theorem cleanStands_of_copyPackage (hfs : CleanStands fs here)
    (hcopy : r.copyPackage fs here p = .ok (files, r', fs')) : CleanStands fs' here := by
  obtain ⟨key, -, ⟨-, -, rfl⟩ | ⟨-, -, -, hbehind⟩⟩ := copyPackage_cases hcopy
  · exact hfs
  · rw [hbehind]
    exact maintains_cleanStands_copyAll fs hfs

theorem grown_of_copyPackage (hfs : Stands fs here)
    (hcopy : r.copyPackage fs here p = .ok (files, r', fs')) : Grown (fun _ _ => True) fs fs' := by
  obtain ⟨key, -, ⟨-, -, rfl⟩ | ⟨-, -, -, hbehind⟩⟩ := copyPackage_cases hcopy
  · exact .same
  · rw [hbehind]
    exact grown_of_copyAll hfs rfl

theorem later_copyPackages (here : Standpoint) (cached : Nat) (r : Replica) (fs : FileSystem)
    (packages : List Package) : Later r (copyPackages here cached r fs packages).2.1 :=
  copyPackages_induction (J := fun q _ => Later r q)
    (fun _ _ _ _ _ _ _ hlater hcopy => .copyPackage hlater hcopy) cached r fs .same

/-- Copying packages only adds to a file system. -/
theorem grown_copyPackages (hfs : Stands fs here) (cached : Nat) (r : Replica)
    (packages : List Package) :
    Grown (fun _ _ => True) fs (copyPackages here cached r fs packages).2.2 :=
  (copyPackages_induction (J := fun _ mid => Stands mid here ∧ Grown (fun _ _ => True) fs mid)
    (fun _ _ _ _ _ _ _ h hcopy => ⟨stands_of_copyPackage h.1 hcopy,
      h.2.trans (grown_of_copyPackage h.1 hcopy)⟩) cached r fs ⟨hfs, .same⟩).2

/-- **What is counted.** Behind copying packages all of them are known, and those are counted that
    have documentation by what is remembered in the end. -/
theorem copyPackages_spec {cached count : Nat} (hfs : CleanStands fs here)
    (hbase : IsClean r.directory) (hdirs : ∀ p ∈ packages, IsClean p.directory)
    (h : copyPackages here cached r fs packages = (count, r', fs')) :
    count = cached + packages.countP r'.hasDocs ∧ ∀ p ∈ packages, r'.Knows p := by
  induction packages generalizing cached r fs with
  | nil =>
    obtain ⟨rfl, -⟩ := Prod.mk.inj h
    simp
  | cons p packages ih =>
    have hrest := fun q hq => hdirs q (List.mem_cons_of_mem p hq)
    rw [copyPackages] at h
    rcases hkey : packageKey p with e | key
    · rw [copyPackage_of_error hkey] at h
      obtain ⟨hcount, hknows⟩ := ih hfs hbase hrest h
      refine ⟨?_, List.forall_mem_cons.mpr ⟨fun key hown => ?_, hknows⟩⟩
      · rw [hcount, List.countP_cons_of_neg (by simp [hasDocs_of_error hkey])]
      · rw [hkey] at hown
        simp at hown
    · obtain ⟨files, r₁, fs₁, hcopy⟩ :=
        exists_copyPackage hfs hkey (hdirs p List.mem_cons_self) hbase
      rw [hcopy] at h
      simp only at h
      obtain ⟨hcount, hknows⟩ := ih (cleanStands_of_copyPackage hfs hcopy)
        (by rw [directory_of_copyPackage hcopy]; exact hbase) hrest h
      -- What is remembered of the package stays remembered while the others are copied.
      have hlater := later_copyPackages here (if files.isEmpty then cached else cached + 1) r₁ fs₁
        packages
      rw [h] at hlater
      have hlook := hlater.lookup (lookup_self_of_copyPackage hkey hcopy)
      refine ⟨?_, List.forall_mem_cons.mpr ⟨fun own hown => ?_, hknows⟩⟩
      · rw [hcount, List.countP_cons, hasDocs_of_lookup hkey hlook]
        cases files.isEmpty
        · simp only [Bool.not_false, if_true, Bool.false_eq_true, if_false]
          omega
        · simp
      · obtain rfl := Except.ok.inj (hkey.symm.trans hown)
        exact ⟨files, hlook⟩

/-- **Packages that are known are not copied**, and counted by what is remembered. -/
theorem copyPackages_of_knows (h : ∀ p ∈ packages, r.Knows p) (cached : Nat) :
    copyPackages here cached r fs packages = (cached + packages.countP r.hasDocs, r, fs) := by
  induction packages generalizing cached with
  | nil => rfl
  | cons p packages ih =>
    obtain ⟨hp, hrest⟩ := List.forall_mem_cons.mp h
    rw [copyPackages]
    -- A package without a key is passed over, and the files of any other one are remembered.
    rcases hkey : packageKey p with e | key
    · rw [copyPackage_of_error hkey, List.countP_cons_of_neg (by simp [hasDocs_of_error hkey])]
      exact ih hrest cached
    · obtain ⟨files, hlook⟩ := hp key hkey
      rw [copyPackage_of_lookup hkey hlook]
      simp only
      rw [ih hrest, List.countP_cons, hasDocs_of_lookup hkey hlook]
      cases files.isEmpty
      · simp only [Bool.not_false, if_true, Bool.false_eq_true, if_false, Prod.mk.injEq, and_true]
        omega
      · simp

/-- So it is when a replica is filled with packages that are known. -/
theorem fill_of_knows {root : String} {made : FileSystem} (htop : here.absolute root = .ok top)
    (hmade : outcome (makeDirectories here r.directory) fs = (.ok (), made))
    (hscan : Package.scan made here top "" = .ok packages) (h : ∀ p ∈ packages, r.Knows p) :
    outcome (r.fill here root) fs =
      (.ok (⟨packages.length, packages.countP r.hasDocs⟩, r), made) := by
  rw [fill_eq_ok_iff]
  refine ⟨top, made, packages, htop, hmade, hscan, by simp only, ?_⟩
  rw [copyPackages_of_knows h, Nat.zero_add]

end Replica

/-! ### Names and versions -/

/-- The names and versions of packages. -/
def releases (packages : List Package) : List (WideText × WideText) :=
  packages.map (fun p => (p.name, p.version))

theorem nodup_releases {packages : List Package}
    (hscan : Package.scan fs here top "" = .ok packages) : (releases packages).Nodup := by
  refine List.Nodup.of_map Prod.fst ?_
  rw [releases, List.map_map]
  exact Package.nodup_names_of_scan hscan

/-- The name and version of a package decide whether it has documentation. -/
theorem countP_hasDocs (r : Replica) (packages : List Package) :
    packages.countP r.hasDocs =
      (releases packages).countP (fun release => r.hasDocs ⟨release.1, release.2, ""⟩) := by
  rw [releases, List.countP_map]
  rfl

/-- They also decide what is known about it. -/
theorem knows_of_mem_releases {r : Replica} {packages : List Package}
    (h : ∀ q ∈ packages, r.Knows q) (hp : (p.name, p.version) ∈ releases packages) :
    r.Knows p := by
  obtain ⟨q, hq, hsame⟩ := List.mem_map.mp hp
  obtain ⟨hname, hversion⟩ := Prod.mk.inj hsame
  intro key hkey
  refine h q hq key ?_
  rw [← hkey, packageKey, packageKey, hname, hversion]

section SameReleases

variable {here' : Standpoint} {top' : String} {packages packages' : List Package}
  (hscan : Package.scan fs here top "" = .ok packages)
  (hscan' : Package.scan fs' here' top' "" = .ok packages')
  (h : ∀ release, release ∈ releases packages' ↔ release ∈ releases packages)

include h

theorem knows_of_same {r : Replica} (hknows : ∀ p ∈ packages, r.Knows p) :
    ∀ p ∈ packages', r.Knows p :=
  fun p hp => knows_of_mem_releases hknows ((h _).mp (List.mem_map.mpr ⟨p, hp, rfl⟩))

include hscan hscan'

/-- The same names and versions are listed as often, in whatever order. -/
theorem perm_releases : (releases packages').Perm (releases packages) :=
  (List.perm_ext_iff_of_nodup (nodup_releases hscan') (nodup_releases hscan)).mpr h

theorem length_eq_of_same : packages'.length = packages.length := by
  simpa [releases] using (perm_releases hscan hscan' h).length_eq

theorem countP_eq_of_same (r : Replica) :
    packages'.countP r.hasDocs = packages.countP r.hasDocs := by
  rw [countP_hasDocs, countP_hasDocs, (perm_releases hscan hscan' h).countP_eq]

end SameReleases

/-! ### All of it -/

/-- **Filling again.** When a replica was filled for a project, all packages are counted, and no more
    of them have documentation. Whenever it is filled again, for packages of the same names and
    versions, wherever they lie, in whatever order, and whatever has become of their documentation,
    the same is told and the same is remembered, and nothing is made but directories in which the
    replica lies. Nothing at all is made while the directory of the replica is there; it stays there
    as long as no directory and no link is taken away, unless its path ends with a dot. -/
theorem filling_again_changes_nothing {r r' : Replica} {fs fs' : FileSystem} {here : Standpoint}
    {root : String} {summary : Summary} (hfs : CleanStands fs here)
    (hfill : outcome (r.fill here root) fs = (.ok (summary, r'), fs')) :
    ∃ top made packages, here.absolute root = .ok top ∧
      outcome (makeDirectories here r.directory) fs = (.ok (), made) ∧
      Package.scan made here top "" = .ok packages ∧
      summary.cached ≤ summary.total ∧ summary.total = packages.length ∧
      (∀ here₂ fs₂ top₂ made₂ packages₂, here₂.absolute root = .ok top₂ →
        outcome (makeDirectories here₂ r.directory) fs₂ = (.ok (), made₂) →
        Package.scan made₂ here₂ top₂ "" = .ok packages₂ →
        (∀ release, release ∈ releases packages₂ ↔ release ∈ releases packages) →
        outcome (r'.fill here₂ root) fs₂ = (.ok (summary, r'), made₂) ∧
        Grown (fun _ e => e = .directory) fs₂ made₂ ∧ summary.total = packages₂.length) ∧
      (∀ fs₂ packages₂, Stands fs₂ here → fs₂.isDirectory here r.directory = true →
        Package.scan fs₂ here top "" = .ok packages₂ →
        (∀ release, release ∈ releases packages₂ ↔ release ∈ releases packages) →
        outcome (r'.fill here root) fs₂ = (.ok (summary, r'), fs₂)) ∧
      ((splitPath r.directory).2 ≠ "." → ∀ fs₂, Keeps fs' fs₂ →
        fs₂.isDirectory here r.directory = true) := by
  obtain ⟨top, made, packages, htop, hmade, hscan, htotal, hcopied⟩ :=
    Replica.fill_eq_ok_iff.mp hfill
  have hstands : CleanStands made here :=
    FileSystem.behind_of_outcome hmade ▸ FileSystem.maintains_cleanStands_makeDirectories fs hfs
  have hdirs : ∀ p ∈ packages, IsClean p.directory := by
    intro p hp
    obtain ⟨loc, hloc⟩ := (Package.isListed_of_mem_scan hscan hp).exists_find? hstands.files
      (Package.isNormal_of_absolute htop)
    exact (FileSystem.find?_directory_iff_leads.mp hloc).2.1
  obtain ⟨hcached, hknows⟩ := Replica.copyPackages_spec hstands
    (FileSystem.begins_of_makeDirectories hmade).2.1 hdirs hcopied
  rw [Nat.zero_add] at hcached
  -- Another run finds packages of the same names and versions, and all of them are known by now.
  have hagain : ∀ here₂ fs₂ top₂ made₂ packages₂, here₂.absolute root = .ok top₂ →
      outcome (makeDirectories here₂ r.directory) fs₂ = (.ok (), made₂) →
      Package.scan made₂ here₂ top₂ "" = .ok packages₂ →
      (∀ release, release ∈ releases packages₂ ↔ release ∈ releases packages) →
      outcome (r'.fill here₂ root) fs₂ = (.ok (summary, r'), made₂) := by
    intro here₂ fs₂ top₂ made₂ packages₂ htop₂ hmade₂ hscan₂ hsame
    rw [← Replica.directory_of_fill hfill] at hmade₂
    rw [Replica.fill_of_knows htop₂ hmade₂ hscan₂ (knows_of_same hsame hknows),
      length_eq_of_same hscan hscan₂ hsame, countP_eq_of_same hscan hscan₂ hsame, ← htotal,
      ← hcached]
  refine ⟨top, made, packages, htop, hmade, hscan, ?_, htotal, ?_, ?_, ?_⟩
  · rw [hcached, htotal]
    exact List.countP_le_length
  · intro here₂ fs₂ top₂ made₂ packages₂ htop₂ hmade₂ hscan₂ hsame
    have hgrown : Grown (fun _ e => e = .directory) fs₂ made₂ :=
      FileSystem.behind_of_outcome hmade₂ ▸ FileSystem.maintains_grown_makeDirectories fs₂ .same
    exact ⟨hagain here₂ fs₂ top₂ made₂ packages₂ htop₂ hmade₂ hscan₂ hsame, hgrown,
      htotal.trans (length_eq_of_same hscan hscan₂ hsame).symm⟩
  · intro fs₂ packages₂ hfs₂ hdir hscan₂ hsame
    exact hagain here fs₂ top fs₂ packages₂ htop
      (FileSystem.makeDirectories_of_isDirectory hfs₂ hmade hdir) hscan₂ hsame
  · intro hdot fs₂ hkept
    have hgrown := Replica.grown_copyPackages hstands.toStands 0 r packages
    rw [hcopied] at hgrown
    exact hkept.isDirectory
      (hgrown.keeps.isDirectory (FileSystem.isDirectory_of_makeDirectories hdot hmade))

/-- The project with files of two spellings, with a package whose name cannot be written. -/
def unwritableFiles : FileSystem :=
  (spelledFiles.put ["W", "node_modules", "b"] .directory).put
    ["W", "node_modules", "b", "package.json"] (.file "\x7b\"name\": \"\\ud800\"\x7d".toUTF8)

/-- The same project, where the directory for copies is empty and a file was taken away. -/
def plainerFiles : FileSystem :=
  (unwritableFiles.erase ["W", "node_modules", "a", "D", "X.md"]).put ["W", "c"] .directory

/-- One of two packages has documentation, of which a file cannot be copied, and the other one has no
    key. It is the same when a file and all copies have been taken away, and they are not copied
    again. -/
theorem filling_again_changes_nothing_unwritable :
    ∃ r' fs', outcome ((Replica.new "/W/c").fill danglingHere "/W") unwritableFiles =
        (.ok (⟨2, 1⟩, r'), fs') ∧
      outcome (r'.fill danglingHere "/W") plainerFiles = (.ok (⟨2, 1⟩, r'), plainerFiles) := by
  have hfs : CleanStands unwritableFiles danglingHere :=
    ⟨⟨by decide +kernel, by decide +kernel, by decide +kernel⟩, by decide +kernel⟩
  have hrun : (outcome ((Replica.new "/W/c").fill danglingHere "/W") unwritableFiles).1.map
      Prod.fst = .ok ⟨2, 1⟩ := by decide +kernel
  rcases hfill : outcome ((Replica.new "/W/c").fill danglingHere "/W") unwritableFiles with
    ⟨e | ⟨summary, r'⟩, fs'⟩
  · rw [hfill] at hrun
    simp [Except.map] at hrun
  rw [hfill] at hrun
  obtain rfl : summary = ⟨2, 1⟩ := Except.ok.inj hrun
  refine ⟨r', fs', rfl, ?_⟩
  obtain ⟨top, made, packages, htop, hmade, hscan, -, -, -, hsecond, -⟩ :=
    filling_again_changes_nothing hfs hfill
  obtain rfl : "/W" = top := Except.ok.inj ((by decide +kernel :
    danglingHere.absolute "/W" = .ok "/W").symm.trans htop)
  have hmade' : behind (makeDirectories danglingHere "/W/c") unwritableFiles = made :=
    FileSystem.behind_of_outcome hmade
  have hsame : Package.scan plainerFiles danglingHere "/W" "" =
      Package.scan (behind (makeDirectories danglingHere "/W/c") unwritableFiles) danglingHere "/W"
        "" := by
    decide +kernel
  rw [hmade', hscan] at hsame
  exact hsecond plainerFiles packages ⟨by decide +kernel, by decide +kernel, by decide +kernel⟩
    (by decide +kernel) hsame (fun release => Iff.rfl)

end PackageAtlas.Docs
