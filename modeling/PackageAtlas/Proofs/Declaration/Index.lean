import PackageAtlas.Declaration.Index
import PackageAtlas.Proofs.FileSystem.Canonical
import PackageAtlas.Proofs.FileSystem.Walk

namespace PackageAtlas.Declaration

open FileSystem (LinksSuffice Settled WellFormed)
open PackageAtlas.Path (IsName)
open Syntax (Parser)

/-!
# Indexes of one directory

The index of a package is made of the files below one directory, by whatever path that directory is
reached:

* `file_of_mem_recordsAfter`: records tell their file;
* `Indexer.Reaches`: there are few enough links on the way to the files;
* `Indexer.files_eq_of_find?`, `Indexer.index_eq_of_find?`: two paths to one directory have one
  index;
* `Indexer.exists_file_of_mem_index`: what is in an index was read from a file below the directory.
-/

variable {fs : FileSystem} {here : Standpoint} {i : Indexer} {parse : Parser}
  {dir dir' file : String} {loc : Location}

/-! ### Files that are indexed -/

/-- The files of a directory that are indexed, by the place of the directory. -/
theorem Indexer.files_eq {key : String} (hkey : fs.canonical here dir = .ok key)
    (h : fs.find? here dir = .ok (loc, .directory)) :
    i.files fs here dir = .ok (FileSystem.firstFiles (some i.maxFiles)
      ((fs.walkFrom here i.filter (fs.depth + 1) dir loc).map Path.ofNames)) := by
  obtain ⟨hnull, hfull, -⟩ := FileSystem.canonical_eq_ok_iff.mp hkey
  refine FileSystem.walkFirst_eq_ok_iff.mpr ⟨hnull, fun _ => hfull, ?_⟩
  rw [FileSystem.walk, h]

/-! ### Records -/

theorem recordsAfter_nil {src : Source} {done : List Record} :
    recordsAfter file src done [] = done.reverse := by
  rw [recordsAfter]

theorem recordsAfter_of_none {src : Source} {done : List Record} {v : Visit} {vs : List Visit}
    (h : classify (shapeOf v.surroundings v.node) = none) :
    recordsAfter file src done (v :: vs) = recordsAfter file src done (v.next ++ vs) := by
  rw [recordsAfter, h]

theorem recordsAfter_of_some {src : Source} {done : List Record} {v : Visit} {vs : List Visit}
    {k : Kind} (h : classify (shapeOf v.surroundings v.node) = some k) :
    recordsAfter file src done (v :: vs) =
      recordsAfter file src (record file src v.surroundings v.node k :: done) (v.next ++ vs) := by
  rw [recordsAfter, h]

/-- Records tell their file. -/
theorem file_of_mem_recordsAfter {src : Source} {done : List Record} {vs : List Visit} {r : Record}
    (hdone : ∀ r ∈ done, r.file = file) (h : r ∈ recordsAfter file src done vs) :
    r.file = file := by
  induction done, vs using recordsAfter.induct file src with
  | case1 done =>
    rw [recordsAfter_nil, List.mem_reverse] at h
    exact hdone r h
  | case2 done v vs _ k hk ih =>
    rw [recordsAfter_of_some hk] at h
    refine ih ?_ h
    intro r' hr'
    rcases List.mem_cons.mp hr' with rfl | hr'
    · rfl
    · exact hdone r' hr'
  | case3 done v vs _ hk ih =>
    rw [recordsAfter_of_none hk] at h
    exact ih hdone h

/-- What is declared in a file was read from it, and tells so. -/
theorem exists_read_of_mem_declarationsOf {r : Record}
    (h : r ∈ declarationsOf parse fs here dir file) :
    r.file = file ∧ ∃ bytes, fs.read here (Path.join dir file) = .ok bytes := by
  unfold declarationsOf at h
  split at h
  · rename_i l bytes hl hread
    exact ⟨file_of_mem_recordsAfter (by simp) h, bytes, hread⟩
  · simp at h

/-- Files that are read alike declare the same. -/
theorem declarationsOf_congr (h : ∀ bytes, fs.read here (Path.join dir file) = .ok bytes ↔
      fs.read here (Path.join dir' file) = .ok bytes) :
    declarationsOf parse fs here dir file = declarationsOf parse fs here dir' file := by
  unfold declarationsOf
  rcases Language.ofFile? file with _ | l
  · rfl
  · rcases hread : fs.read here (Path.join dir file) with e | bytes
    · rcases hread' : fs.read here (Path.join dir' file) with e' | bytes'
      · rfl
      · have hok := (h bytes').mpr hread'
        rw [hread] at hok
        simp at hok
    · rw [(h bytes).mp hread]

/-! ### Indexes -/

/-- There are few enough links on the way to the files of a directory that are indexed. -/
def Indexer.Reaches (i : Indexer) (fs : FileSystem) (here : Standpoint) (dir : String) : Prop :=
  ∀ files, i.files fs here dir = .ok files →
    ∀ file ∈ files, LinksSuffice fs here (Path.join dir file)

/-- Files that are there are in reach. -/
theorem Indexer.reaches_of_exists {files : List String} (hfiles : i.files fs here dir = .ok files)
    (h : ∀ file ∈ files, Path.isAbsolute (Path.join dir file) = true ∧
      fs.exists? here (Path.join dir file) = true) : i.Reaches fs here dir := by
  intro files' hfiles' file hfile
  rw [hfiles, Except.ok.injEq] at hfiles'
  subst hfiles'
  obtain ⟨habs, hexists⟩ := h file hfile
  obtain ⟨found, hfound⟩ := FileSystem.exists?_eq_true_iff.mp hexists
  exact FileSystem.linksSuffice_of_find? (Or.inl habs) hfound

/-- What is left first of a list by two tests is the same if neither leaves there what the other
    takes away. -/
theorem take_filter_eq {α : Type} {p q : α → Bool} {items : List α} {k : Nat}
    (hp : ∀ a ∈ (items.filter p).take k, q a = true)
    (hq : ∀ a ∈ (items.filter q).take k, p a = true) :
    (items.filter p).take k = (items.filter q).take k := by
  induction items generalizing k with
  | nil => rfl
  | cons a items ih =>
    cases k with
    | zero => simp
    | succ k =>
      -- An item that only one of the tests takes away would stand first by the other.
      by_cases hpa : p a = true
      · have hqa : q a = true := hp a (by simp [hpa])
        simp only [List.filter_cons, hpa, hqa, if_true, List.take_succ_cons] at hp hq ⊢
        rw [ih (fun b hb => hp b (List.mem_cons_of_mem a hb))
          (fun b hb => hq b (List.mem_cons_of_mem a hb))]
      · have hqa : ¬ q a = true := fun hqa => hpa (hq a (by simp [hqa]))
        simp only [List.filter_cons, hpa, hqa] at hp hq ⊢
        exact ih hp hq

/-- What is no link to a directory by one path is none by another, if it is in reach there. -/
theorem isDirectoryLink_eq_false {names : Location} (hnames : ∀ n ∈ names, IsName n)
    (hpath : Settled here dir) (hpath' : Settled here dir')
    (h : fs.find? here dir = .ok (loc, .directory))
    (h' : fs.find? here dir' = .ok (loc, .directory))
    (hfew : LinksSuffice fs here (Path.join dir (Path.ofNames names)))
    (hlink : fs.isDirectoryLink here dir loc names = false) :
    fs.isDirectoryLink here dir' loc names = false := by
  have hrel := Path.isAbsolute_ofNames hnames
  unfold FileSystem.isDirectoryLink at hlink ⊢
  split
  · rename_i target htarget
    rw [htarget] at hlink
    rw [Bool.eq_false_iff] at hlink ⊢
    intro hthere
    obtain ⟨l, hl⟩ := FileSystem.isDirectory_eq_true_iff.mp hthere
    exact hlink (FileSystem.isDirectory_eq_true_iff.mpr
      ⟨l, FileSystem.find?_join_of_find? hrel hpath' hpath h' h hfew hl⟩)
  · rfl

/-- **One list of files.** Two paths that lead to one directory have the same files to be indexed,
    if these are in reach on both. -/
theorem Indexer.files_eq_of_find? (hfs : fs.WellFormed) {key key' : String}
    (hkey : fs.canonical here dir = .ok key) (hkey' : fs.canonical here dir' = .ok key')
    (h : fs.find? here dir = .ok (loc, .directory))
    (h' : fs.find? here dir' = .ok (loc, .directory))
    (hreach : i.Reaches fs here dir) (hreach' : i.Reaches fs here dir') :
    i.files fs here dir = i.files fs here dir' := by
  have hpath := FileSystem.settled_of_canonical hkey
  have hpath' := FileSystem.settled_of_canonical hkey'
  have hfew := hreach _ (files_eq hkey h)
  have hfew' := hreach' _ (files_eq hkey' h')
  rw [files_eq hkey h, files_eq hkey' h']
  simp only [FileSystem.firstFiles, ← List.map_take, FileSystem.walkFrom_eq_filter hfs]
    at hfew hfew' ⊢
  have hnames : ∀ names ∈ fs.inventory i.filter (fs.depth + 1) loc, ∀ n ∈ names, IsName n :=
    fun names hmem => ((FileSystem.mem_inventory_iff.mp hmem).2.isName hfs).2
  -- Both walks leave the same first files of what can be listed in the directory.
  refine congrArg (fun kept => Except.ok (List.map _ kept))
    (take_filter_eq (fun names hmem => ?_) (fun names hmem => ?_))
  · obtain ⟨hin, hlink⟩ := List.mem_filter.mp (List.mem_of_mem_take hmem)
    rw [Bool.not_eq_true'] at hlink ⊢
    exact isDirectoryLink_eq_false (hnames names hin) hpath hpath' h h'
      (hfew _ (List.mem_map_of_mem hmem)) hlink
  · obtain ⟨hin, hlink⟩ := List.mem_filter.mp (List.mem_of_mem_take hmem)
    rw [Bool.not_eq_true'] at hlink ⊢
    exact isDirectoryLink_eq_false (hnames names hin) hpath' hpath h' h
      (hfew' _ (List.mem_map_of_mem hmem)) hlink

/-- **One index.** Two paths that lead to one directory have the same index, if its files are in
    reach on both. -/
theorem Indexer.index_eq_of_find? (hfs : fs.WellFormed) {key key' : String}
    (hkey : fs.canonical here dir = .ok key) (hkey' : fs.canonical here dir' = .ok key')
    (h : fs.find? here dir = .ok (loc, .directory))
    (h' : fs.find? here dir' = .ok (loc, .directory))
    (hreach : i.Reaches fs here dir) (hreach' : i.Reaches fs here dir') :
    i.index fs here dir parse = i.index fs here dir' parse := by
  obtain ⟨files, hfiles⟩ : ∃ files, i.files fs here dir = .ok files := ⟨_, files_eq hkey h⟩
  have hsame : i.files fs here dir' = .ok files :=
    (files_eq_of_find? hfs hkey hkey' h h' hreach hreach').symm.trans hfiles
  rw [Indexer.index, Indexer.index, hfiles, hsame]
  refine congrArg Except.ok (List.flatMap_congr (fun file hfile => ?_))
  -- File by file: the way below the directory is the same, whatever path leads to it.
  have hfew := hreach files hfiles file hfile
  have hfew' := hreach' files hsame file hfile
  have hpath := FileSystem.settled_of_canonical hkey
  have hpath' := FileSystem.settled_of_canonical hkey'
  have hrel : Path.isAbsolute file = false := by
    obtain ⟨loc, names, -, hnames, rfl⟩ := FileSystem.exists_names_of_mem_walkFirst hfiles hfile
    exact Path.isAbsolute_ofNames (FileSystem.isName_of_mem_walkFrom hfs hnames).2
  apply declarationsOf_congr
  intro bytes
  exact ⟨FileSystem.read_join_of_find? hrel hpath hpath' h h' hfew',
    FileSystem.read_join_of_find? hrel hpath' hpath h' h hfew⟩

/-- What is in an index was read from a file below the directory, which is found by names. -/
theorem Indexer.exists_file_of_mem_index (hfs : fs.WellFormed) {index : List Record} {r : Record}
    (h : i.index fs here dir parse = .ok index) (hr : r ∈ index) :
    ∃ loc names bytes, fs.find? here dir = .ok (loc, .directory) ∧ names ≠ [] ∧
      (∀ n ∈ names, IsName n) ∧ r.file = Path.ofNames names ∧
      fs.read here (Path.join dir r.file) = .ok bytes := by
  unfold Indexer.index at h
  obtain ⟨files, hfiles, h⟩ := bind_eq_ok_iff.mp h
  obtain rfl : files.flatMap (declarationsOf parse fs here dir) = index := Except.ok.inj h
  obtain ⟨file, hfile, hmem⟩ := List.mem_flatMap.mp hr
  obtain ⟨hself, bytes, hread⟩ := exists_read_of_mem_declarationsOf hmem
  obtain ⟨loc, names, hfind, hnames, rfl⟩ := FileSystem.exists_names_of_mem_walkFirst hfiles hfile
  obtain ⟨hne, hall⟩ := FileSystem.isName_of_mem_walkFrom hfs hnames
  rw [hself]
  exact ⟨loc, names, bytes, hfind, hne, hall, rfl, hread⟩

end PackageAtlas.Declaration
