import PackageAtlas.FileSystem.Walk
import PackageAtlas.Proofs.FileSystem.Lookup
import PackageAtlas.Proofs.Path.Normal

namespace PackageAtlas.FileSystem

open PackageAtlas.Path (IsName)

/-!
# Files of walks

* `IsListable`: names lead through directories that a filter lets enter to what it lets through;
* `inventory`, `mem_inventory_iff`: all such names;
* `walkFrom_eq_filter`: a walk lists them, but the links to directories;
* `isName_of_mem_walkFrom`, `rejectsFile_of_mem_walkFrom`, `entry_of_mem_walkFrom`: so its files are
  found by names, and what these lead to is there;
* `walkFirst_eq_ok_iff`: what the first files of a walk are, and when they can be told;
* `exists_names_of_mem_walkFirst`: each of them is the text of such names.
-/

variable {fs : FileSystem} {here : Standpoint} {filter : FileFilter} {limit : Option Int}
  {path file : String} {files : List String} {depth : Nat} {dir names : Location}

/-! ### What a walk may list -/

/-- Names lead from a directory through directories that a filter lets enter to something that it
    lets through and that is no directory itself. -/
def IsListable (fs : FileSystem) (filter : FileFilter) (dir names : Location) : Prop :=
  ∃ front name, names = front ++ [name] ∧
    (∀ q, q <+: front → q ≠ [] → fs.at? (dir ++ q) = some .directory) ∧
    (∀ n ∈ front, filter.rejectsDirectory n = false) ∧
    (∃ e, fs.at? (dir ++ names) = some e ∧ e ≠ .directory) ∧ filter.rejectsFile name = false

theorem not_isListable_nil : ¬ IsListable fs filter dir [] := by
  rintro ⟨front, name, hnames, -⟩
  simp at hnames

theorem isListable_singleton {n : String} :
    IsListable fs filter dir [n] ↔
      (∃ e, fs.at? (dir ++ [n]) = some e ∧ e ≠ .directory) ∧ filter.rejectsFile n = false := by
  constructor
  · rintro ⟨front, name, hnames, -, -, hentry, hfile⟩
    obtain ⟨rfl, rfl⟩ : front = [] ∧ name = n := by
      cases front <;> simp_all
    exact ⟨hentry, hfile⟩
  · rintro ⟨hentry, hfile⟩
    exact ⟨[], n, rfl, fun q hq hne => absurd (List.prefix_nil.mp hq) hne, by simp, hentry, hfile⟩

/-- What lies deeper is found in a directory that is entered. -/
theorem isListable_cons {n : String} (hne : names ≠ []) :
    IsListable fs filter dir (n :: names) ↔
      (fs.at? (dir ++ [n]) = some .directory ∧ filter.rejectsDirectory n = false) ∧
        IsListable fs filter (dir ++ [n]) names := by
  have hdeeper : ∀ q : Location, dir ++ [n] ++ q = dir ++ n :: q := fun q => by simp
  constructor
  · rintro ⟨front, name, hnames, hway, henter, hentry, hfile⟩
    cases front with
    | nil => exact absurd (List.cons.inj hnames).2 hne
    | cons m front =>
      obtain ⟨rfl, rfl⟩ := List.cons.inj hnames
      refine ⟨⟨hway [n] (by simp) (by simp), henter n List.mem_cons_self⟩, front, name, rfl,
        fun q hq _ => ?_, fun m hm => henter m (List.mem_cons_of_mem n hm), ?_, hfile⟩
      · rw [hdeeper]
        exact hway (n :: q) ((List.prefix_cons_inj n).mpr hq) (by simp)
      · rw [hdeeper]
        exact hentry
  · rintro ⟨⟨hn, hname⟩, front, name, rfl, hway, henter, hentry, hfile⟩
    refine ⟨n :: front, name, rfl, fun q hq hq' => ?_, fun m hm => ?_, ?_, hfile⟩
    · -- The way is the first directory, or it leads on from there.
      obtain ⟨m, q, rfl⟩ := List.exists_cons_of_ne_nil hq'
      obtain ⟨rfl, hon⟩ := List.cons_prefix_cons.mp hq
      by_cases hlast : q = []
      · rw [hlast]
        exact hn
      · rw [← hdeeper]
        exact hway q hon hlast
    · rcases List.mem_cons.mp hm with rfl | hm
      · exact hname
      · exact henter m hm
    · rw [← hdeeper]
      exact hentry

/-- What can be listed is found by names. -/
theorem IsListable.isName (hfs : fs.WellFormed) (h : IsListable fs filter dir names) :
    names ≠ [] ∧ ∀ n ∈ names, IsName n := by
  obtain ⟨front, name, rfl, -, -, ⟨e, he, -⟩, -⟩ := h
  refine ⟨by simp, fun n hn => hfs.names _ (mem_of_at? (by simp) he) n ?_⟩
  exact List.mem_append_right dir hn

theorem isPlainDirectory_eq_true_iff {name : String} :
    fs.isPlainDirectory dir name = true ↔ fs.at? (dir ++ [name]) = some .directory := by
  unfold isPlainDirectory
  split <;> simp_all

/-- The names that lead from a directory to all that can be listed, less than `depth` directories
    deep. -/
def inventory (fs : FileSystem) (filter : FileFilter) : Nat → Location → List Location
  | 0, _ => []
  | depth + 1, dir =>
    ((fs.names dir).filter (fun n =>
        !fs.isPlainDirectory dir n && !filter.rejectsFile n)).map (fun n => [n]) ++
      (fs.directoriesIn filter dir).flatMap (fun n =>
        (inventory fs filter depth (dir ++ [n])).map (n :: ·))

theorem mem_directoriesIn_iff {n : String} :
    n ∈ fs.directoriesIn filter dir ↔
      fs.at? (dir ++ [n]) = some .directory ∧ filter.rejectsDirectory n = false := by
  rw [directoriesIn, List.mem_filter, mem_names_iff, Bool.and_eq_true,
    isPlainDirectory_eq_true_iff, Bool.not_eq_true']
  constructor
  · exact fun h => h.2
  · exact fun h => ⟨by rw [h.1]; rfl, h⟩

theorem mem_listed_iff {n : String} :
    n ∈ (fs.names dir).filter (fun n => !fs.isPlainDirectory dir n && !filter.rejectsFile n) ↔
      (∃ e, fs.at? (dir ++ [n]) = some e ∧ e ≠ .directory) ∧ filter.rejectsFile n = false := by
  rw [List.mem_filter, mem_names_iff, Bool.and_eq_true, Bool.not_eq_true', Bool.not_eq_true',
    ← Bool.not_eq_true, isPlainDirectory_eq_true_iff, Option.isSome_iff_exists]
  constructor
  · rintro ⟨⟨e, he⟩, hplain, hfile⟩
    refine ⟨⟨e, he, ?_⟩, hfile⟩
    rintro rfl
    exact hplain he
  · rintro ⟨⟨e, he, hne⟩, hfile⟩
    refine ⟨⟨e, he⟩, fun hdir => hne ?_, hfile⟩
    rw [he] at hdir
    exact Option.some.inj hdir

/-- **All that can be listed**, and nothing else. -/
theorem mem_inventory_iff :
    names ∈ fs.inventory filter depth dir ↔
      names.length ≤ depth ∧ IsListable fs filter dir names := by
  induction depth generalizing dir names with
  | zero =>
    simp only [inventory, List.not_mem_nil, false_iff, Nat.le_zero_eq, List.length_eq_zero_iff]
    rintro ⟨rfl, h⟩
    exact not_isListable_nil h
  | succ depth ih =>
    rw [inventory, List.mem_append, List.mem_map, List.mem_flatMap]
    constructor
    · -- What is listed lies in the directory itself, or in one that is entered.
      rintro (⟨n, hn, rfl⟩ | ⟨n, hn, hbelow⟩)
      · exact ⟨by simp, isListable_singleton.mpr (mem_listed_iff.mp hn)⟩
      · obtain ⟨inner, hinner, rfl⟩ := List.mem_map.mp hbelow
        obtain ⟨hlength, hlist⟩ := ih.mp hinner
        have hne : inner ≠ [] := by
          rintro rfl
          exact not_isListable_nil hlist
        exact ⟨by simpa using hlength,
          (isListable_cons hne).mpr ⟨mem_directoriesIn_iff.mp hn, hlist⟩⟩
    · rintro ⟨hlength, hlist⟩
      cases names with
      | nil => exact absurd hlist not_isListable_nil
      | cons n names =>
        by_cases hne : names = []
        · subst hne
          exact Or.inl ⟨n, mem_listed_iff.mpr (isListable_singleton.mp hlist), rfl⟩
        · obtain ⟨hn, hbelow⟩ := (isListable_cons hne).mp hlist
          refine Or.inr ⟨n, mem_directoriesIn_iff.mpr hn, List.mem_map.mpr ⟨names, ?_, rfl⟩⟩
          exact ih.mpr ⟨by simpa using hlength, hbelow⟩

theorem ne_nil_of_mem_inventory (h : names ∈ fs.inventory filter depth dir) : names ≠ [] := by
  rintro rfl
  exact not_isListable_nil (mem_inventory_iff.mp h).2

/-- Whether names lead from a directory, which was reached by `path`, to a link to a directory. -/
def isDirectoryLink (fs : FileSystem) (here : Standpoint) (path : String) (dir names : Location) :
    Bool :=
  match fs.at? (dir ++ names) with
  | some (.link _) => fs.isDirectory here (Path.join path (Path.ofNames names))
  | _ => false

theorem leadsToDirectory_eq {name : String} :
    fs.leadsToDirectory here path dir name =
      (fs.isPlainDirectory dir name || fs.isDirectoryLink here path dir [name]) := by
  have hself : Path.ofNames [name] = name := by simp [Path.ofNames]
  unfold leadsToDirectory isPlainDirectory isDirectoryLink
  rw [hself]
  split <;> simp_all

/-- **Walks and paths.** A walk lists all that it may list, but the links to directories; only which
    links these are depends on the path by which its directory was reached. -/
theorem walkFrom_eq_filter (hfs : fs.WellFormed) :
    fs.walkFrom here filter depth path dir =
      (fs.inventory filter depth dir).filter (fun names =>
        !fs.isDirectoryLink here path dir names) := by
  induction depth generalizing path dir with
  | zero => rfl
  | succ depth ih =>
    rw [walkFrom, inventory, List.filter_append]
    congr 1
    · rw [filesIn, List.filter_map, List.filter_filter]
      congr 1
      refine List.filter_congr (fun n _ => ?_)
      rw [leadsToDirectory_eq]
      simp only [Function.comp_apply]
      generalize fs.isPlainDirectory dir n = b₁
      generalize fs.isDirectoryLink here path dir [n] = b₂
      generalize filter.rejectsFile n = b₃
      cases b₁ <;> cases b₂ <;> cases b₃ <;> rfl
    · rw [List.filter_flatMap]
      refine List.flatMap_congr (fun n hn => ?_)
      obtain ⟨hn, -⟩ := mem_directoriesIn_iff.mp hn
      have hname : IsName n := hfs.names _ (mem_of_at? (by simp) hn) n (by simp)
      rw [ih, List.filter_map]
      congr 1
      refine List.filter_congr (fun inner hinner => ?_)
      -- The path of what lies in the directory is the path of both names together.
      obtain ⟨hne, hall⟩ := (mem_inventory_iff.mp hinner).2.isName hfs
      obtain ⟨m, ms, rfl⟩ := List.exists_cons_of_ne_nil hne
      simp only [Function.comp_apply, isDirectoryLink]
      rw [List.append_assoc, List.singleton_append, Path.ofNames_cons_cons,
        Path.join_join path hname (Path.isAbsolute_ofNames hall)]

/-! ### Files of a walk -/

section Files

variable (hfs : fs.WellFormed) (h : names ∈ fs.walkFrom here filter depth path dir)

include hfs h

theorem isListable_of_mem_walkFrom : IsListable fs filter dir names := by
  rw [walkFrom_eq_filter hfs] at h
  exact (mem_inventory_iff.mp (List.mem_filter.mp h).1).2

/-- The files of a walk are found by names. -/
theorem isName_of_mem_walkFrom : names ≠ [] ∧ ∀ n ∈ names, IsName n :=
  (isListable_of_mem_walkFrom hfs h).isName hfs

/-- The last name of a file of a walk is one that the filter lets through. -/
theorem rejectsFile_of_mem_walkFrom :
    ∃ name, names.getLast? = some name ∧ filter.rejectsFile name = false := by
  obtain ⟨front, name, rfl, -, -, -, hfile⟩ := isListable_of_mem_walkFrom hfs h
  exact ⟨name, by simp, hfile⟩

/-- A walk lists what is there and is no directory. -/
theorem entry_of_mem_walkFrom : ∃ e, fs.at? (dir ++ names) = some e ∧ e ≠ .directory := by
  obtain ⟨front, name, rfl, -, -, hentry, -⟩ := isListable_of_mem_walkFrom hfs h
  exact hentry

end Files

/-! ### The first files -/

/-- What the first files of a walk are, and when they can be told. -/
theorem walkFirst_eq_ok_iff {filter : FileFilter} {limit : Option Int} {files : List String} :
    fs.walkFirst here filter limit path = .ok files ↔
      Char.ofNat 0 ∉ path.toList ∧ (files ≠ [] → ∃ full, here.absolute path = .ok full) ∧
        files = firstFiles limit (fs.walk here filter path) := by
  unfold walkFirst
  by_cases hnull : Char.ofNat 0 ∈ path.toList
  · simp [hnull, bind, Except.bind]
  simp only [hnull, List.contains_eq_mem, decide_false, Bool.false_eq_true, if_false,
    not_false_eq_true, true_and]
  generalize firstFiles limit (fs.walk here filter path) = first
  -- The path has to be known only if there is a file to be told.
  rcases first with _ | ⟨file, others⟩
  · constructor
    · intro h
      obtain rfl := Except.ok.inj h
      simp
    · rintro ⟨-, rfl⟩
      rfl
  · rcases here.absolute path with e | full
    · simp only [bind, Except.bind]
      constructor
      · intro h
        simp at h
      · rintro ⟨hfull, rfl⟩
        simp at hfull
    · constructor
      · intro h
        obtain rfl := Except.ok.inj h
        simp
      · rintro ⟨-, rfl⟩
        rfl

/-- With a limit the first files of the whole walk are told. -/
theorem walkFirst_some_of_none (h : fs.walkFirst here filter none path = .ok files) (limit : Int) :
    fs.walkFirst here filter (some limit) path = .ok (files.take limit.toNat) := by
  obtain ⟨hnull, hfull, rfl⟩ := walkFirst_eq_ok_iff.mp h
  refine walkFirst_eq_ok_iff.mpr ⟨hnull, fun hne => hfull ?_, rfl⟩
  rintro hnone
  rw [hnone, List.take_nil] at hne
  exact hne rfl

theorem mem_of_mem_firstFiles {α : Type} {items : List α} {a : α}
    (h : a ∈ firstFiles limit items) : a ∈ items := by
  cases limit with
  | none => exact h
  | some n => exact List.mem_of_mem_take h

/-- The first files of a walk were found by it, below the directory that the path leads to. -/
theorem exists_names_of_mem_walkFirst (hfiles : fs.walkFirst here filter limit path = .ok files)
    (h : file ∈ files) :
    ∃ loc names, fs.find? here path = .ok (loc, .directory) ∧
      names ∈ fs.walkFrom here filter (fs.depth + 1) path loc ∧ file = Path.ofNames names := by
  have hwalk : file ∈ fs.walk here filter path := by
    obtain ⟨-, -, rfl⟩ := walkFirst_eq_ok_iff.mp hfiles
    exact mem_of_mem_firstFiles h
  unfold walk at hwalk
  split at hwalk
  · rename_i loc hloc
    obtain ⟨names, hnames, rfl⟩ := List.mem_map.mp hwalk
    exact ⟨loc, names, hloc, hnames, rfl⟩
  · simp at hwalk

end PackageAtlas.FileSystem
