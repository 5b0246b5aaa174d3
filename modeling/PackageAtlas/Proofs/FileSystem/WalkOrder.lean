import Mathlib.Data.List.Sort
import PackageAtlas.Proofs.FileSystem.Frame
import PackageAtlas.Proofs.FileSystem.Listing
import PackageAtlas.Proofs.FileSystem.Walk

namespace PackageAtlas.FileSystem

open PackageAtlas.Path (IsName)

/-!
# What walks list, and in which order

A walk lists all that its filter selects below a directory, each file once, in an order that depends
on names alone:

* `Precedes`: the order of walks, in which files stand before what lies deeper;
* `pairwise_walkFrom`: a walk keeps it;
* `Selects`: what a filter selects below a directory;
* `mem_walkFrom_iff_selects`: a walk lists exactly this;
* `walkFirst_eq_of_perm`: the order in which the entries of a file system are told does not matter;
* `nodup_of_walkFirst`: no path is listed twice;
* `walk_lists_selected_in_order`: all of it together, and `walk_fails_or_lists_directory` for where
  a walk fails or lists more.
-/

variable {fs fs' : FileSystem} {here : Standpoint} {filter : FileFilter} {path : String}
  {depth : Nat} {dir names : Location}

/-! ### The order of walks -/

/-- One file stands before another, by the names that lead to them: the files of a directory stand
    in the order of their names, before all that lies deeper, and that stands in the order of the
    directories, each of which is in the same order itself. -/
inductive Precedes : Location → Location → Prop where
  | files {m n : String} (h : m < n) : Precedes [m] [n]
  | deeper (m n n' : String) (ns : Location) : Precedes [m] (n :: n' :: ns)
  | directories {m n : String} (m' n' : String) (ms ns : Location) (h : m < n) :
      Precedes (m :: m' :: ms) (n :: n' :: ns)
  | inside {ms ns : Location} (n : String) (h : Precedes ms ns) : Precedes (n :: ms) (n :: ns)

theorem not_precedes_nil : ¬ Precedes names [] := nofun

theorem Precedes.irrefl : ¬ Precedes names names := by
  induction names with
  | nil => exact not_precedes_nil
  | cons n ns ih =>
    rintro (hlt | _ | ⟨_, _, _, _, hlt⟩ | ⟨_, hin⟩)
    · exact String.lt_irrefl n hlt
    · exact String.lt_irrefl n hlt
    · exact ih hin

theorem Precedes.asymm {ms ns : Location} (h : Precedes ms ns) : ¬ Precedes ns ms := by
  -- The rules for the other direction compare the same two names, the other way round.
  induction h with
  | files h =>
    rintro (hlt | _ | _ | ⟨_, hin⟩)
    · exact String.lt_asymm h hlt
    · exact not_precedes_nil hin
  | deeper m n n' ns =>
    rintro (_ | _ | _ | ⟨_, hin⟩)
    exact not_precedes_nil hin
  | directories m' n' ms ns h =>
    rintro (_ | _ | ⟨_, _, _, _, hlt⟩ | ⟨_, hin⟩)
    · exact String.lt_asymm h hlt
    · exact String.lt_irrefl _ h
  | inside n h ih =>
    rintro (hlt | _ | ⟨_, _, _, _, hlt⟩ | ⟨_, hin⟩)
    · exact not_precedes_nil h
    · exact not_precedes_nil h
    · exact String.lt_irrefl n hlt
    · exact ih hin

instance : Std.Irrefl Precedes := ⟨fun _ => Precedes.irrefl⟩

instance : Std.Antisymm Precedes := ⟨fun _ _ h h' => absurd h' h.asymm⟩

/-- All that can be listed stands in order. -/
theorem pairwise_inventory (h : fs.Distinct) :
    (fs.inventory filter depth dir).Pairwise Precedes := by
  induction depth generalizing dir with
  | zero => exact List.Pairwise.nil
  | succ depth ih =>
    have hnames := h.pairwise_names dir
    rw [inventory, List.pairwise_append, List.pairwise_map, List.pairwise_flatMap]
    refine ⟨(hnames.filter _).imp .files, ⟨fun n _ => ?_, ?_⟩, ?_⟩
    · rw [List.pairwise_map]
      exact ih.imp (.inside n)
    · -- What lies in one directory stands before what lies in the next.
      refine (hnames.filter _).imp (fun hlt below hbelow below' hbelow' => ?_)
      obtain ⟨ms, hms, rfl⟩ := List.mem_map.mp hbelow
      obtain ⟨ns, hns, rfl⟩ := List.mem_map.mp hbelow'
      obtain ⟨m', ms, rfl⟩ := List.exists_cons_of_ne_nil (ne_nil_of_mem_inventory hms)
      obtain ⟨n', ns, rfl⟩ := List.exists_cons_of_ne_nil (ne_nil_of_mem_inventory hns)
      exact .directories m' n' ms ns hlt
    · intro file hfile below hbelow
      obtain ⟨m, -, rfl⟩ := List.mem_map.mp hfile
      obtain ⟨n, -, hin⟩ := List.mem_flatMap.mp hbelow
      obtain ⟨ns, hns, rfl⟩ := List.mem_map.mp hin
      obtain ⟨n', ns, rfl⟩ := List.exists_cons_of_ne_nil (ne_nil_of_mem_inventory hns)
      exact .deeper m n n' ns

/-- **Walks are in order.** -/
theorem pairwise_walkFrom (hfs : fs.WellFormed) (h : fs.Distinct) :
    (fs.walkFrom here filter depth path dir).Pairwise Precedes := by
  rw [walkFrom_eq_filter hfs]
  exact (pairwise_inventory h).filter _

/-! ### What is listed -/

/-- A walk lists all that can be listed, however deep it lies, but the links to directories. -/
theorem mem_walkFrom_iff (hfs : fs.WellFormed) :
    names ∈ fs.walkFrom here filter (fs.depth + 1) path dir ↔
      IsListable fs filter dir names ∧ fs.isDirectoryLink here path dir names = false := by
  rw [walkFrom_eq_filter hfs, List.mem_filter, mem_inventory_iff, Bool.not_eq_true']
  constructor
  · exact fun h => ⟨h.1.2, h.2⟩
  · rintro ⟨hlist, hlink⟩
    refine ⟨⟨?_, hlist⟩, hlink⟩
    obtain ⟨-, -, -, -, -, ⟨e, he, -⟩, -⟩ := hlist
    have hdepth := length_le_depth he
    rw [List.length_append] at hdepth
    omega

/-- Names that lead to a file from a directory on lead to it when they are followed. -/
theorem Follows.eq_of_file {follow : Bool} {links : Nat} {loc : Location} {bytes : ByteArray}
    (h : Follows fs follow links dir names loc) (hfs : fs.WellFormed)
    (hnames : ∀ n ∈ names, IsName n) (hfile : fs.at? (dir ++ names) = some (.file bytes)) :
    loc = dir ++ names := by
  induction h with
  | here => rw [List.append_nil]
  | idle hidle _ _ =>
    rw [(hnames _ List.mem_cons_self).1] at hidle
    simp at hidle
  | up _ _ => exact absurd rfl (hnames _ List.mem_cons_self).2.1
  | last _ _ => rfl
  | directory _ _ _ ih =>
    rw [List.append_cons] at hfile ⊢
    exact ih (List.forall_mem_cons.mp hnames).2 hfile
  | @link links dir loc piece target rest _ hentry _ _ _ =>
    -- A link is no file, and what a file lies in is a directory.
    by_cases hlast : rest = []
    · rw [hlast, hentry] at hfile
      simp at hfile
    · have hdir : fs.at? (dir ++ [piece]) = some .directory := by
        rw [List.append_cons] at hfile
        refine hfs.at?_of_prefix (hfs.parents _ (mem_of_at? (by simp) hfile)) ?_
        rw [List.dropLast_append_of_ne_nil hlast]
        exact List.prefix_append _ _
      rw [hentry] at hdir
      simp at hdir

/-- What is no directory itself leads to one exactly if it is a link to a directory. -/
theorem isDirectory_join_eq (hfs : fs.WellFormed) (hpath : Settled here path)
    (h : fs.find? here path = .ok (dir, .directory)) (hne : names ≠ [])
    (hnames : ∀ n ∈ names, IsName n) {e : Entry} (he : fs.at? (dir ++ names) = some e)
    (hentry : e ≠ .directory) :
    fs.isDirectory here (Path.join path (Path.ofNames names)) =
      fs.isDirectoryLink here path dir names := by
  unfold isDirectoryLink
  rw [he]
  cases e with
  | directory => exact absurd rfl hentry
  | link target => rfl
  | file bytes =>
    rw [Bool.eq_false_iff]
    intro hthere
    have hrel := Path.isAbsolute_ofNames hnames
    obtain ⟨loc, hloc⟩ := isDirectory_eq_true_iff.mp hthere
    obtain ⟨hresolve, hat⟩ := find?_eq_ok_iff.mp hloc
    -- The path leads to the directory first, and from there on the names lead to the file.
    obtain ⟨front, n, hn, hjoin, henters⟩ := exists_front_of_find? hpath h hrel
    have hsettled := (settled_join (ne_empty_of_find? hpath h).1 hrel).mpr hpath
    obtain ⟨-, -, hfrom⟩ := (resolve_eq_ok_iff hsettled).mp hresolve
    rw [startOf_join (ne_empty_of_find? hpath h).1 hrel, hjoin, ← Nat.sub_add_cancel hn,
      henters.resolveFrom_append, Path.pieces_ofNames hne (fun n hn => (hnames n hn).2.2)] at hfrom
    rw [(follows_of_resolveFrom hfrom).eq_of_file hfs hnames he, he] at hat
    simp at hat

/-- The names `front` and `name` lead from a directory, which was reached by `path`, to a file that
    is to be listed. -/
structure Selects (fs : FileSystem) (here : Standpoint) (suffixes excluded : List String)
    (path : String) (dir front : Location) (name : String) : Prop where
  /-- The way leads through directories, and not through links. -/
  way : ∀ q, q <+: front → q ≠ [] → fs.at? (dir ++ q) = some .directory
  entered : ∀ n ∈ front, isHidden n = false ∧ n ∉ excluded
  /-- Something is there that is no directory itself. -/
  entry : ∃ e, fs.at? (dir ++ (front ++ [name])) = some e ∧ e ≠ .directory
  /-- If it is a link, it leads to no directory. -/
  notDirectory : fs.isDirectory here (Path.join path (Path.ofNames (front ++ [name]))) = false
  shown : isHidden name = false
  ending : ∃ s ∈ suffixes, (Text.lower s).toList <:+ (Text.lower name).toList

section Selects

variable {suffixes excluded : List String}

theorem rejectsDirectory_eq_false_iff {n : String} :
    (FileFilter.ofSuffixes suffixes excluded).rejectsDirectory n = false ↔
      isHidden n = false ∧ n ∉ excluded := by
  rw [FileFilter.rejectsDirectory, FileFilter.ofSuffixes, Bool.or_eq_false_iff, ← Bool.not_eq_true
    (excluded.contains n), List.contains_iff_mem]

theorem rejectsFile_eq_false_iff {name : String} :
    (FileFilter.ofSuffixes suffixes excluded).rejectsFile name = false ↔
      isHidden name = false ∧
        ∃ s ∈ suffixes, (Text.lower s).toList <:+ (Text.lower name).toList := by
  rw [FileFilter.rejectsFile, FileFilter.ofSuffixes, Bool.or_eq_false_iff, Bool.not_eq_false',
    List.any_map, List.any_eq_true]
  simp only [Function.comp_apply, List.isSuffixOf_iff_suffix]

/-- **Nothing else is listed, and nothing is left out.** -/
theorem mem_walkFrom_iff_selects (hfs : fs.WellFormed) (hpath : Settled here path)
    (h : fs.find? here path = .ok (dir, .directory)) :
    names ∈ fs.walkFrom here (FileFilter.ofSuffixes suffixes excluded) (fs.depth + 1) path dir ↔
      ∃ front name, names = front ++ [name] ∧
        Selects fs here suffixes excluded path dir front name := by
  rw [mem_walkFrom_iff hfs]
  constructor
  · rintro ⟨hlist, hlink⟩
    obtain ⟨hne, hnames⟩ := hlist.isName hfs
    obtain ⟨front, name, rfl, hway, henter, ⟨e, he, hentry⟩, hfile⟩ := hlist
    obtain ⟨hshown, hending⟩ := rejectsFile_eq_false_iff.mp hfile
    refine ⟨front, name, rfl, hway, fun n hn => rejectsDirectory_eq_false_iff.mp (henter n hn),
      ⟨e, he, hentry⟩, ?_, hshown, hending⟩
    rw [isDirectory_join_eq hfs hpath h hne hnames he hentry]
    exact hlink
  · rintro ⟨front, name, rfl, hsel⟩
    obtain ⟨e, he, hentry⟩ := hsel.entry
    have hlist : IsListable fs (FileFilter.ofSuffixes suffixes excluded) dir (front ++ [name]) :=
      ⟨front, name, rfl, hsel.way,
        fun n hn => rejectsDirectory_eq_false_iff.mpr (hsel.entered n hn), ⟨e, he, hentry⟩,
        rejectsFile_eq_false_iff.mpr ⟨hsel.shown, hsel.ending⟩⟩
    obtain ⟨hne, hnames⟩ := hlist.isName hfs
    refine ⟨hlist, ?_⟩
    rw [← isDirectory_join_eq hfs hpath h hne hnames he hentry]
    exact hsel.notDirectory

end Selects

/-! ### Walks by two filters -/

/-- A filter that lets through fewer files, but enters the same directories, lists those of the
    files that it lets through. -/
theorem walkFrom_filter {f g : FileFilter} {depth : Nat} {p : Location → Bool}
    (hexcluded : f.excluded = g.excluded)
    (hfile : ∀ front name, f.rejectsFile name = (g.rejectsFile name || !p (front ++ [name]))) :
    fs.walkFrom here f depth path dir = (fs.walkFrom here g depth path dir).filter p := by
  induction depth generalizing path dir p with
  | zero => rfl
  | succ depth ih =>
    have hfiles : fs.filesIn here f path dir =
        (fs.filesIn here g path dir).filter (fun n => p [n]) := by
      rw [filesIn, filesIn, List.filter_filter]
      refine List.filter_congr fun n _ => ?_
      rw [hfile [] n, List.nil_append]
      cases fs.leadsToDirectory here path dir n <;> cases g.rejectsFile n <;> cases p [n] <;> rfl
    have hdirectories : fs.directoriesIn f dir = fs.directoriesIn g dir := by
      simp only [directoriesIn, FileFilter.rejectsDirectory, hexcluded]
    have hbelow : ∀ n, fs.walkFrom here f depth (Path.join path n) (dir ++ [n]) =
        (fs.walkFrom here g depth (Path.join path n) (dir ++ [n])).filter (fun ns => p (n :: ns)) :=
      fun n => ih fun front name => hfile (n :: front) name
    simp only [walkFrom, List.filter_append, List.filter_map, List.filter_flatMap, hfiles,
      hdirectories, hbelow]
    rfl

/-! ### Independence from the order of entries -/

section Perm

variable (hat : ∀ l, fs'.at? l = fs.at? l)

include hat

theorem find?_eq_of_at? : fs'.find? here path = fs.find? here path := by
  have hway : ∀ dir ps, fs'.resolveFrom true linkLimit dir ps =
      fs.resolveFrom true linkLimit dir ps := fun dir ps => resolveFrom_congr (fun l _ => hat l)
  unfold find? resolve
  simp only [hway, hat]

theorem isDirectoryLink_eq_of_at? :
    fs'.isDirectoryLink here path dir names = fs.isDirectoryLink here path dir names := by
  unfold isDirectoryLink isDirectory
  rw [hat, find?_eq_of_at? hat]

theorem isListable_iff_of_at? :
    IsListable fs' filter dir names ↔ IsListable fs filter dir names := by
  unfold IsListable
  simp only [hat]

end Perm

/-- **The order of entries.** Walks do not depend on the order in which the entries of a file system
    are told: what they list does not, and there is one order for it. -/
theorem walkFirst_eq_of_perm (hfs : fs.WellFormed) (h : fs.Distinct)
    (hperm : fs'.nodes.Perm fs.nodes) (limit : Option Int) :
    fs'.walkFirst here filter limit path = fs.walkFirst here filter limit path := by
  have hat := h.at?_eq_of_perm hperm
  have hfs' := hfs.of_perm h hperm
  have h' : fs'.Distinct := (hperm.map Prod.fst).nodup_iff.mpr h
  have hwalk : fs'.walk here filter path = fs.walk here filter path := by
    unfold walk
    rw [find?_eq_of_at? hat]
    split
    · rename_i loc _
      congr 1
      -- Lists in one order with the same members are the same.
      refine (pairwise_walkFrom hfs' h').eq_of_mem_iff (pairwise_walkFrom hfs h) (fun names => ?_)
      rw [mem_walkFrom_iff hfs', mem_walkFrom_iff hfs, isListable_iff_of_at? hat,
        isDirectoryLink_eq_of_at? hat]
    · rfl
  unfold walkFirst
  rw [hwalk]

/-! ### All that a walk is -/

/-- Names can be read off a path, so that different names make different paths. -/
theorem nodup_map_ofNames {walked : List Location} (h : walked.Nodup)
    (hnames : ∀ names ∈ walked, names ≠ [] ∧ ∀ n ∈ names, IsName n) :
    (walked.map Path.ofNames).Nodup := by
  refine h.map_on (fun ms hms ns hns heq => ?_)
  rw [← Path.pieces_ofNames (hnames ms hms).1 (fun n hn => ((hnames ms hms).2 n hn).2.2), heq,
    Path.pieces_ofNames (hnames ns hns).1 (fun n hn => ((hnames ns hns).2 n hn).2.2)]

/-- **Each file once.** -/
theorem nodup_of_walkFirst (hfs : fs.WellFormed) (h : fs.Distinct) {files : List String}
    (hfiles : fs.walkFirst here filter none path = .ok files) : files.Nodup := by
  obtain ⟨-, -, rfl⟩ := walkFirst_eq_ok_iff.mp hfiles
  rw [firstFiles, walk]
  split
  · exact nodup_map_ofNames (pairwise_walkFrom hfs h).nodup
      (fun names hmem => isName_of_mem_walkFrom hfs hmem)
  · exact List.nodup_nil

/-- **Walks.** By a path that starts at the root, or from a place that is still there, a walk lists
    exactly what is selected below a directory, each file once: those of a directory stand first, in
    the order of their code points, and behind them what lies in its directories, in their order.
    Every file is told by names. With a limit the first of them are listed, and none if it is below
    zero; and the order in which the entries of the file system are told does not matter. -/
theorem walk_lists_selected_in_order (hfs : fs.WellFormed) (hdistinct : fs.Distinct)
    (hpath : Settled here path) (h : fs.find? here path = .ok (dir, .directory))
    (suffixes excluded : List String) :
    ∃ walked : List Location,
      fs.walkFirst here (FileFilter.ofSuffixes suffixes excluded) none path =
        .ok (walked.map Path.ofNames) ∧
      (∀ names, names ∈ walked ↔ ∃ front name, names = front ++ [name] ∧
        Selects fs here suffixes excluded path dir front name) ∧
      (walked.map Path.ofNames).Nodup ∧
      walked.Pairwise Precedes ∧
      (∀ names ∈ walked, names ≠ [] ∧ ∀ n ∈ names, IsName n) ∧
      (∀ limit : Int,
        fs.walkFirst here (FileFilter.ofSuffixes suffixes excluded) (some limit) path =
          .ok ((walked.map Path.ofNames).take (max limit 0).toNat)) ∧
      ∀ fs' : FileSystem, fs'.nodes.Perm fs.nodes → ∀ limit,
        fs'.walkFirst here (FileFilter.ofSuffixes suffixes excluded) limit path =
          fs.walkFirst here (FileFilter.ofSuffixes suffixes excluded) limit path := by
  have hwalk : fs.walkFirst here (FileFilter.ofSuffixes suffixes excluded) none path =
      .ok ((fs.walkFrom here (FileFilter.ofSuffixes suffixes excluded) (fs.depth + 1) path dir).map
        Path.ofNames) := by
    refine walkFirst_eq_ok_iff.mpr
      ⟨(ne_empty_of_find? hpath h).2, fun _ => exists_absolute_of_settled hpath, ?_⟩
    rw [firstFiles, walk, h]
  refine ⟨_, hwalk, fun names => mem_walkFrom_iff_selects hfs hpath h,
    nodup_of_walkFirst hfs hdistinct hwalk, pairwise_walkFrom hfs hdistinct,
    fun names hmem => isName_of_mem_walkFrom hfs hmem, fun limit => ?_,
    fun fs' hperm limit => walkFirst_eq_of_perm hfs hdistinct hperm limit⟩
  have hlimit : (max limit 0).toNat = limit.toNat := by omega
  rw [hlimit]
  exact walkFirst_some_of_none hwalk limit

/-- A directory with files of many kinds: hidden ones, links to a directory and to nothing, and
    files in directories that are entered, hidden or left out. -/
def mixedFiles : FileSystem :=
  ⟨[(["p"], .directory), (["p", "sub"], .directory), (["p", "sub", "c.ts"], .file "c".toUTF8),
    (["p", "gone.ts"], .link "nowhere"), (["p", "d.ts"], .link "sub"),
    (["p", "b.ts"], .file "b".toUTF8), (["p", "A.D.TS"], .file "a".toUTF8),
    (["p", ".h.ts"], .file "h".toUTF8), (["p", "x.js"], .file "x".toUTF8),
    (["p", "test"], .directory), (["p", "test", "t.ts"], .file "t".toUTF8),
    (["p", ".git"], .directory), (["p", ".git", "g.ts"], .file "g".toUTF8)]⟩

theorem walk_lists_selected_in_order_mixed :
    ∃ walked : List Location,
      walked.map Path.ofNames = ["A.D.TS", "b.ts", "gone.ts", "sub/c.ts"] ∧
      (∀ names, names ∈ walked ↔ ∃ front name, names = front ++ [name] ∧
        Selects mixedFiles (standing []) [".TS"] ["test"] "/p" ["p"] front name) ∧
      walked.Pairwise Precedes := by
  have hfs : mixedFiles.WellFormed := by decide +kernel
  have hwalk : mixedFiles.walkFirst (standing []) (FileFilter.ofSuffixes [".TS"] ["test"]) none
      "/p" = .ok ["A.D.TS", "b.ts", "gone.ts", "sub/c.ts"] := by decide +kernel
  have hfind : mixedFiles.find? (standing []) "/p" = .ok (["p"], .directory) :=
    find?_eq_ok_iff.mpr ⟨by decide +kernel, by decide +kernel⟩
  obtain ⟨walked, hlisted, hmem, -, horder, -⟩ :=
    walk_lists_selected_in_order hfs (by decide +kernel) (Or.inr rfl) hfind [".TS"] ["test"]
  rw [hwalk] at hlisted
  exact ⟨walked, (Except.ok.inj hlisted).symm, hmem, horder⟩

/-- A directory with one file. -/
def plainFiles : FileSystem := ⟨[(["x"], .directory), (["x", "a.ts"], .file "a".toUTF8)]⟩

/-- A directory that holds a link to another, and a chain of five links that leads to it. -/
def loopFiles : FileSystem :=
  ⟨[(["r"], .directory), (["t"], .directory), (["r", "d.ts"], .link "../t"), (["a"], .link "r"),
    (["b"], .link "a"), (["c"], .link "b"), (["d"], .link "c"), (["e"], .link "d")]⟩

/-- A path along that chain, back and along it again, with as many links as can be followed. -/
def loopPath : String := "e/../e/../e/../e/../e/../e/../e/../e"

/-- **Walks from nowhere, and out of reach.** A walk by a path that is taken from a place that was
    removed fails, though the path leads to a directory with a file to be listed. And behind as many
    links as can be followed, a walk lists a link that leads to a directory. -/
theorem walk_fails_or_lists_directory :
    (plainFiles.WellFormed ∧ plainFiles.Distinct ∧
      plainFiles.isDirectory ⟨["w"], 1⟩ "../x" = true ∧
      Selects plainFiles ⟨["w"], 1⟩ [".ts"] [] "../x" ["x"] [] "a.ts" ∧
      plainFiles.walkFirst ⟨["w"], 1⟩ (FileFilter.ofSuffixes [".ts"] []) none "../x" =
        .error ⟨.missing, []⟩) ∧
    loopFiles.WellFormed ∧ loopFiles.Distinct ∧
      loopFiles.resolve true (standing []) loopPath = .ok ["r"] ∧
      loopFiles.isDirectory (standing []) "r/d.ts" = true ∧
      loopFiles.walkFirst (standing []) (FileFilter.ofSuffixes [".ts"] []) none loopPath =
        .ok ["d.ts"] := by
  refine ⟨⟨by decide +kernel, by decide +kernel, by decide +kernel, ?_, by decide +kernel⟩,
    by decide +kernel, by decide +kernel, by decide +kernel, by decide +kernel, by decide +kernel⟩
  exact ⟨fun q hq hne => absurd (List.prefix_nil.mp hq) hne, by simp, ⟨_, rfl, by simp⟩,
    by decide +kernel, by decide, ⟨".ts", by decide, by decide +kernel⟩⟩

end PackageAtlas.FileSystem
