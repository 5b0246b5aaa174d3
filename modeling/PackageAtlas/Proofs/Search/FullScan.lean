import PackageAtlas.Proofs.Docs.Reports
import PackageAtlas.Proofs.FileSystem.WalkOrder
import PackageAtlas.Proofs.Search.Hits
import PackageAtlas.Proofs.Source.Window

namespace PackageAtlas.Search

open Docs (IsDocsFile Replica packageKey)

/-!
# Searches are parts of full scans

A search stops as soon as it has enough hits, and yet finds what looking through all files would
find first:

* `lineHits`, `fullScan`: all hits in some lines and in some files;
* `hitsIn_eq_take`, `hitsUpTo_eq_take`: a limited search takes the first of them;
* `copiesOf`, `filesOf`: the files that are searched, in their order;
* `nodup_sources`: each of them is searched once, as documentation and other files end differently;
* `search_takes_first_hits`: all that a search gives, and `search_fails_unwritable` for where it
  fails.
-/

variable {fs : FileSystem} {here : Standpoint} {regex : Pattern.Regex}
  {find : String → Option String} {context : Int} {file : String} {p : Package}

/-! ### Full scans -/

/-- The hit at the line at `i`, where `found` is what matches first in it. -/
def hitAt (file : String) (context : Int) (lines : List String) (i : Nat) (found : String) :
    Hit where
  file := file
  line := i + 1
  found := found
  snippet := Text.joinLines (PackageAtlas.Source.numbered lines
    (max 1 (i + 1 - context)) (min lines.length (i + 1 + context)))

/-- All hits of a matcher in the lines of a file. -/
def lineHits (find : String → Option String) (file : String) (context : Int)
    (lines : List String) : List Hit :=
  lines.zipIdx.filterMap (fun l => (find l.1).map (hitAt file context lines l.2))

/-- The lines of a file to search; none if it cannot be read. -/
def linesOf (fs : FileSystem) (here : Standpoint) (s : Source) : List String :=
  match fs.read here (Path.join s.base s.file) with
  | .ok bytes => Text.lines (Text.Utf8.decodeBytes bytes)
  | .error _ => []

/-- All hits of a matcher in those of some sources that are files. -/
def fullScan (fs : FileSystem) (here : Standpoint) (find : String → Option String) (context : Int)
    (sources : List Source) : List Hit :=
  (sources.filter (fun s => fs.isFile here (Path.join s.base s.file))).flatMap
    (fun s => lineHits find s.file context (linesOf fs here s))

theorem fullScan_append (sources more : List Source) :
    fullScan fs here find context (sources ++ more) =
      fullScan fs here find context sources ++ fullScan fs here find context more := by
  rw [fullScan, List.filter_append, List.flatMap_append, fullScan, fullScan]

/-! ### Limited searches -/

/-- The first items of two lists are the first of one, and of the other as many as are lacking. -/
theorem ite_take_append (limit : Nat) (first rest : List Hit) :
    (if limit ≤ (first.take limit).length then first.take limit
      else first.take limit ++ rest.take (limit - (first.take limit).length)) =
        (first ++ rest).take limit := by
  rw [List.take_append, List.length_take]
  split
  · have henough : limit - first.length = 0 := by omega
    rw [henough, List.take_zero, List.append_nil]
  · have hlength : min limit first.length = first.length := by omega
    rw [hlength]

/-- Hits are added one by one behind those that are done. -/
theorem hitsFrom_eq {all ls : List String} (hfind : ∀ line ∈ ls, regex.find? line = .ok (find line))
    (limit i : Nat) (done : List Hit) :
    hitsFrom regex file all context limit i done ls =
      .ok (done.reverse ++ ((ls.zipIdx i).filterMap (fun l => (find l.1).map (fun found =>
        (⟨file, l.2 + 1, found, snippet all context l.2⟩ : Hit)))).take limit) := by
  -- The hits that are done grow from line to line, while fewer are still wanted.
  induction ls generalizing limit i done with
  | nil =>
    rw [hitsFrom]
    simp
  | cons line ls ih =>
    have hrest : ∀ l ∈ ls, regex.find? l = .ok (find l) :=
      fun l hl => hfind l (List.mem_cons_of_mem line hl)
    cases limit with
    | zero =>
      rw [hitsFrom]
      simp
    | succ limit =>
      rw [hitsFrom, hfind line List.mem_cons_self, List.zipIdx_cons, List.filterMap_cons]
      rcases find line with _ | found
      · exact ih hrest (limit + 1) (i + 1) done
      · simp only [Option.map_some, List.take_succ_cons]
        rw [ih hrest]
        simp

/-- **Hits in a file.** The first of all hits in its lines. -/
theorem hitsIn_eq_take (hcontext : 0 ≤ context) {text : String}
    (hfind : ∀ line ∈ Text.lines text, regex.find? line = .ok (find line)) (limit : Nat) :
    hitsIn regex file context limit (Text.lines text) =
      .ok ((lineHits find file context (Text.lines text)).take limit) := by
  have hshown : ∀ i, snippet (Text.lines text) context i = Text.joinLines
      (PackageAtlas.Source.numbered (Text.lines text) (max 1 (i + 1 - context))
        (min (Text.lines text).length (i + 1 + context))) := by
    intro i
    rw [snippet_eq_excerpt text hcontext, PackageAtlas.Source.excerpt,
      PackageAtlas.Source.Window.around_lines]
    rfl
  rw [hitsIn, hitsFrom_eq hfind, List.reverse_nil, List.nil_append, lineHits]
  simp only [hshown]
  rfl

theorem hitsOf_eq_take (hcontext : 0 ≤ context) {s : Source}
    (hfind : ∀ line ∈ linesOf fs here s, regex.find? line = .ok (find line)) (limit : Nat) :
    hitsOf fs here regex context limit s =
      .ok ((fullScan fs here find context [s]).take limit) := by
  -- A file that cannot be read has no lines and no hits.
  rcases hread : fs.read here (Path.join s.base s.file) with e | bytes
  · have hnone : fs.isFile here (Path.join s.base s.file) = false := by
      rw [Bool.eq_false_iff]
      intro hfile
      obtain ⟨bytes, hbytes⟩ := FileSystem.exists_read_of_isFile hfile
      rw [hread] at hbytes
      simp at hbytes
    unfold hitsOf
    simp [fullScan, hread, hnone]
  · have hfile := FileSystem.isFile_of_read hread
    have hlines : linesOf fs here s = Text.lines (Text.Utf8.decodeBytes bytes) := by
      unfold linesOf
      simp only [hread]
    have hscan : fullScan fs here find context [s] =
        lineHits find s.file context (linesOf fs here s) := by
      simp [fullScan, hfile]
    rw [hscan, hlines]
    rw [hlines] at hfind
    unfold hitsOf
    simp only [hread]
    exact hitsIn_eq_take hcontext hfind limit

/-- **Hits in some files.** The first of all hits in them. -/
theorem hitsUpTo_eq_take (hcontext : 0 ≤ context) {sources : List Source}
    (hfind : ∀ s ∈ sources, ∀ line ∈ linesOf fs here s, regex.find? line = .ok (find line))
    (limit : Nat) :
    hitsUpTo fs here regex context limit sources =
      .ok ((fullScan fs here find context sources).take limit) := by
  induction sources generalizing limit with
  | nil =>
    rw [hitsUpTo]
    simp [fullScan]
  | cons s sources ih =>
    have hsplit : fullScan fs here find context (s :: sources) =
        fullScan fs here find context [s] ++ fullScan fs here find context sources :=
      fullScan_append [s] sources
    -- The search stops behind a file with enough hits, where taking takes nothing more.
    rw [hitsUpTo, hitsOf_eq_take hcontext (hfind s List.mem_cons_self), hsplit, ← ite_take_append]
    simp only [ih (fun s' hs' => hfind s' (List.mem_cons_of_mem s hs'))]
    exact (apply_ite Except.ok _ _ _).symm

/-! ### Searches of packages -/

/-- The copies of documentation that are remembered under a key, as files to search. -/
def copiesOf (replica : Option Replica) (key : String) : List Source :=
  match replica with
  | some r => ((r.memo.lookup key).getD []).map (fun f => ⟨Path.join r.directory key, f⟩)
  | none => []

/-- Files of a package, as files to search. -/
def filesOf (p : Package) (files : List String) : List Source :=
  files.map (fun f => ⟨p.directory, f⟩)

/-- **Searches of packages.** The first of all hits in the copies of documentation and in the files
    of the package behind them. -/
theorem firstHits_eq_take {replica : Option Replica} {key : String} {files : List String}
    {limit : Int} (hcontext : 0 ≤ context) (hlimit : 1 ≤ limit)
    (hkey : ∀ r, replica = some r → packageKey p = .ok key)
    (hwalk : fs.walkFirst here FileFilter.search none p.directory = .ok files)
    (hfind : ∀ s ∈ copiesOf replica key ++ filesOf p files, ∀ line ∈ linesOf fs here s,
      regex.find? line = .ok (find line)) :
    firstHits fs here replica p regex context limit =
      .ok ((fullScan fs here find context (copiesOf replica key ++ filesOf p files)).take
        limit.toNat) := by
  have hwanted : (max 1 limit).toNat = limit.toNat := by omega
  have hdocs := hitsUpTo_eq_take hcontext
    (fun s hs => hfind s (List.mem_append_left _ hs)) limit.toNat
  have hcode := fun left => hitsUpTo_eq_take hcontext
    (fun s hs => hfind s (List.mem_append_right _ hs)) left
  have hfiles : codeSources fs here p = .ok (filesOf p files) := by
    rw [codeSources, hwalk]
    rfl
  have hstart : firstHits fs here replica p regex context limit = (do
      let found ← orSearchError .span
        (hitsUpTo fs here regex context limit.toNat (copiesOf replica key))
      if limit.toNat ≤ found.length then return found
      let code ← orSearchError .keeping (codeSources fs here p)
      return found ++ (← orSearchError .span
        (hitsUpTo fs here regex context (limit.toNat - found.length) code))) := by
    unfold firstHits
    simp only [hwanted]
    -- A key is asked for only where copies are kept.
    cases replica with
    | none => rfl
    | some r =>
      simp only [docsSources, Replica.packageDirectory, Replica.docs, hkey r rfl]
      rfl
  rw [hstart, hdocs, hfiles, fullScan_append, ← ite_take_append]
  simp only [orSearchError, bind, Except.bind, hcode]
  split <;> rfl

/-! ### Each line once -/

/-- Every line with a match is hit, and no other. -/
theorem mem_lineHits_iff {lines : List String} {hit : Hit} :
    hit ∈ lineHits find file context lines ↔ ∃ i line found, lines[i]? = some line ∧
      find line = some found ∧ hit = hitAt file context lines i found := by
  rw [lineHits, List.mem_filterMap]
  constructor
  · rintro ⟨⟨line, i⟩, hmem, hhit⟩
    obtain ⟨found, hfound, rfl⟩ := Option.map_eq_some_iff.mp hhit
    exact ⟨i, line, found, List.mk_mem_zipIdx_iff_getElem?.mp hmem, hfound, rfl⟩
  · rintro ⟨i, line, found, hline, hfound, rfl⟩
    exact ⟨(line, i), List.mk_mem_zipIdx_iff_getElem?.mpr hline,
      Option.map_eq_some_iff.mpr ⟨found, hfound, rfl⟩⟩

/-- The hits in a file stand in the order of their lines. -/
theorem pairwise_lineHits (lines : List String) :
    (lineHits find file context lines).Pairwise (fun a b => a.line < b.line) := by
  have hplaces : lines.zipIdx.Pairwise (fun a b => a.2 < b.2) := by
    rw [← List.pairwise_map (f := Prod.snd), List.zipIdx_map_snd]
    exact List.pairwise_lt_range'
  refine hplaces.filterMap _ (fun a b hab hit hhit hit' hhit' => ?_)
  obtain ⟨found, -, rfl⟩ := Option.map_eq_some_iff.mp hhit
  obtain ⟨found', -, rfl⟩ := Option.map_eq_some_iff.mp hhit'
  exact Nat.add_lt_add_right hab 1

theorem file_of_mem_lineHits {lines : List String} {hit : Hit}
    (h : hit ∈ lineHits find file context lines) : hit.file = file := by
  obtain ⟨i, line, found, -, -, rfl⟩ := mem_lineHits_iff.mp h
  rfl

theorem mem_fullScan_iff {sources : List Source} {hit : Hit} :
    hit ∈ fullScan fs here find context sources ↔
      ∃ s ∈ sources, fs.isFile here (Path.join s.base s.file) = true ∧
        ∃ i line found, (linesOf fs here s)[i]? = some line ∧ find line = some found ∧
          hit = hitAt s.file context (linesOf fs here s) i found := by
  rw [fullScan, List.mem_flatMap]
  simp only [List.mem_filter, mem_lineHits_iff, and_assoc]

/-- No line is hit twice if no file is searched twice. -/
theorem nodup_fullScan {sources : List Source} (h : (sources.map Source.file).Nodup) :
    ((fullScan fs here find context sources).map (fun hit => (hit.file, hit.line))).Nodup := by
  rw [fullScan, List.map_flatMap, List.nodup_flatMap]
  constructor
  · intro s _
    refine List.pairwise_map.mpr ((pairwise_lineHits _).imp (fun hab heq => ?_))
    exact Nat.ne_of_lt hab (Prod.mk.inj heq).2
  · have hfiles : sources.Pairwise (fun a b => a.file ≠ b.file) := List.pairwise_map.mp h
    refine (hfiles.filter _).imp (fun hab => ?_)
    rw [Function.onFun_apply, List.disjoint_left]
    intro pair hpair hpair'
    obtain ⟨hit, hhit, rfl⟩ := List.mem_map.mp hpair
    obtain ⟨hit', hhit', heq⟩ := List.mem_map.mp hpair'
    rw [← file_of_mem_lineHits hhit, ← file_of_mem_lineHits hhit'] at hab
    exact hab (Prod.mk.inj heq).1.symm

/-! ### Documentation and other files -/

/-- A file that a filter lets through has one of its ends. -/
theorem exists_suffix_of_rejectsFile {filter : FileFilter} {name : String}
    (h : filter.rejectsFile name = false) :
    ∃ ending ∈ filter.suffixes, ending.toList <:+ (Text.lower name).toList := by
  rw [FileFilter.rejectsFile, Bool.or_eq_false_iff, Bool.not_eq_false', List.any_eq_true] at h
  obtain ⟨-, ending, hmem, hend⟩ := h
  exact ⟨ending, hmem, List.isSuffixOf_iff_suffix.mp hend⟩

/-- Files of documentation end as such. -/
theorem suffix_of_isDocsFile (h : IsDocsFile file) :
    ".md".toList <:+ (Text.lower file).toList := by
  obtain ⟨names, -, -, rfl, name, hlast, hname⟩ := h
  obtain ⟨ending, hmem, hend⟩ := exists_suffix_of_rejectsFile hname
  have hdocs : FileFilter.docs.suffixes = [".md"] := by decide +kernel
  rw [hdocs, List.mem_singleton] at hmem
  subst hmem
  obtain ⟨front, rfl⟩ := List.getLast?_eq_some_iff.mp hlast
  exact (Path.suffix_lower_ofNames (by decide) (by decide) (by decide) front name).mpr hend

/-- Files that are searched do not end as documentation. -/
theorem not_suffix_of_searched {names : List String} {name : String}
    (hlast : names.getLast? = some name) (hname : FileFilter.search.rejectsFile name = false) :
    ¬ ".md".toList <:+ (Text.lower (Path.ofNames names)).toList := by
  obtain ⟨ending, hmem, hend⟩ := exists_suffix_of_rejectsFile hname
  have hends : ∀ e ∈ FileFilter.search.suffixes, 'ς' ∉ e.toList ∧ 'σ' ∉ e.toList ∧
      '/' ∉ e.toList ∧ (e.toList.getLast? = some 's' ∨ e.toList.getLast? = some 'x') := by
    decide +kernel
  obtain ⟨hfinal, hsigma, hslash, hletter⟩ := hends ending hmem
  obtain ⟨directories, rfl⟩ := List.getLast?_eq_some_iff.mp hlast
  obtain ⟨front, hfront⟩ :=
    (Path.suffix_lower_ofNames hfinal hsigma hslash directories name).mpr hend
  rintro ⟨front', hfront'⟩
  -- The last letter tells them apart.
  have hd : (Text.lower (Path.ofNames (directories ++ [name]))).toList.getLast? = some 'd' := by
    rw [← hfront', List.getLast?_append]
    rfl
  rw [← hfront, List.getLast?_append] at hd
  rcases hletter with hs | hx
  · rw [hs] at hd
    simp at hd
  · rw [hx] at hd
    simp at hd

/-- **Each file once.** No file is searched twice, nor as a copy and as a file of the package. -/
theorem nodup_sources {replica : Option Replica} {key : String} {files : List String}
    (hfs : fs.WellFormed) (hdistinct : fs.Distinct)
    (hreached : ∀ r, replica = some r → r.Reached)
    (hwalk : fs.walkFirst here FileFilter.search none p.directory = .ok files) :
    ((copiesOf replica key ++ filesOf p files).map Source.file).Nodup := by
  have hfilesOf : (filesOf p files).map Source.file = files := by
    rw [filesOf, List.map_map]
    exact List.map_id files
  have hfiles := FileSystem.nodup_of_walkFirst hfs hdistinct hwalk
  obtain ⟨docs, hdocs, honce, hdocuments⟩ : ∃ docs, (copiesOf replica key).map Source.file = docs ∧
      docs.Nodup ∧ ∀ f ∈ docs, IsDocsFile f := by
    rcases replica with _ | r
    · exact ⟨[], rfl, List.nodup_nil, by simp⟩
    · have hself : (copiesOf (some r) key).map Source.file = (r.memo.lookup key).getD [] := by
        rw [copiesOf, List.map_map]
        exact List.map_id _
      refine ⟨_, hself, ?_⟩
      rcases hlook : r.memo.lookup key with _ | docs
      · simp
      · exact ⟨(hreached r rfl).nodup hlook, (hreached r rfl).documents key docs hlook⟩
  rw [List.map_append, hdocs, hfilesOf]
  refine List.nodup_append.mpr ⟨honce, hfiles, fun f hf g hg => ?_⟩
  -- A copy and a file of the package end differently.
  rintro rfl
  obtain ⟨loc, names, -, hnames, rfl⟩ := FileSystem.exists_names_of_mem_walkFirst hwalk hg
  obtain ⟨name, hlast, hname⟩ := FileSystem.rejectsFile_of_mem_walkFrom hfs hnames
  exact not_suffix_of_searched hlast hname (suffix_of_isDocsFile (hdocuments _ hf))

/-- Whatever stands before one of the first items is one of them. -/
theorem mem_take_of_before {items before after : List Hit} {hit other : Hit} {k : Nat}
    (hnodup : items.Nodup) (hitems : items = before ++ hit :: after) (hhit : hit ∈ items.take k)
    (hother : other ∈ before) : other ∈ items.take k := by
  subst hitems
  obtain ⟨hbefore, -⟩ := List.nodup_cons.mp (List.nodup_middle.mp hnodup)
  rw [List.take_append] at hhit ⊢
  -- Fewer than stand before the hit cannot reach it, as it occurs once.
  have hfew : before.length ≤ k := by
    by_contra hmore
    have hnone : k - before.length = 0 := by omega
    rw [hnone, List.take_zero, List.append_nil] at hhit
    exact hbefore (List.mem_append_left _ (List.mem_of_mem_take hhit))
  rw [List.take_of_length_le hfew]
  exact List.mem_append_left _ hother

/-! ### All that a search gives -/

/-- **Searches.** All hits are those in the copies of documentation of the package, in the order in
    which these are remembered, and behind them those in its own files, in the order of the walk,
    as far as these are files: every line with a match, from the first line on, with the lines
    around it. A search gives the first of them, as many as are asked for. So a higher limit only
    adds hits, no line of a file is hit twice, and no line with a match is left out before a hit
    that is given. -/
theorem search_takes_first_hits {replica : Option Replica} {key : String} {files : List String}
    {limit : Int} (hfs : fs.WellFormed) (hdistinct : fs.Distinct)
    (hreached : ∀ r, replica = some r → r.Reached)
    (hkey : ∀ r, replica = some r → packageKey p = .ok key)
    (hwalk : fs.walkFirst here FileFilter.search none p.directory = .ok files)
    (hfind : ∀ s ∈ copiesOf replica key ++ filesOf p files, ∀ line ∈ linesOf fs here s,
      regex.find? line = .ok (find line))
    (hcontext : 0 ≤ context) (hlimit : 1 ≤ limit) :
    let sources := copiesOf replica key ++ filesOf p files
    let scan := fullScan fs here find context sources
    firstHits fs here replica p regex context limit = .ok (scan.take limit.toNat) ∧
    (∀ limit', limit ≤ limit' → ∃ more,
      firstHits fs here replica p regex context limit' = .ok (scan.take limit.toNat ++ more)) ∧
    (scan.map (fun hit => (hit.file, hit.line))).Nodup ∧
    (∀ hit, hit ∈ scan ↔ ∃ s ∈ sources, fs.isFile here (Path.join s.base s.file) = true ∧
      ∃ i line found, (linesOf fs here s)[i]? = some line ∧ find line = some found ∧
        hit = hitAt s.file context (linesOf fs here s) i found) ∧
    ∀ before hit after, scan = before ++ hit :: after → hit ∈ scan.take limit.toNat →
      ∀ other ∈ before, other ∈ scan.take limit.toNat := by
  have hnodup : ((fullScan fs here find context (copiesOf replica key ++ filesOf p files)).map
      (fun hit => (hit.file, hit.line))).Nodup :=
    nodup_fullScan (nodup_sources hfs hdistinct hreached hwalk)
  refine ⟨firstHits_eq_take hcontext hlimit hkey hwalk hfind, fun limit' hle => ?_, hnodup,
    fun hit => mem_fullScan_iff,
    fun before hit after hsplit hhit other hother =>
      mem_take_of_before (List.Nodup.of_map _ hnodup) hsplit hhit hother⟩
  have hmost : limit.toNat ≤ limit'.toNat := by omega
  obtain ⟨more, hmore⟩ := List.take_prefix_take_left
    (l := fullScan fs here find context (copiesOf replica key ++ filesOf p files)) hmost
  refine ⟨more, ?_⟩
  rw [firstHits_eq_take hcontext (by omega) hkey hwalk hfind, hmore]

/-- A package with documentation and one more file. -/
def searchedFiles : FileSystem :=
  ⟨[(["p"], .directory), (["p", "d"], .directory),
    (["p", "d", "x.md"], .file "see A\nor B\n".toUTF8),
    (["p", "y.ts"], .file "// none\n// A\n// A again\n".toUTF8)]⟩

/-- That package. -/
def searchedPackage : Package := ⟨Text.WideText.ofString "a", Text.WideText.ofString "1", "/p"⟩

/-- The replica behind a copy of its documentation. -/
def searchedReplica : Replica := ⟨"/c", [("1296fe607590eb9f", ["d/x.md"])]⟩

/-- The files behind that copy. -/
def copiedFiles : FileSystem :=
  ⟨[(["c"], .directory), (["c", "1296fe607590eb9f"], .directory),
    (["c", "1296fe607590eb9f", "d"], .directory),
    (["c", "1296fe607590eb9f", "d", "x.md"], .file "see A\nor B\n".toUTF8)] ++
    searchedFiles.nodes⟩

/-- The pattern of one letter. -/
def letterRegex : Pattern.Regex := ⟨.one (.ofCode {} false 0x41) .success, 1, true⟩

example : Pattern.Regex.compile "A" "" = .ok letterRegex := rfl

/-- What that pattern finds in a line. -/
def letterFind (line : String) : Option String := (letterRegex.find? line).toOption.getD none

theorem packageKey_searchedPackage : packageKey searchedPackage = .ok "1296fe607590eb9f" := by
  decide +kernel

theorem reached_searchedReplica : searchedReplica.Reached := by
  have hstands : FileSystem.Stands searchedFiles (FileSystem.standing []) :=
    ⟨by decide +kernel, by decide, by decide +kernel⟩
  have hr : (((Replica.new "/c").copyPackage searchedFiles (FileSystem.standing [])
      searchedPackage).map (fun copied => copied.2.1)) = .ok searchedReplica := by
    rw [Replica.copyPackage, packageKey_searchedPackage]
    decide +kernel
  rcases hcopy : (Replica.new "/c").copyPackage searchedFiles (FileSystem.standing [])
      searchedPackage with e | ⟨files, r, fs⟩
  · rw [hcopy] at hr
    simp [Except.map] at hr
  · rw [hcopy] at hr
    rw [← Except.ok.inj hr]
    exact .copyPackage (.new "/c") hstands hcopy

/-- Of three hits the first two are given: one in a copy and one in the file of the package. -/
theorem search_takes_first_hits_copied :
    firstHits copiedFiles (FileSystem.standing []) (some searchedReplica) searchedPackage
        letterRegex 1 2 =
      .ok [⟨"d/x.md", 1, "A", "see A\nor B"⟩, ⟨"y.ts", 2, "A", "// none\n// A\n// A again"⟩] := by
  have hfs : copiedFiles.WellFormed := by decide +kernel
  have hwalk : copiedFiles.walkFirst (FileSystem.standing []) FileFilter.search none
      searchedPackage.directory = .ok ["y.ts"] := by decide +kernel
  have hfind : ∀ s ∈ copiesOf (some searchedReplica) "1296fe607590eb9f" ++
      filesOf searchedPackage ["y.ts"],
      ∀ line ∈ linesOf copiedFiles (FileSystem.standing []) s,
        letterRegex.find? line = .ok (letterFind line) := by decide +kernel
  obtain ⟨hfirst, -⟩ := search_takes_first_hits hfs (by decide +kernel)
    (fun r hr => Option.some.inj hr ▸ reached_searchedReplica)
    (fun _ _ => packageKey_searchedPackage) hwalk hfind
    (by decide : (0 : Int) ≤ 1) (by decide : (1 : Int) ≤ 2)
  rw [hfirst]
  decide +kernel

/-- A package whose version is half of a pair. -/
def unwritablePackage : Package := { searchedPackage with version := ⟨[0xD800]⟩ }

/-- **Searches that fail.** A package whose version cannot be written has no key, so it cannot be
    searched where copies are kept, though none were made of it; without copies it can. -/
theorem search_fails_unwritable :
    searchedFiles.WellFormed ∧ searchedFiles.Distinct ∧
    searchedFiles.walkFirst (FileSystem.standing []) FileFilter.search none
      unwritablePackage.directory = .ok ["y.ts"] ∧
    fullScan searchedFiles (FileSystem.standing []) letterFind 0
        (filesOf unwritablePackage ["y.ts"]) =
      [⟨"y.ts", 2, "A", "// A"⟩, ⟨"y.ts", 3, "A", "// A again"⟩] ∧
    firstHits searchedFiles (FileSystem.standing []) (some (Replica.new "/c")) unwritablePackage
        letterRegex 0 1 = .error (.keeping (.unwritable ⟨2, 1, 0xD800⟩)) ∧
    firstHits searchedFiles (FileSystem.standing []) none unwritablePackage letterRegex 0 1 =
      .ok [⟨"y.ts", 2, "A", "// A"⟩] := by
  decide +kernel

end PackageAtlas.Search
