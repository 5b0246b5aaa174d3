import PackageAtlas.Proofs.Search.FullScan
import PackageAtlas.Proofs.Tool.DocsTransparency

namespace PackageAtlas.Tool

open Docs (IsDocsFile Replica)
open Package (insidePath)
open Search (Hit Source)

/-!
# Hits are read back

What a search shows with a hit can be read by the file of the hit and the numbers of its lines:

* `isDocs_of_isDocsFile`, `isDocs_eq_false_of_searched`: files that are copied are told from those
  that are searched by the ends of their paths;
* `yields_searchPackage`: what a search gives; `yields_readFile_of_read`: what a read gives;
* `IsReadAt`: so a search and a read look at the same place;
* `hits_are_read_back`: the lines that are read are those that were shown with the hit.
-/

variable {s s' : Session} {p : Package} {r : Replica} {file f : String} {names : List String}

/-! ### Documentation and other files -/

/-- Files of documentation end as such. -/
theorem isDocs_of_isDocsFile (h : IsDocsFile f) : isDocs f = true :=
  List.isSuffixOf_iff_suffix.mpr (Search.suffix_of_isDocsFile h)

/-- Files that are searched do not end as documentation. -/
theorem isDocs_eq_false_of_searched {name : String} (hlast : names.getLast? = some name)
    (hname : FileFilter.search.rejectsFile name = false) :
    isDocs (Path.ofNames names) = false := by
  rw [← Bool.not_eq_true, isDocs, List.isSuffixOf_iff_suffix]
  exact Search.not_suffix_of_searched hlast hname

/-! ### What a search gives -/

/-- The copies are those that are remembered, or none yet in the directory of the settings. -/
theorem yields_currentReplica_of_settings {settings : Settings} (hs : s.settings = some settings)
    (h : Yields currentReplica s r s') :
    s' = { s with replica := some r } ∧
      (s.replica = some r ∨ r = Replica.new settings.docsDirectory) := by
  unfold currentReplica at h
  rw [yields_get_bind] at h
  split at h
  · rename_i kept hkept
    obtain ⟨rfl, rfl⟩ := yields_pure.mp h
    exact ⟨by rw [← hkept], Or.inl hkept⟩
  · rw [yields_bind] at h
    obtain ⟨found, t, hfound, h⟩ := h
    obtain ⟨hconfig, rfl⟩ := yields_currentSettings.mp hfound
    have hsame : settings = found := by
      rw [Session.config, hs] at hconfig
      exact Except.ok.inj hconfig
    rw [yields_modify_bind, yields_pure] at h
    obtain ⟨rfl, rfl⟩ := h
    exact ⟨by rw [← hsame, ← hs], Or.inr (by rw [hsame])⟩

/-- What a search gives, where it gives hits: it asks for the settings and the copies, and changes
    nothing else. -/
theorem yields_searchPackage {package pattern root flags context limit copies : Argument}
    {found : List Hit}
    (h : Yields (searchPackage package pattern root flags context limit copies) s
      (.hits p found) s') :
    ∃ c settings r, context.number? = some c ∧ 0 ≤ c ∧
      s' = { s with settings := some settings, replica := some r } ∧
      (s.replica = some r ∨ r = Replica.new settings.docsDirectory) ∧
      Yields (findPackage package root) s (some p) s ∧
      ∃ regex most, Search.firstHits s.fs s.here (some r) p regex c most = .ok found := by
  unfold searchPackage at h
  rw [yields_requireRange_bind] at h
  obtain ⟨c, hnumber, hrange, h⟩ := h
  rw [yields_currentSettings_bind] at h
  obtain ⟨settings, -, h⟩ := h
  rw [yields_requireRange_bind] at h
  obtain ⟨most, -, -, h⟩ := h
  rw [(looksOnly_findPackage package root).yields_bind_iff] at h
  obtain ⟨meant, hmeant, h⟩ := h
  rcases meant with _ | q
  · simp at h
  simp only at h
  split at h
  · simp at h
  · split at h <;> simp at h
  · rename_i regex hregex
    split at h
    · exact absurd h yields_throw_bind
    rw [yields_bind] at h
    obtain ⟨r, u, hreplica, h⟩ := h
    rw [yields_get_bind] at h
    rw [yields_orFault_bind] at h
    obtain ⟨hits, hhits, h⟩ := h
    obtain ⟨heq, rfl⟩ := yields_pure.mp h
    obtain ⟨rfl, rfl⟩ := Answer.hits.inj heq
    obtain ⟨rfl, horigin⟩ := yields_currentReplica_of_settings rfl hreplica
    exact ⟨c, settings, r, hnumber, by simpa [inRange] using hrange, rfl, horigin,
      (looksOnly_findPackage package root).yields_of_same hmeant rfl rfl, regex, most, hhits⟩

/-! ### Lines that are shown -/

/-- Lines of a file are shown, from its copy if there is one. -/
theorem yields_readFile_of_read {package root : Argument} {start count : Int} {settings : Settings}
    {inside : String} {copy : Option String} {bytes : ByteArray}
    (hsettings : s.settings = some settings)
    (hfound : Yields (findPackage package root) s (some p) s) (hstart : 1 ≤ start)
    (hcount : 1 ≤ count) (hmost : count ≤ settings.maxReadLines)
    (hslashes : Package.withSlashes file = file)
    (hinside : insidePath p.directory file = .ok inside)
    (hcopy : Yields (replicated? p file .nothing) s copy s)
    (hread : s.fs.read s.here (copy.getD inside) = .ok bytes) :
    Yields (readFile package (.text file) root (.number start) (.number count) .nothing) s
      (.file p file (PackageAtlas.Source.excerpt (Text.Utf8.decodeBytes bytes) ⟨start, count⟩))
      s := by
  have hkept : Yields currentSettings s settings s := by
    refine yields_currentSettings.mpr ⟨by rw [Session.config, hsettings], ?_⟩
    rw [← hsettings]
  unfold readFile
  refine yields_bind.mpr ⟨some start, s, ?_, ?_⟩
  · exact yields_bind.mpr ⟨none, s, yields_pure.mpr ⟨rfl, rfl⟩, yields_requireRange_bind.mpr
      ⟨start, rfl, by simp [inRange, hstart], yields_pure.mpr ⟨rfl, rfl⟩⟩⟩
  refine yields_bind.mpr ⟨some count, s, ?_, ?_⟩
  · refine yields_bind.mpr ⟨some settings.maxReadLines, s,
      yields_bind.mpr ⟨settings, s, hkept, yields_pure.mpr ⟨rfl, rfl⟩⟩, ?_⟩
    exact yields_requireRange_bind.mpr
      ⟨count, rfl, by simp [inRange, hcount, hmost], yields_pure.mpr ⟨rfl, rfl⟩⟩
  refine yields_bind.mpr ⟨some p, s, hfound, ?_⟩
  refine yields_requireText_bind.mpr ⟨file, rfl, ?_⟩
  refine yields_pathInside_bind.mpr ⟨inside, hinside, ?_⟩
  simp only [hslashes]
  refine yields_bind.mpr ⟨copy, s, hcopy, ?_⟩
  rw [yields_isFile_bind, FileSystem.isFile_of_read hread]
  refine yields_bind.mpr ⟨_, s, yields_bind.mpr
    ⟨_, s, yields_readText.mpr ⟨bytes, hread, rfl, rfl⟩, ?_⟩, yields_pure.mpr ⟨rfl, rfl⟩⟩
  exact yields_pure.mpr ⟨rfl, rfl⟩

/-! ### Where hits are read -/

/-- The file of a source is read where the source says: from its copy, or from the package. -/
def IsReadAt (s : Session) (p : Package) (source : Source) : Prop :=
  ∃ inside copy, insidePath p.directory source.file = .ok inside ∧
    Yields (replicated? p source.file .nothing) s copy s ∧
    copy.getD inside = Path.join source.base source.file

section Sources

variable {source : Source} (hr : s.replica = some r) (hback : '\\' ∉ source.file.toList)
  (hdrive : Package.hasDrive source.file = false)

include hr hback hdrive

/-- Copies of documentation are read from where they are searched. -/
theorem isReadAt_of_mem_docsSources (hdocuments : r.Documents) {docs : List Source}
    (hdocs : Search.docsSources r p = .ok docs) (hmem : source ∈ docs)
    (hthere : s.fs.isFile s.here (Path.join source.base source.file) = true) :
    IsReadAt s p source := by
  obtain ⟨key, hkey, hbase, hfile⟩ := Search.exists_key_of_mem_docsSources hdocs hmem
  have hisDocs : IsDocsFile source.file := by
    rcases hlook : r.memo.lookup key with _ | files
    · simp [hlook] at hfile
    · rw [hlook] at hfile
      exact hdocuments key files hlook _ hfile
  obtain ⟨names, hne, hnames, hnamed, -⟩ := id hisDocs
  have hinside : ∀ dir, insidePath dir source.file = .ok (Path.join dir source.file) := by
    intro dir
    rw [hnamed] at hback hdrive ⊢
    exact Package.insidePath_ofNames dir hne hnames hback hdrive
  have hcopy : s.copyOf r p source.file = .ok (some (Path.join source.base source.file)) := by
    unfold Session.copyOf
    rw [hkey]
    simp only
    rw [if_pos (List.contains_iff_mem.mpr hfile), hinside, ← hbase]
    simp only [hthere, if_true]
  refine ⟨_, some (Path.join source.base source.file), hinside p.directory, ?_, rfl⟩
  unfold Yields
  rw [outcome_replicated? hr, isDocs_of_isDocsFile hisDocs, hcopy]
  rfl

/-- Files of a package are read from where they are searched. -/
theorem isReadAt_of_mem_codeSources (hfs : s.fs.WellFormed) {code : List Source}
    (hcode : Search.codeSources s.fs s.here p = .ok code) (hmem : source ∈ code) :
    IsReadAt s p source := by
  unfold Search.codeSources at hcode
  split at hcode
  · rename_i files hfiles
    rw [← Except.ok.inj hcode] at hmem
    obtain ⟨f, hf, rfl⟩ := List.mem_map.mp hmem
    obtain ⟨loc, names, -, hnames, hnamed⟩ := FileSystem.exists_names_of_mem_walkFirst hfiles hf
    obtain ⟨hne, hall⟩ := FileSystem.isName_of_mem_walkFrom hfs hnames
    obtain ⟨name, hlast, hname⟩ := FileSystem.rejectsFile_of_mem_walkFrom hfs hnames
    refine ⟨Path.join p.directory f, none, ?_, ?_, rfl⟩
    · simp only at hback hdrive
      rw [hnamed] at hback hdrive ⊢
      exact Package.insidePath_ofNames p.directory hne hall hback hdrive
    · unfold Yields
      rw [outcome_replicated? hr]
      simp only
      rw [hnamed, isDocs_eq_false_of_searched hlast hname]
      rfl
  · simp at hcode

end Sources

/-! ### The round trip -/

/-- The arguments by which lines of the file of a hit are read that a search with `args` found. -/
def hitArguments (args : Arguments) (hit : Hit) (start count : Int) : Arguments :=
  [("module", args.get "module" .nothing), ("file", .text hit.file),
    ("root", args.get "root" .nothing), ("start_line", .number start), ("count", .number count)]

/-- **Hits are read back.** Whatever has been copied, and whatever is searched for, the lines around
    every hit can be read by its file and their numbers, if as many lines may be asked for, and they
    are those that the search has shown. -/
theorem hits_are_read_back {args : Arguments} {found : List Hit} (hfs : s.fs.WellFormed)
    (hreached : ∀ r, s.replica = some r → r.Reached)
    (hsearch : Name.search.invoke args s = (.done (.hits p found), s')) :
    ∃ context settings, (args.get "context" (.number 5)).number? = some context ∧ 0 ≤ context ∧
      s'.settings = some settings ∧ s'.files = s.files ∧
      ∀ hit ∈ found, '\\' ∉ hit.file.toList →
        (¬ ∃ letter rest, letter.isAlpha = true ∧
          hit.file.toList = letter :: ':' :: '/' :: rest) →
        let start := max 1 (hit.line - context)
        let count := hit.line + context - start + 1
        count ≤ settings.maxReadLines →
          Name.readFile.invoke (hitArguments args hit start count) s' =
            (.done (.file p hit.file hit.snippet), s') := by
  obtain ⟨c, settings, r, hnumber, hc, hs', horigin, hfound, regex, most, hhits⟩ :=
    yields_searchPackage (invoke_eq_done_iff.mp hsearch).2
  have hdocuments : r.Documents := by
    rcases horigin with hkept | rfl
    · exact (hreached r hkept).documents
    · exact Replica.documents_new _
  have hfs' : s'.fs = s.fs := by rw [hs']
  have hhere : s'.here = s.here := by rw [hs']
  have hr : s'.replica = some r := by rw [hs']
  have hsettings : s'.settings = some settings := by rw [hs']
  refine ⟨c, settings, hnumber, hc, hsettings, Session.files_eq_iff.mpr ⟨hfs', hhere⟩, ?_⟩
  intro hit hmem hback hdrive start count hcount
  obtain ⟨source, ⟨bytes, i, hread, hfile, hline, -, hsnippet⟩, hsource⟩ :=
    Search.exists_source_of_mem_firstHits hhits hmem
  rw [hfile] at hback hdrive
  rw [← Package.hasDrive_iff, Bool.not_eq_true] at hdrive
  -- The file is looked for where it was searched.
  have hat : IsReadAt s' p source := by
    rcases hsource with ⟨docs, hdocs, hmem⟩ | ⟨code, hcode, hmem⟩
    · refine isReadAt_of_mem_docsSources hr hback hdrive hdocuments hdocs hmem ?_
      rw [hfs', hhere]
      exact FileSystem.isFile_of_read hread
    · refine isReadAt_of_mem_codeSources hr hback hdrive (hfs' ▸ hfs) ?_ hmem
      rw [hfs', hhere]
      exact hcode
  obtain ⟨inside, copy, hinside, hcopy, hpath⟩ := hat
  -- And the lines are those of the window around the hit.
  have hshown : hit.snippet =
      PackageAtlas.Source.excerpt (Text.Utf8.decodeBytes bytes) ⟨start, count⟩ := by
    rw [hsnippet, Search.snippet_eq_excerpt _ hc, ← hline]
    rfl
  rw [← hfile] at hback hinside hcopy
  rw [← hfs', ← hhere, ← hpath] at hread
  refine invoke_eq_done_iff.mpr ⟨rfl, ?_⟩
  rw [hshown]
  have hagain := (looksOnly_findPackage _ _).yields_of_same hfound hfs' hhere
  exact yields_readFile_of_read hsettings hagain (by omega) (by omega) hcount
    (Package.withSlashes_eq_self hback) hinside hcopy hread

/-! ### Hits in a copy and in a package -/

/-- What is searched for in the outer one of two projects. -/
def nestedSearch : Arguments :=
  [("module", .text "a"), ("pattern", .text "o.t"), ("root", .text "/W/p"),
    ("context", .number 1)]

/-- The session behind the search. -/
def nestedSearched : Session := (nestedFilled "/W/p").afterCall .search nestedSearch

/-- The hits: one in a copy of documentation, and one in a file of the package. -/
def nestedHits : List Hit :=
  [⟨"d/x.md", 1, "out", "outer\n"⟩, ⟨"y.ts", 2, "out", "// none\n// outer\n"⟩]

/-- Both hits are read back, one at the start of its file and one before the end of it. -/
theorem hits_are_read_back_nested :
    (Name.search.invoke nestedSearch (nestedFilled "/W/p")).1 =
      .done (.hits outerPackage nestedHits) ∧
    ∀ hit ∈ nestedHits,
      let start : Int := max 1 (hit.line - 1)
      let count : Int := hit.line + 1 - start + 1
      Name.readFile.invoke (hitArguments nestedSearch hit start count) nestedSearched =
        (.done (.file outerPackage hit.file hit.snippet), nestedSearched) := by
  have hrun : (outcome (fillReplica "/W/p") nestedSession).1 = .ok ⟨1, 1⟩ ∧
      (nestedFilled "/W/p").fs.WellFormed ∧
      (Name.search.invoke nestedSearch (nestedFilled "/W/p")).1 =
        .done (.hits outerPackage nestedHits) ∧
      nestedSearched.settings.map (fun settings => settings.maxReadLines) = some 2000 := by
    decide +kernel
  obtain ⟨hdone, hfs, hhits, hmost⟩ := hrun
  have hreached : ∀ r, (nestedFilled "/W/p").replica = some r → r.Reached := by
    intro r hr
    have hfill : Yields (fillReplica "/W/p") nestedSession ⟨1, 1⟩ (nestedFilled "/W/p") :=
      yields_after hdone
    obtain ⟨r', fs', hfilled, heq⟩ := yields_fillReplica rfl hfill
    rw [heq] at hr
    rw [← Option.some.inj hr]
    exact .fill (.new "/W/c") stands_nested hfilled
  have hsearch : Name.search.invoke nestedSearch (nestedFilled "/W/p") =
      (.done (.hits outerPackage nestedHits), nestedSearched) :=
    invoke_eq_afterCall hhits
  obtain ⟨context, settings, hcontext, -, hsettings, -, hread⟩ :=
    hits_are_read_back hfs hreached hsearch
  obtain rfl : (1 : Int) = context := by
    have hgiven : (nestedSearch.get "context" (.number 5)).number? = some 1 := by decide +kernel
    exact Option.some.inj (hgiven.symm.trans hcontext)
  rw [hsettings, Option.map_some, Option.some.injEq] at hmost
  refine ⟨hhits, fun hit hmem => hread hit hmem ?_ ?_ ?_⟩
  · revert hit
    decide +kernel
  · rw [← Package.hasDrive_iff, Bool.not_eq_true]
    revert hit
    decide +kernel
  · rw [hmost]
    revert hit
    decide +kernel

end PackageAtlas.Tool
