import Mathlib.Data.List.Dedup
import PackageAtlas.Proofs.Declaration.Index
import PackageAtlas.Proofs.FileSystem.WalkOrder

namespace PackageAtlas.Declaration

open PackageAtlas.Path (IsName)
open Syntax (Parser)

/-!
# Indexes are made file by file

The index of a package is what its first files declare, one file behind the other, and what one file
declares has nothing to do with the others:

* `IndexedFile`, `indexedFile?`: all that is known of a file when its declarations are read;
* `Indexer.index_eq_flatMap`: an index is the declarations of such files;
* `exists_records_split`: those of one file stand together, whatever is read of it;
* `index_joins_files`: all that follows for indexes.
-/

variable {fs : FileSystem} {here : Standpoint} {filter : FileFilter} {parse : Parser}
  {dir f : String} {files : List String} {k : Int}

/-! ### Single files -/

/-- A file that is indexed: its path, its language and its bytes. -/
structure IndexedFile where
  file : String
  language : Language
  bytes : ByteArray

/-- The declarations of a file that is indexed. -/
def IndexedFile.records (parse : Parser) (s : IndexedFile) : List Record :=
  s.language.declarations s.file s.bytes parse

/-- What is indexed of a file: nothing if its language is unknown or it cannot be read. -/
def indexedFile? (fs : FileSystem) (here : Standpoint) (dir file : String) :
    Option IndexedFile := do
  let language ← Language.ofFile? file
  let bytes ← (fs.read here (Path.join dir file)).toOption
  return ⟨file, language, bytes⟩

theorem declarationsOf_eq (file : String) :
    declarationsOf parse fs here dir file =
      ((indexedFile? fs here dir file).map (IndexedFile.records parse)).getD [] := by
  unfold declarationsOf indexedFile?
  rcases Language.ofFile? file with _ | l
  · rfl
  · rcases fs.read here (Path.join dir file) with e | bytes <;> rfl

theorem file_of_mem_declarationsOf {file : String} {r : Record}
    (h : r ∈ declarationsOf parse fs here dir file) : r.file = file :=
  (exists_read_of_mem_declarationsOf h).1

theorem flatMap_declarationsOf (files : List String) :
    files.flatMap (declarationsOf parse fs here dir) =
      (files.filterMap (indexedFile? fs here dir)).flatMap (IndexedFile.records parse) := by
  induction files with
  | nil => rfl
  | cons file files ih =>
    rw [List.flatMap_cons, ih, declarationsOf_eq, List.filterMap_cons]
    rcases indexedFile? fs here dir file with _ | s
    · rfl
    · rfl

/-- What a file declares depends on what is read of it alone. -/
theorem declarationsOf_congr_read {fs' : FileSystem} {file : String}
    (h : (fs'.read here (Path.join dir file)).toOption =
      (fs.read here (Path.join dir file)).toOption) :
    declarationsOf parse fs' here dir file = declarationsOf parse fs here dir file := by
  rw [declarationsOf_eq, declarationsOf_eq, indexedFile?, indexedFile?, h]

/-! ### Whole indexes -/

/-- An index is made of the first files of the whole walk. -/
theorem Indexer.index_eq_flatMap (hwalk : fs.walkFirst here filter none dir = .ok files) (k : Int) :
    (Indexer.mk k filter).index fs here dir parse =
      .ok ((files.take k.toNat).flatMap (declarationsOf parse fs here dir)) := by
  rw [Indexer.index, Indexer.files, FileSystem.walkFirst_some_of_none hwalk]
  rfl

/-- Whatever stands for each file, what stands for one of them stands together. -/
theorem exists_flatMap_split (hnodup : files.Nodup) (f : String) :
    ∃ before after : List String, (∀ g ∈ before ++ after, g ∈ files ∧ g ≠ f) ∧
      ∀ own : String → List Record, files.flatMap own =
        before.flatMap own ++ (if f ∈ files then own f else []) ++ after.flatMap own := by
  by_cases hf : f ∈ files
  · obtain ⟨before, after, rfl⟩ := List.append_of_mem hf
    obtain ⟨hother, -⟩ := List.nodup_cons.mp (List.nodup_middle.mp hnodup)
    refine ⟨before, after, fun g hg => ⟨?_, ?_⟩, fun own => by simp⟩
    · exact List.perm_middle.mem_iff.mpr (List.mem_cons_of_mem f hg)
    · rintro rfl
      exact hother hg
  · refine ⟨files, [], fun g hg => ?_, fun own => by simp [hf]⟩
    rw [List.append_nil] at hg
    exact ⟨hg, fun heq => hf (heq ▸ hg)⟩

theorem file_mem_of_mem_flatMap {r : Record}
    (h : r ∈ files.flatMap (declarationsOf parse fs here dir)) : r.file ∈ files := by
  obtain ⟨g, hg, hr⟩ := List.mem_flatMap.mp h
  rw [file_of_mem_declarationsOf hr]
  exact hg

/-- What a file declares if it is among some files. -/
def ownRecords (parse : Parser) (fs : FileSystem) (here : Standpoint) (dir : String)
    (files : List String) (f : String) : List Record :=
  if f ∈ files then declarationsOf parse fs here dir f else []

theorem file_of_mem_ownRecords {r : Record} (h : r ∈ ownRecords parse fs here dir files f) :
    r.file = f := by
  unfold ownRecords at h
  split at h
  · exact file_of_mem_declarationsOf h
  · simp at h

/-- Where the same is read of all files but one, the same is declared before and behind what that
    one declares. -/
theorem exists_records_split {fs' : FileSystem} (hnodup : files.Nodup) (f : String)
    (hsame : ∀ g ∈ files, g ≠ f → (fs'.read here (Path.join dir g)).toOption =
      (fs.read here (Path.join dir g)).toOption) :
    ∃ before after : List Record, (∀ r ∈ before ++ after, r.file ≠ f) ∧
      files.flatMap (declarationsOf parse fs here dir) =
        before ++ ownRecords parse fs here dir files f ++ after ∧
      files.flatMap (declarationsOf parse fs' here dir) =
        before ++ ownRecords parse fs' here dir files f ++ after := by
  obtain ⟨before, after, hothers, hsplit⟩ := exists_flatMap_split hnodup f
  -- What stands before and behind is made of other files, of which the same is read.
  have hcongr : ∀ others : List String, (∀ g ∈ others, g ∈ files ∧ g ≠ f) →
      others.flatMap (declarationsOf parse fs' here dir) =
        others.flatMap (declarationsOf parse fs here dir) := by
    intro others hall
    refine List.flatMap_congr (fun g hg => declarationsOf_congr_read ?_)
    exact hsame g (hall g hg).1 (hall g hg).2
  refine ⟨before.flatMap (declarationsOf parse fs here dir),
    after.flatMap (declarationsOf parse fs here dir), fun r hr => ?_, hsplit _, ?_⟩
  · rw [← List.flatMap_append] at hr
    exact (hothers _ (file_mem_of_mem_flatMap hr)).2
  · rw [hsplit, hcongr before (fun g hg => hothers g (List.mem_append_left _ hg)),
      hcongr after (fun g hg => hothers g (List.mem_append_right _ hg))]
    rfl

/-- No more files declare anything than there are. -/
theorem length_dedup_le (files : List String) :
    ((files.flatMap (declarationsOf parse fs here dir)).map Record.file).dedup.length ≤
      files.length := by
  refine (List.subperm_of_subset (List.nodup_dedup _) (fun file hfile => ?_)).length_le
  obtain ⟨r, hr, rfl⟩ := List.mem_map.mp (List.mem_dedup.mp hfile)
  exact file_mem_of_mem_flatMap hr

/-- **Indexes.** An index with a ceiling of `k` files is what the first `k` files of the whole walk
    declare, one file behind the other, where a file without a language or that cannot be read
    declares nothing. So what one file declares stands together and depends on its path and bytes
    alone; no more than `k` files declare anything; a higher ceiling only adds records at the end;
    and every record is of a file that is there. What is read of one file alone changes nothing in
    an index but its own records. -/
theorem index_joins_files (parse : Parser) (hfs : fs.WellFormed) (hdistinct : fs.Distinct)
    (hk : 0 ≤ k) (hwalk : fs.walkFirst here filter none dir = .ok files) :
    ∃ index, (Indexer.mk k filter).index fs here dir parse = .ok index ∧
      index = ((files.take k.toNat).filterMap (indexedFile? fs here dir)).flatMap
        (IndexedFile.records parse) ∧
      (∀ f, ∃ before own after, index = before ++ own ++ after ∧
        (∀ r ∈ own, r.file = f) ∧ (∀ r ∈ before ++ after, r.file ≠ f) ∧
        own = if f ∈ files.take k.toNat
          then ((indexedFile? fs here dir f).map (IndexedFile.records parse)).getD [] else []) ∧
      ((index.map Record.file).dedup.length : Int) ≤ k ∧
      (∀ k' : Int, k ≤ k' → ∃ index',
        (Indexer.mk k' filter).index fs here dir parse = .ok index' ∧ index <+: index') ∧
      (∀ r ∈ index, r.file ∈ files.take k.toNat ∧ fs.isFile here (Path.join dir r.file) = true ∧
        ∃ names, names ≠ [] ∧ (∀ n ∈ names, IsName n) ∧ r.file = Path.ofNames names) ∧
      ∀ (fs' : FileSystem) (f : String), fs'.walkFirst here filter none dir = .ok files →
        (∀ g ∈ files, g ≠ f → (fs'.read here (Path.join dir g)).toOption =
          (fs.read here (Path.join dir g)).toOption) →
        ∃ before own own' after, index = before ++ own ++ after ∧
          (Indexer.mk k filter).index fs' here dir parse = .ok (before ++ own' ++ after) ∧
          (∀ r ∈ own ++ own', r.file = f) ∧ ∀ r ∈ before ++ after, r.file ≠ f := by
  have hnodup : (files.take k.toNat).Nodup :=
    (FileSystem.nodup_of_walkFirst hfs hdistinct hwalk).sublist (List.take_sublist _ _)
  have hindex : (Indexer.mk k filter).index fs here dir parse = .ok _ :=
    Indexer.index_eq_flatMap hwalk k
  -- A walk tells each file once, so the records of one file stand in one place.
  refine ⟨_, hindex, flatMap_declarationsOf _, fun f => ?_, ?_, fun k' hle => ?_, fun r hr => ?_,
    fun fs' f hwalk' hsame => ?_⟩
  · obtain ⟨before, after, hothers, hsplit, -⟩ :=
      exists_records_split hnodup f (fun g _ _ => Eq.refl (fs.read here (Path.join dir g)).toOption)
    exact ⟨before, _, after, hsplit, fun r hr => file_of_mem_ownRecords hr, hothers,
      by rw [ownRecords, declarationsOf_eq]⟩
  · have htake := List.length_take_le k.toNat files
    refine Int.le_trans (Int.ofNat_le.mpr (length_dedup_le _)) ?_
    omega
  · obtain ⟨more, hmore⟩ : files.take k.toNat <+: files.take k'.toNat :=
      List.take_prefix_take_left (by omega)
    refine ⟨_, Indexer.index_eq_flatMap hwalk k', ?_⟩
    rw [← hmore, List.flatMap_append]
    exact List.prefix_append _ _
  · obtain ⟨-, names, bytes, -, hne, hnames, hself, hread⟩ :=
      Indexer.exists_file_of_mem_index hfs hindex hr
    exact ⟨file_mem_of_mem_flatMap hr, FileSystem.isFile_of_read hread, names, hne, hnames, hself⟩
  · obtain ⟨before, after, hothers, hsplit, hsplit'⟩ := exists_records_split hnodup f
      (fun g hg hne => hsame g (List.mem_of_mem_take hg) hne)
    have hindex' : (Indexer.mk k filter).index fs' here dir parse = .ok _ :=
      (Indexer.index_eq_flatMap hwalk' k).trans (congrArg Except.ok hsplit')
    refine ⟨before, _, _, after, hsplit, hindex', fun r hr => ?_, hothers⟩
    exact (List.mem_append.mp hr).elim file_of_mem_ownRecords file_of_mem_ownRecords

/-- The first three files of a directory, the last of which cannot be read. -/
theorem index_joins_files_mixed :
    (Indexer.mk 3 (FileFilter.ofSuffixes [".TS"] ["test"])).index FileSystem.mixedFiles
        (FileSystem.standing []) "/p" =
      .ok (IndexedFile.records Syntax.treeOf ⟨"A.D.TS", .typescript, "a".toUTF8⟩ ++
        IndexedFile.records Syntax.treeOf ⟨"b.ts", .typescript, "b".toUTF8⟩) := by
  have hfs : FileSystem.mixedFiles.WellFormed := by decide +kernel
  have hwalk : FileSystem.mixedFiles.walkFirst (FileSystem.standing [])
      (FileFilter.ofSuffixes [".TS"] ["test"]) none "/p" =
        .ok ["A.D.TS", "b.ts", "gone.ts", "sub/c.ts"] := by decide +kernel
  have hread : ["A.D.TS", "b.ts", "gone.ts"].filterMap
      (indexedFile? FileSystem.mixedFiles (FileSystem.standing []) "/p") =
        [⟨"A.D.TS", .typescript, "a".toUTF8⟩, ⟨"b.ts", .typescript, "b".toUTF8⟩] := by
    rfl
  obtain ⟨index, hindex, heq, -⟩ := index_joins_files Syntax.treeOf hfs (by decide +kernel)
    (by decide : (0 : Int) ≤ 3) hwalk
  rw [hindex, heq]
  show Except.ok (List.flatMap _ (["A.D.TS", "b.ts", "gone.ts"].filterMap _)) = _
  rw [hread, List.flatMap_cons, List.flatMap_singleton]

end PackageAtlas.Declaration
