import PackageAtlas.Declaration.Index
import PackageAtlas.Proofs.FileSystem.WalkOrder

namespace PackageAtlas.Declaration

/-!
# Selected files and languages

Which files may hold declarations is told by the ends of their names, and so is the language of a
file, by other ends and of the whole path. Both agree:

* `ofFile?_ofNames`: the language of a file is told by its last name;
* `rejectsFile_eq_true_iff`: what is not selected is hidden or has no language;
* `walk_declarationsOutside`: so a walk lists those that are not hidden and have a language;
* `selected_files_have_languages`: the files that are indexed are the first that are not hidden and
  have a language.
-/

variable {fs : FileSystem} {here : Standpoint} {dir file : String}

/-! ### Languages by names -/

/-- A file has a language if its name has an end of one. -/
theorem isSome_ofFile?_iff :
    (Language.ofFile? file).isSome = true ↔
      ∃ l : Language, ∃ ending ∈ l.suffixes, ending.toList <:+ (Text.lower file).toList := by
  simp only [Language.ofFile?, List.find?_isSome, List.any_eq_true, List.isSuffixOf_iff_suffix]
  constructor
  · rintro ⟨l, -, h⟩
    exact ⟨l, h⟩
  · rintro ⟨l, h⟩
    refine ⟨l, ?_, h⟩
    cases l <;> decide

/-- **The last name tells the language**, whatever directories the file is in. -/
theorem ofFile?_ofNames (front : List String) (name : String) :
    Language.ofFile? (Path.ofNames (front ++ [name])) = Language.ofFile? name := by
  -- Only a sigma can change in small letters with what stands behind it, and endings hold none.
  have hends : ∀ l : Language, ∀ ending ∈ l.suffixes,
      'ς' ∉ ending.toList ∧ 'σ' ∉ ending.toList ∧ '/' ∉ ending.toList := by
    intro l
    cases l <;> decide
  have hany : ∀ l : Language,
      l.suffixes.any (fun s => s.toList.isSuffixOf
        (Text.lower (Path.ofNames (front ++ [name]))).toList) =
      l.suffixes.any (fun s => s.toList.isSuffixOf (Text.lower name).toList) := by
    intro l
    rw [Bool.eq_iff_iff, List.any_eq_true, List.any_eq_true]
    refine exists_congr fun ending => and_congr_right fun hmem => ?_
    obtain ⟨hfinal, hsigma, hslash⟩ := hends l ending hmem
    rw [List.isSuffixOf_iff_suffix, List.isSuffixOf_iff_suffix,
      Path.suffix_lower_ofNames hfinal hsigma hslash]
  simp only [Language.ofFile?, hany]

/-! ### The two lists of ends -/

/-- An end of names of files that hold declarations ends as the files of a language do. -/
theorem exists_language_of_mem_declarationSuffixes :
    ∀ ending ∈ FileFilter.declarationSuffixes, ∃ l : Language, ∃ short ∈ l.suffixes,
      short.toList <:+ (Text.lower ending).toList := by
  have hall : ∀ ending ∈ FileFilter.declarationSuffixes, ∃ l ∈ [Language.tsx, .typescript],
      ∃ short ∈ l.suffixes, short.toList <:+ (Text.lower ending).toList := by
    decide
  intro ending hmem
  obtain ⟨l, -, h⟩ := hall ending hmem
  exact ⟨l, h⟩

/-- The ends of the files of a language are ends of files that hold declarations. -/
theorem mem_declarationSuffixes (l : Language) :
    ∀ ending ∈ l.suffixes,
      ending ∈ FileFilter.declarationSuffixes ∧ Text.lower ending = ending := by
  cases l <;> decide

/-- **What is not selected** is hidden or has no language. -/
theorem rejectsFile_eq_true_iff (excluded front : List String) (name : String) :
    (FileFilter.declarationsOutside excluded).rejectsFile name = true ↔
      isHidden name = true ∨ Language.ofFile? (Path.ofNames (front ++ [name])) = none := by
  rw [ofFile?_ofNames, ← Bool.not_eq_false, FileFilter.declarationsOutside,
    FileSystem.rejectsFile_eq_false_iff, ← Option.not_isSome_iff_eq_none, isSome_ofFile?_iff,
    not_and_or, Bool.not_eq_false]
  refine or_congr_right (not_congr ⟨?_, ?_⟩)
  · rintro ⟨ending, hmem, hend⟩
    obtain ⟨l, short, hshort, hsuffix⟩ := exists_language_of_mem_declarationSuffixes ending hmem
    exact ⟨l, short, hshort, hsuffix.trans hend⟩
  · rintro ⟨l, ending, hmem, hend⟩
    obtain ⟨hdeclares, hlower⟩ := mem_declarationSuffixes l ending hmem
    exact ⟨ending, hdeclares, by rwa [hlower]⟩

/-! ### Walks -/

/-- Files of all names that are not hidden, outside of some directories. -/
def shownFiles (excluded : List String) : FileFilter := .ofSuffixes [""] excluded

theorem rejectsFile_shownFiles (excluded : List String) (name : String) :
    (shownFiles excluded).rejectsFile name = isHidden name := by
  have hlower : Text.lower "" = "" := by decide
  simp [shownFiles, FileFilter.ofSuffixes, FileFilter.rejectsFile, hlower]

/-- The files that may hold declarations are those that are not hidden and have a language. -/
theorem walk_declarationsOutside (excluded : List String) :
    fs.walk here (.declarationsOutside excluded) dir =
      (fs.walk here (shownFiles excluded) dir).filter
        (fun file => (Language.ofFile? file).isSome) := by
  unfold FileSystem.walk
  split
  · rw [List.filter_map]
    congr 1
    refine FileSystem.walkFrom_filter rfl fun front name => ?_
    rw [Bool.eq_iff_iff, rejectsFile_eq_true_iff excluded front name, rejectsFile_shownFiles]
    simp
  · rfl

/-- **Selected files have languages.** A file is left out for its name if it is hidden or has no
    language, and for nothing else. So the files that are indexed are the first of those that are
    not hidden and have a language, and none of them is without declarations for lack of one. -/
theorem selected_files_have_languages (excluded : List String) :
    (∀ front name, (FileFilter.declarationsOutside excluded).rejectsFile name = true ↔
      isHidden name = true ∨ Language.ofFile? (Path.ofNames (front ++ [name])) = none) ∧
    ∀ {i : Indexer} {files : List String}, i.filter = .declarationsOutside excluded →
      i.files fs here dir = .ok files →
      files = ((fs.walk here (shownFiles excluded) dir).filter
        (fun file => (Language.ofFile? file).isSome)).take i.maxFiles.toNat ∧
      ∀ file ∈ files, ∃ l, Language.ofFile? file = some l ∧
        ∀ (parse : Syntax.Parser) (bytes : ByteArray),
          fs.read here (Path.join dir file) = .ok bytes →
          declarationsOf parse fs here dir file = l.declarations file bytes parse := by
  refine ⟨rejectsFile_eq_true_iff excluded, fun {i files} hfilter hfiles => ?_⟩
  have htake : files = ((fs.walk here (shownFiles excluded) dir).filter
      (fun file => (Language.ofFile? file).isSome)).take i.maxFiles.toNat := by
    rw [Indexer.files, hfilter] at hfiles
    obtain ⟨-, -, heq⟩ := FileSystem.walkFirst_eq_ok_iff.mp hfiles
    rw [heq, FileSystem.firstFiles, walk_declarationsOutside]
  refine ⟨htake, fun file hmem => ?_⟩
  rw [htake] at hmem
  obtain ⟨l, hl⟩ := Option.isSome_iff_exists.mp (List.mem_filter.mp (List.mem_of_mem_take hmem)).2
  refine ⟨l, hl, fun parse bytes hread => ?_⟩
  rw [declarationsOf, hl, hread]

/-- A directory with files whose names hold capitals, letters that grow or depend on others in small
    letters, many dots, or nothing but an end; one of them is hidden, and two have no language. -/
def lettersFiles : FileSystem :=
  ⟨[(["p"], .directory), (["p", "A.D.TS"], .file "enum A \x7b\x7d".toUTF8),
    (["p", ".ts"], .file "".toUTF8), (["p", "x.js"], .file "".toUTF8),
    (["p", "ts"], .file "".toUTF8), (["p", "sub"], .directory),
    (["p", "sub", "İ.TSX"], .file "".toUTF8), (["p", "sub", "ΑΣ.mTs"], .file "".toUTF8)]⟩

theorem selected_files_have_languages_letters :
    (Indexer.mk 2 .declarations).files lettersFiles (FileSystem.standing []) "/p" =
        .ok ["A.D.TS", "sub/İ.TSX"] ∧
      ["A.D.TS", "sub/İ.TSX"] =
        ((lettersFiles.walk (FileSystem.standing []) (shownFiles FileFilter.declarationExcluded)
          "/p").filter (fun file => (Language.ofFile? file).isSome)).take 2 ∧
      ∀ file ∈ ["A.D.TS", "sub/İ.TSX"], ∃ l, Language.ofFile? file = some l := by
  have hfiles : (Indexer.mk 2 .declarations).files lettersFiles (FileSystem.standing []) "/p" =
      .ok ["A.D.TS", "sub/İ.TSX"] := by decide +kernel
  obtain ⟨htake, hlanguage⟩ :=
    (selected_files_have_languages FileFilter.declarationExcluded).2 rfl hfiles
  exact ⟨hfiles, htake, fun file hmem => (hlanguage file hmem).imp fun _ h => h.1⟩

end PackageAtlas.Declaration
