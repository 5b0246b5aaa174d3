import PackageAtlas.Proofs.FileSystem.Clean
import PackageAtlas.Proofs.FileSystem.Ways

namespace PackageAtlas.FileSystem

open PackageAtlas.Path (IsClean isAbsolute isIdle parts pieces telling)

/-!
# Directories that are made again

A directory that was made is there as long as no directory and no link is taken away, and making it
again changes nothing:

* `find?_directory_iff_leads`: the parts of a path tell whether it leads to a directory;
* `Keeps.find?_directory`: so it does while directories and links are kept;
* `ensureDirectory_cases`: all that making one directory can do;
* `Begins`, `begins_of_makeDirectories`: directories are made only where one can set out;
* `isDirectory_of_makeDirectories`: they are there when they have been made;
* `makeDirectories_of_isDirectory`: what is there is not made again.
-/

variable {fs fs' mid made : FileSystem} {here : Standpoint} {dir loc start : Location}
  {path text : String} {rooted follow : Bool} {ps qs : List String} {n lost fuel : Nat}

/-! ### Paths with the same parts -/

/-- Idle pieces can be added to a way. -/
theorem Enters.of_telling (h : Enters fs dir (Path.telling ps) loc n) : Enters fs dir ps loc n := by
  induction ps generalizing dir n with
  | nil => exact h
  | cons piece ps ih =>
    by_cases hidle : isIdle piece = true
    · rw [Path.telling_cons_of_idle hidle] at h
      exact .idle hidle (ih h)
    · rw [Path.telling_cons (by simpa using hidle)] at h
      cases h with
      | idle h _ => exact absurd h hidle
      | up hrest => exact .up (ih hrest)
      | directory hstep hloc hrest => exact .directory hstep hloc (ih hrest)
      | link hstep hloc htarget hrest => exact .link hstep hloc htarget (ih hrest)

theorem leaveLost_of_telling (h : leaveLost dir lost (telling ps) = .ok (start, qs)) :
    ∃ rs, leaveLost dir lost ps = .ok (start, rs) ∧ telling rs = qs := by
  -- By the pieces with the idle ones among them, each of which is passed by.
  fun_induction leaveLost dir lost ps with
  | case1 dir ps =>
    rw [leaveLost] at h
    obtain ⟨rfl, rfl⟩ := Prod.mk.inj (Except.ok.inj h)
    exact ⟨ps, rfl, rfl⟩
  | case2 dir lost => simp [leaveLost] at h
  | case3 dir lost piece rest hidle ih =>
    rw [Path.telling_cons_of_idle hidle] at h
    exact ih h
  | case4 dir lost piece rest hidle hup ih =>
    rw [Path.telling_cons (by simpa using hidle), leaveLost, if_neg hidle, if_pos hup] at h
    exact ih h
  | case5 dir lost piece rest hidle hup =>
    rw [Path.telling_cons (by simpa using hidle), leaveLost, if_neg hidle, if_neg hup] at h
    simp at h

theorem begin?_of_telling (h : begin? here rooted (telling ps) = .ok (start, qs)) :
    ∃ rs, begin? here rooted ps = .ok (start, rs) ∧ telling rs = qs := by
  simp only [begin?_eq_leaveLost] at h ⊢
  exact leaveLost_of_telling h

/-- A path leads to a directory if its parts do. -/
theorem find?_directory_iff_leads :
    fs.find? here path = .ok (loc, .directory) ↔
      path ≠ "" ∧ IsClean path ∧ fs.at? loc = some .directory ∧
        Leads fs here (isAbsolute path) (parts path) loc := by
  constructor
  · intro h
    obtain ⟨hne, hclean, hloc, -⟩ := find?_directory_iff.mp h
    exact ⟨hne, hclean, hloc, leads_of_find? h⟩
  · rintro ⟨hne, hclean, hloc, start, qs, n, hbegin, hn, henters⟩
    rw [Path.parts_eq_telling] at hbegin
    obtain ⟨rs, hstart, rfl⟩ := begin?_of_telling hbegin
    exact find?_directory_iff.mpr
      ⟨hne, hclean, hloc, start, rs, n, hstart, hn, henters.of_telling⟩

/-- **Directories stay where they are found.** -/
theorem Keeps.find?_directory (hkept : Keeps fs fs')
    (h : fs.find? here path = .ok (loc, .directory)) :
    fs'.find? here path = .ok (loc, .directory) := by
  obtain ⟨hne, hclean, hloc, hleads⟩ := find?_directory_iff_leads.mp h
  exact find?_directory_iff_leads.mpr ⟨hne, hclean, hkept.directories hloc, hleads.kept hkept⟩

theorem Keeps.isDirectory (hkept : Keeps fs fs') (h : fs.isDirectory here path = true) :
    fs'.isDirectory here path = true := by
  obtain ⟨loc, hloc⟩ := isDirectory_eq_true_iff.mp h
  exact isDirectory_eq_true_iff.mpr ⟨loc, hkept.find?_directory hloc⟩

theorem withoutSlashes_empty : withoutSlashes "" = "" := by decide

/-- Slashes at the end of a path change nothing for a directory. -/
theorem find?_of_withoutSlashes (h : fs.find? here (withoutSlashes path) = .ok (loc, .directory)) :
    fs.find? here path = .ok (loc, .directory) := by
  obtain ⟨hne, hclean, hloc, hleads⟩ := find?_directory_iff_leads.mp h
  rw [Path.isAbsolute_withoutSlashes, Path.parts_withoutSlashes] at hleads
  refine find?_directory_iff_leads.mpr
    ⟨?_, Path.isClean_withoutSlashes_iff.mp hclean, hloc, hleads⟩
  rintro rfl
  exact hne withoutSlashes_empty

/-! ### Cutting paths -/

theorem length_split (text : String) :
    (Path.split text).1.length + (Path.split text).2.length ≤ text.length := by
  simp only [← String.length_toList]
  rcases Path.split_cases text with ⟨-, hcut⟩ | ⟨head, name, htext, -, hcut⟩
  · rw [hcut]
    simp
  · rw [hcut, htext]
    have hdrop := (Path.dropSlashes_isPrefix head).length_le
    simp only [String.toList_ofList, List.length_append]
    split
    · simp
    · simp only [List.length_cons, List.length_nil]
      omega

/-- What a path lies below is shorter. -/
theorem length_splitPath (h : (splitPath path).2 ≠ "") :
    (splitPath path).1.length < path.length := by
  have hwhole := length_split path
  have htail : 0 < (splitPath path).2.length := by
    rw [← String.length_toList, List.length_pos_iff]
    exact mt String.toList_eq_nil_iff.mp h
  unfold splitPath at htail ⊢
  rcases hsplit : Path.split path with ⟨head, tail⟩
  rw [hsplit] at hwhole htail
  simp only at hwhole htail ⊢
  -- A path that ends with a slash is cut once more.
  split
  · rename_i hempty
    have hhead := length_split head
    rw [if_pos hempty] at htail
    omega
  · rename_i hempty
    rw [if_neg hempty] at htail
    simp only at htail ⊢
    omega

/-! ### Making one directory -/

theorem ensureDirectory_cases (here : Standpoint) (path : String) (fs : FileSystem) :
    (∃ loc, fs.resolve false here (withoutSlashes path) = .ok loc ∧ fs.at? loc = none ∧
      outcome (ensureDirectory here path) fs = (.ok (), fs.put loc .directory)) ∨
    (fs.isDirectory here path = true ∧ outcome (ensureDirectory here path) fs = (.ok (), fs)) ∨
    ∃ e, outcome (ensureDirectory here path) fs = (.error e, fs) ∧
      (e.cause = .alreadyThere →
        ∃ loc, fs.resolve false here (withoutSlashes path) = .ok loc) := by
  unfold ensureDirectory
  rw [outcome_tryCatch]
  rcases makeDirectory_cases here path fs with ⟨loc, hloc, hnone, hrun⟩ | ⟨e, hrun, he⟩
  · exact Or.inl ⟨loc, hloc, hnone, by rw [hrun]⟩
  · rw [hrun]
    simp only
    rw [outcome_get_bind]
    by_cases hdir : fs.isDirectory here path = true
    · exact Or.inr (Or.inl ⟨hdir, by rw [if_pos hdir]; rfl⟩)
    · refine Or.inr (Or.inr ⟨e, by rw [if_neg hdir]; rfl, fun hthere => ?_⟩)
      rcases he with ⟨hpath, -⟩ | ⟨loc, hloc, -⟩
      · refine absurd (Or.inr (Or.inl hthere)) (not_isForeign_of_resolve hpath (Or.inr ?_))
        simp [hthere]
      · exact ⟨loc, hloc⟩

/-- **A directory that was made is there.** -/
theorem isDirectory_of_ensureDirectory
    (h : outcome (ensureDirectory here path) fs = (.ok (), fs')) :
    fs'.isDirectory here path = true := by
  rcases ensureDirectory_cases here path fs with
    ⟨loc, hloc, hnone, hrun⟩ | ⟨hdir, hrun⟩ | ⟨e, hrun, -⟩
  · obtain rfl := (Prod.mk.inj (h.symm.trans hrun)).2
    have hgrown : Grown (fun _ _ => True) fs (fs.put loc .directory) :=
      .directory .same hnone trivial
    refine isDirectory_eq_true_iff.mpr ⟨loc, find?_of_withoutSlashes ?_⟩
    exact find?_eq_ok_iff.mpr
      ⟨hgrown.resolve_eq (by simp [hnone]) hloc, at?_put_self (ne_nil_of_at?_eq_none hnone)⟩
  · obtain rfl := (Prod.mk.inj (h.symm.trans hrun)).2
    exact hdir
  · rw [h] at hrun
    simp at hrun

/-! ### Making all directories of a path -/

/-- **Directories that were made are there**, unless a path ends with a dot: then it need not lead
    anywhere, where there is a link that leads nowhere. -/
theorem isDirectory_of_makeDirectories (htail : (splitPath path).2 ≠ ".")
    (hmade : outcome (makeDirectories here path) fs = (.ok (), made)) :
    made.isDirectory here path = true := by
  rcases makeDirectoriesUpTo_cases hmade with
    ⟨-, hself⟩ | ⟨-, above, mid, -, ⟨htolerable, hresult, -⟩ | ⟨-, ⟨hdot, -⟩ | ⟨-, hself⟩⟩⟩
  · exact isDirectory_of_ensureDirectory hself
  · refine absurd (fun e he => ?_) htolerable
    rw [← hresult] at he
    simp at he
  · exact absurd hdot htail
  · exact isDirectory_of_ensureDirectory hself

/-! ### Where directories are made -/

/-- One can set out on a path, whatever there is. -/
def Begins (here : Standpoint) (path : String) : Prop :=
  path ≠ "" ∧ IsClean path ∧
    ∃ start qs, begin? here (isAbsolute path) (parts path) = .ok (start, qs)

theorem begins_of_resolve (h : fs.resolve follow here path = .ok loc) : Begins here path := by
  obtain ⟨hne, hclean, start, qs, hstart, -⟩ := resolve_eq_ok_iff_start?.mp h
  rw [start?_eq_begin?] at hstart
  obtain ⟨used, hpieces, -, hbegin⟩ := exists_used_of_begin? hstart
  refine ⟨hne, hclean, start, telling qs, ?_⟩
  rw [Path.parts_eq_telling, hpieces, Path.telling_append]
  exact (hbegin (telling qs)).2

theorem begins_of_isDirectory (h : fs.isDirectory here path = true) : Begins here path := by
  obtain ⟨loc, hloc⟩ := isDirectory_eq_true_iff.mp h
  exact begins_of_resolve (find?_eq_ok_iff.mp hloc).1

theorem Begins.of_withoutSlashes (h : Begins here (withoutSlashes path)) : Begins here path := by
  obtain ⟨hne, hclean, hbegin⟩ := h
  rw [Path.isAbsolute_withoutSlashes, Path.parts_withoutSlashes] at hbegin
  refine ⟨?_, Path.isClean_withoutSlashes_iff.mp hclean, hbegin⟩
  rintro rfl
  exact hne withoutSlashes_empty

/-- A dot at the end of a path changes nothing. -/
theorem Begins.of_splitPath (hdot : (splitPath path).2 = ".") (h : Begins here (splitPath path).1) :
    Begins here path := by
  obtain ⟨hne, hclean, hbegin⟩ := h
  have hparts : parts path = parts (splitPath path).1 := by
    rw [Path.parts_splitPath path, hdot, Path.telling_cons_of_idle (by decide), Path.telling_nil,
      List.append_nil]
  refine ⟨?_, ?_, ?_⟩
  · rintro rfl
    exact absurd hdot (by decide)
  · rw [Path.isClean_iff_parts, hparts, ← Path.isClean_iff_parts]
    exact hclean
  · rw [hparts, ← Path.isAbsolute_splitPath hne]
    exact hbegin

theorem begins_of_ensureDirectory {result : Except FileError Unit}
    (h : outcome (ensureDirectory here path) fs = (result, fs')) (hresult : IsTolerable result) :
    Begins here path := by
  rcases ensureDirectory_cases here path fs with
    ⟨loc, hloc, -, -⟩ | ⟨hdir, -⟩ | ⟨e, hrun, he⟩
  · exact (begins_of_resolve hloc).of_withoutSlashes
  · exact begins_of_isDirectory hdir
  · -- Only what a path leads to can be there already.
    have hcause := hresult e (Prod.mk.inj (h.symm.trans hrun)).1
    obtain ⟨loc, hloc⟩ := he hcause
    exact (begins_of_resolve hloc).of_withoutSlashes

theorem begins_of_makeDirectoriesUpTo {result : Except FileError Unit}
    (h : outcome (makeDirectoriesUpTo here fuel path) fs = (result, fs'))
    (hfuel : path.length < fuel) (hresult : IsTolerable result) : Begins here path := by
  induction fuel generalizing path fs fs' result with
  | zero => omega
  | succ fuel ih =>
    rcases makeDirectoriesUpTo_cases h with
      ⟨-, hself⟩ | ⟨⟨-, htail, -⟩, above, mid, habove, hrest⟩
    · exact begins_of_ensureDirectory hself hresult
    · -- What the path lies below is shorter, so there is fuel enough for it.
      have hlength := length_splitPath htail
      rcases hrest with ⟨htolerable, rfl, -⟩ | ⟨htolerable, ⟨hdot, -⟩ | ⟨-, hself⟩⟩
      · exact absurd hresult htolerable
      · exact .of_splitPath hdot (ih habove (by omega) htolerable)
      · exact begins_of_ensureDirectory hself hresult

theorem isTolerable_ok : IsTolerable (.ok ()) := fun _ h => by simp at h

/-- **Directories are made only where one can set out**, in particular on clean paths. -/
theorem begins_of_makeDirectories
    (hmade : outcome (makeDirectories here path) fs = (.ok (), made)) : Begins here path :=
  begins_of_makeDirectoriesUpTo hmade (Nat.lt_succ_self _) isTolerable_ok

/-- One can also set out to where they are made. -/
theorem begins_splitPath_of_makeDirectories
    (hmade : outcome (makeDirectories here path) fs = (.ok (), made))
    (hhead : (splitPath path).1 ≠ "") (htail : (splitPath path).2 ≠ "") :
    Begins here (splitPath path).1 := by
  rcases makeDirectoriesUpTo_cases hmade with
    ⟨hlacking, -⟩ | ⟨-, above, mid, habove, ⟨htolerable, rfl, -⟩ | ⟨htolerable, -⟩⟩
  · have hexists : fs.exists? here (splitPath path).1 = true := by
      rw [← Bool.not_eq_false]
      exact fun hnone => hlacking ⟨hhead, htail, hnone⟩
    obtain ⟨⟨loc, entry⟩, hfind⟩ := exists?_eq_true_iff.mp hexists
    exact begins_of_resolve (find?_eq_ok_iff.mp hfind).1
  · exact absurd isTolerable_ok htolerable
  · exact begins_of_makeDirectoriesUpTo habove (length_splitPath htail) htolerable

/-! ### Making them again -/

/-- What a directory lies below is there, if one can set out to it. -/
theorem exists?_splitPath (hfs : Stands fs here) (hdir : fs.isDirectory here path = true)
    (hhead : Begins here (splitPath path).1) : fs.exists? here (splitPath path).1 = true := by
  obtain ⟨loc, hloc⟩ := isDirectory_eq_true_iff.mp hdir
  obtain ⟨-, -, -, start, qs, n, hbegin, hn, henters⟩ := find?_directory_iff_leads.mp hloc
  obtain ⟨hne, hclean, start', front, hfront⟩ := hhead
  rw [Path.isAbsolute_splitPath hne] at hfront
  -- The way of the path begins with that of what it lies below, and comes by a directory there.
  rw [Path.parts_splitPath path, begin?_append hfront] at hbegin
  obtain ⟨rfl, rfl⟩ := Prod.mk.inj (Except.ok.inj hbegin)
  obtain ⟨mid, k, m, hmid, -, hcount⟩ := henters.split
  refine exists?_eq_true_iff.mpr ⟨(mid, .directory), find?_directory_iff_leads.mpr
    ⟨hne, hclean, hmid.at?_eq hfs.files (hfs.of_begin? hfront).2.1, start', front, k, ?_, ?_, hmid⟩⟩
  · rw [Path.isAbsolute_splitPath hne]
    exact hfront
  · omega

/-- A directory that is there is not made. -/
theorem ensureDirectory_of_isDirectory (hfs : Stands fs here)
    (hdir : fs.isDirectory here path = true) :
    outcome (ensureDirectory here path) fs = (.ok (), fs) := by
  obtain ⟨found, hfound⟩ := isDirectory_eq_true_iff.mp hdir
  unfold ensureDirectory
  rw [outcome_tryCatch]
  rcases makeDirectory_cases here path fs with ⟨loc, hloc, hnone, -⟩ | ⟨e, hrun, -⟩
  · -- The way of the path would end where nothing is.
    obtain ⟨ps, last, mid, hparts, hlast, hleads, rfl⟩ := exists_leads_of_missing hfs hloc hnone
    rw [Path.parts_withoutSlashes] at hparts
    rw [Path.isAbsolute_withoutSlashes] at hleads
    exact absurd hnone (hleads.at?_ne_none hlast hparts hfound)
  · rw [hrun]
    simp only
    rw [outcome_get_bind, if_pos hdir]
    rfl

/-- **What is there is not made again.** -/
theorem makeDirectories_of_isDirectory (hfs : Stands fs' here)
    (hmade : outcome (makeDirectories here path) fs = (.ok (), made))
    (hdir : fs'.isDirectory here path = true) :
    outcome (makeDirectories here path) fs' = (.ok (), fs') := by
  rcases hagain : outcome (makeDirectories here path) fs' with ⟨result, again⟩
  rcases makeDirectoriesUpTo_cases hagain with ⟨-, hself⟩ | ⟨⟨hhead, htail, hnone⟩, -⟩
  · rw [← hself]
    exact ensureDirectory_of_isDirectory hfs hdir
  · rw [exists?_splitPath hfs hdir (begins_splitPath_of_makeDirectories hmade hhead htail)] at hnone
    simp at hnone

end PackageAtlas.FileSystem
