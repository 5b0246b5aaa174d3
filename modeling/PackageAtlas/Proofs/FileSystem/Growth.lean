import PackageAtlas.Proofs.FileSystem.Changes

namespace PackageAtlas.FileSystem

/-!
# File systems that grow

Making directories and copying files only adds to a file system, the bytes of files apart:

* `Keeps`: all directories and links are still there;
* `Grown`: directories and files have been put into a file system, where and as a predicate says;
* `Grown.at?_eq_or`, `Grown.names_eq`: all other entries are what they were;
* `Grown.resolveFrom_eq`, `Grown.find?_directory`: paths that lead somewhere still lead there;
* `Stands.not_link_of_resolve`: a path that is followed to its end leads to no link;
* `maintains_grown_makeDirectories`: directories are made where nothing was.
-/

variable {P : Location → Entry → Prop} {fs fs' mid : FileSystem} {here : Standpoint}
  {dir loc : Location} {path : String} {entry : Entry}

/-! ### What is kept -/

/-- All directories and links of a file system are in another one as well. -/
structure Keeps (fs fs' : FileSystem) : Prop where
  directories : ∀ {loc : Location}, fs.at? loc = some .directory → fs'.at? loc = some .directory
  links : ∀ {loc : Location} {target : String}, fs.at? loc = some (.link target) →
    fs'.at? loc = some (.link target)

/-! ### Growth -/

/-- New directories, and files with new bytes, have been put into a file system one after another,
    all of them where and as `P` says. -/
inductive Grown (P : Location → Entry → Prop) (fs : FileSystem) : FileSystem → Prop where
  | same : Grown P fs fs
  | directory {mid : FileSystem} {loc : Location} (h : Grown P fs mid) (hnew : mid.at? loc = none)
      (hP : P loc .directory) : Grown P fs (mid.put loc .directory)
  | file {mid : FileSystem} {loc : Location} {bytes : ByteArray} (h : Grown P fs mid)
      (hold : ∀ e, mid.at? loc = some e → ∃ b, e = .file b) (hP : P loc (.file bytes)) :
      Grown P fs (mid.put loc (.file bytes))

theorem at?_put_self (h : loc ≠ []) : (fs.put loc entry).at? loc = some entry := by
  rw [at?_put fs loc loc entry h, if_pos rfl]

/-- The root is never put anywhere: it is there. -/
theorem ne_nil_of_at?_eq_none (h : fs.at? loc = none) : loc ≠ [] := by
  rintro rfl
  simp [at?_nil] at h

theorem ne_nil_of_forall_file (h : ∀ e, fs.at? loc = some e → ∃ b, e = .file b) : loc ≠ [] := by
  rintro rfl
  obtain ⟨b, hb⟩ := h _ at?_nil
  simp at hb

namespace Grown

theorem trans (h : Grown P fs mid) (h' : Grown P mid fs') : Grown P fs fs' := by
  induction h' with
  | same => exact h
  | directory _ hnew hP ih => exact .directory ih hnew hP
  | file _ hold hP ih => exact .file ih hold hP

theorem mono {Q : Location → Entry → Prop} (h : Grown P fs fs') (hPQ : ∀ l e, P l e → Q l e) :
    Grown Q fs fs' := by
  induction h with
  | same => exact .same
  | directory _ hnew hP ih => exact .directory ih hnew (hPQ _ _ hP)
  | file _ hold hP ih => exact .file ih hold (hPQ _ _ hP)

/-- An entry is what it was, or it was put there. -/
theorem at?_eq_or (h : Grown P fs fs') (q : Location) :
    fs'.at? q = fs.at? q ∨ ∃ e, fs'.at? q = some e ∧ P q e := by
  -- A put entry replaces at one location only what the induction tells of all.
  have hput : ∀ {mid : FileSystem} {l : Location} {e : Entry}, l ≠ [] → P l e →
      (mid.at? q = fs.at? q ∨ ∃ e, mid.at? q = some e ∧ P q e) →
      (mid.put l e).at? q = fs.at? q ∨ ∃ e', (mid.put l e).at? q = some e' ∧ P q e' := by
    intro mid l e hl hP hmid
    by_cases hq : q = l
    · subst hq
      exact Or.inr ⟨e, at?_put_self hl, hP⟩
    · rw [at?_put_of_ne hq]
      exact hmid
  induction h with
  | same => exact Or.inl rfl
  | directory _ hnew hP ih => exact hput (ne_nil_of_at?_eq_none hnew) hP ih
  | file _ hold hP ih => exact hput (ne_nil_of_forall_file hold) hP ih

/-- What is no file stays. -/
theorem at?_of_not_file (h : Grown P fs fs') (hloc : fs.at? loc = some entry)
    (hentry : ∀ bytes, entry ≠ .file bytes) : fs'.at? loc = some entry := by
  induction h with
  | same => exact hloc
  | directory _ hnew _ ih =>
    rw [at?_put_of_ne (by rintro rfl; simp [ih] at hnew)]
    exact ih
  | file _ hold _ ih =>
    rw [at?_put_of_ne (by rintro rfl; obtain ⟨b, rfl⟩ := hold _ ih; exact hentry b rfl)]
    exact ih

theorem at?_directory (h : Grown P fs fs') (hloc : fs.at? loc = some .directory) :
    fs'.at? loc = some .directory := h.at?_of_not_file hloc (by simp)

theorem at?_link {target : String} (h : Grown P fs fs') (hloc : fs.at? loc = some (.link target)) :
    fs'.at? loc = some (.link target) := h.at?_of_not_file hloc (by simp)

theorem keeps (h : Grown P fs fs') : Keeps fs fs' := ⟨h.at?_directory, h.at?_link⟩

theorem at?_file {bytes : ByteArray} (h : Grown P fs fs')
    (hloc : fs.at? loc = some (.file bytes)) : ∃ b, fs'.at? loc = some (.file b) := by
  induction h with
  | same => exact ⟨bytes, hloc⟩
  | directory _ hnew _ ih =>
    obtain ⟨b, hb⟩ := ih
    rw [at?_put_of_ne (by rintro rfl; simp [hb] at hnew)]
    exact ⟨b, hb⟩
  | @file mid l b' _ hold _ ih =>
    by_cases hl : loc = l
    · subst hl
      exact ⟨b', at?_put_self (ne_nil_of_forall_file hold)⟩
    · rw [at?_put_of_ne hl]
      exact ih

/-- There are no new links. -/
theorem not_link (h : Grown P fs fs') (hloc : ∀ t, fs.at? loc ≠ some (.link t)) (t : String) :
    fs'.at? loc ≠ some (.link t) := by
  -- Only directories and files are put.
  induction h with
  | same => exact hloc t
  | @directory mid l _ hnew _ ih =>
    by_cases hl : loc = l
    · subst hl
      rw [at?_put_self (ne_nil_of_at?_eq_none hnew)]
      simp
    · rw [at?_put_of_ne hl]
      exact ih
  | @file mid l b _ hold _ ih =>
    by_cases hl : loc = l
    · subst hl
      rw [at?_put_self (ne_nil_of_forall_file hold)]
      simp
    · rw [at?_put_of_ne hl]
      exact ih

end Grown

/-- An entry of one directory is none of another. -/
theorem names_put_of_ne (h : loc.dropLast ≠ dir) : (fs.put loc entry).names dir = fs.names dir := by
  have hnone : entryName? dir loc = none := by
    unfold entryName?
    split
    · rw [if_neg h]
    · rfl
  unfold FileSystem.names put
  simp only [List.filterMap_cons, hnone, List.filterMap_filter]
  congr 2
  funext e
  by_cases he : e.1 = loc
  · simp [he, hnone]
  · simp [he]

theorem Grown.names_eq (h : Grown P fs fs') (hdir : ∀ l e, P l e → l.dropLast ≠ dir) :
    fs'.names dir = fs.names dir := by
  induction h with
  | same => rfl
  | directory _ _ hP ih => rw [names_put_of_ne (hdir _ _ hP), ih]
  | file _ _ hP ih => rw [names_put_of_ne (hdir _ _ hP), ih]

/-! ### Where paths lead -/

section Resolve

variable {follow : Bool} {links : Nat} {ps : List String}

/-- Pieces that lead somewhere lead there in a grown file system, also if the last link is
    followed. -/
theorem Grown.resolveFrom_eq (h : Grown P fs fs') (hend : ∀ t, fs.at? loc ≠ some (.link t))
    (hr : fs.resolveFrom follow links dir ps = .ok loc) :
    fs'.resolveFrom true links dir ps = .ok loc := by
  rw [resolveFrom_eq_ok_iff] at hr
  induction hr with
  | here => exact resolveFrom_nil
  | idle hidle _ ih =>
    rw [resolveFrom_idle hidle]
    exact ih hend
  | up _ ih =>
    rw [resolveFrom_up]
    exact ih hend
  | @last links dir piece hstep _ =>
    -- There may be a directory or a file now where nothing was, but no link.
    rw [resolveFrom_step hstep]
    rcases hnew : fs'.at? (dir ++ [piece]) with _ | _ | bytes | target
    · rfl
    · exact resolveFrom_nil
    · rfl
    · exact absurd hnew (h.not_link hend target)
  | directory hstep hentry _ ih =>
    rw [resolveFrom_directory hstep (h.at?_directory hentry)]
    exact ih hend
  | link hstep hentry _ _ ih =>
    rw [resolveFrom_link hstep (h.at?_link hentry)]
    exact ih hend

theorem Grown.resolve_eq (h : Grown P fs fs') (hend : ∀ t, fs.at? loc ≠ some (.link t))
    (hr : fs.resolve follow here path = .ok loc) : fs'.resolve true here path = .ok loc := by
  rw [resolve_eq_ok_iff_start?] at hr ⊢
  obtain ⟨hne, hnull, start, qs, hstart, hr⟩ := hr
  exact ⟨hne, hnull, start, qs, hstart, h.resolveFrom_eq hend hr⟩

/-- What is found stays where it is found. -/
theorem Grown.find?_directory (h : Grown P fs fs')
    (hr : fs.find? here path = .ok (loc, .directory)) :
    fs'.find? here path = .ok (loc, .directory) := by
  obtain ⟨hresolve, hloc⟩ := find?_eq_ok_iff.mp hr
  exact find?_eq_ok_iff.mpr ⟨h.resolve_eq (by simp [hloc]) hresolve, h.at?_directory hloc⟩

/-- Where nothing is, it makes no difference whether a link would be followed. -/
theorem resolve_of_missing (hr : fs.resolve follow here path = .ok loc)
    (hnone : fs.at? loc = none) : fs.resolve true here path = .ok loc :=
  (Grown.same (P := fun _ _ => True)).resolve_eq (by simp [hnone]) hr

end Resolve

/-- Pieces that are followed to their end lead to no link. -/
theorem Follows.not_link {links : Nat} {ps : List String} (h : Follows fs true links dir ps loc)
    (hfs : fs.WellFormed) (hdir : fs.at? dir = some .directory) (t : String) :
    fs.at? loc ≠ some (.link t) := by
  induction h with
  | here => simp [hdir]
  | idle _ _ ih => exact ih hdir
  | up _ ih => exact ih (hfs.at?_dropLast hdir)
  | last _ hend => exact fun hlink => absurd (hend.2 t hlink) (by simp)
  | directory _ hentry _ ih => exact ih hentry
  | link _ _ _ _ ih => exact ih (at?_targetBase hdir)

/-- A path that is followed to its end leads to no link. -/
theorem Stands.not_link_of_resolve (h : Stands fs here)
    (hpath : fs.resolve true here path = .ok loc) (t : String) :
    fs.at? loc ≠ some (.link t) := by
  obtain ⟨-, -, start, qs, hstart, hpath⟩ := resolve_eq_ok_iff_start?.mp hpath
  exact (follows_of_resolveFrom hpath).not_link h.files (h.of_begin? hstart).2.1 t

/-- Where a file is written there was nothing, or a file. -/
theorem Stands.file_of_resolve (h : Stands fs here) (hpath : fs.resolve true here path = .ok loc)
    (hdir : fs.at? loc ≠ some .directory) : ∀ e, fs.at? loc = some e → ∃ b, e = .file b := by
  rintro (_ | b | t) he
  · exact absurd he hdir
  · exact ⟨b, rfl⟩
  · exact absurd he (h.not_link_of_resolve hpath t)

/-! ### Changes -/

/-- Directories are made where nothing was. -/
theorem maintains_grown_makeDirectories :
    Maintains (Grown (fun _ e => e = .directory) fs) (makeDirectories here path) :=
  maintains_makeDirectoriesUpTo (Q := fun _ => True) (fun _ _ _ _ _ => trivial)
    (fun _ _ => maintains_makeDirectory (fun _ _ hgrown _ hnone => .directory hgrown hnone rfl))
    (path.length + 1) path trivial

end PackageAtlas.FileSystem
