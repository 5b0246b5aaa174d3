import PackageAtlas.Proofs.FileSystem.Resolution

namespace PackageAtlas

/-!
# What paths lead to

* `bind_eq_ok_iff`: when two steps that can fail give a result;
* `FileSystem.WellFormed`: entries have names, and lie in directories;
* `FileSystem.startOf`, `FileSystem.Settled`: where a path is taken from, if that is known;
* `FileSystem.begin?`, `FileSystem.leaveLost_eq_ok_iff`: where pieces are taken from in any case;
* `FileSystem.start?`, `FileSystem.resolve_eq_ok_iff_start?`: where a path leads from there;
* `FileSystem.find?_eq_ok_iff`, `FileSystem.read_eq_ok_iff`: what is found by a path;
* `FileSystem.isTooLong`, `FileSystem.leadsTo_isDirectory`: where looking for something fails;
* `FileSystem.exists_find?_of_join`: what lies below a path shows that the path leads to a
  directory;
* `FileSystem.LinksSuffice`: there are not too many links on the way of a path;
* `FileSystem.find?_join_of_find?`, `FileSystem.read_join_of_find?`: the same is found and read
  below all paths that lead to one directory.
-/

/-- One result after another is a result if both are. -/
theorem bind_eq_ok_iff {ε α β : Type} {x : Except ε α} {f : α → Except ε β} {b : β} :
    (x >>= f) = .ok b ↔ ∃ a, x = .ok a ∧ f a = .ok b := by
  cases x with
  | error e => simp [bind, Except.bind]
  | ok a => simp [bind, Except.bind]

theorem bind_eq_error_iff {ε α β : Type} {x : Except ε α} {f : α → Except ε β} {e : ε} :
    (x >>= f) = .error e ↔ x = .error e ∨ ∃ a, x = .ok a ∧ f a = .error e := by
  cases x with
  | error e => simp [bind, Except.bind]
  | ok a => simp [bind, Except.bind]

namespace FileSystem

open PackageAtlas.Path (IsName isAbsolute isIdle pieces)

variable {fs : FileSystem} {here : Standpoint} {dir loc start : Location} {path : String}
  {rooted : Bool} {ps qs used : List String} {lost : Nat}

/-! ### Well-formed file systems -/

/-- Every entry has a name and lies in a directory. -/
structure WellFormed (fs : FileSystem) : Prop where
  names : ∀ e ∈ fs.nodes, ∀ name ∈ e.1, IsName name
  parents : ∀ e ∈ fs.nodes, fs.at? e.1.dropLast = some .directory

instance (entry : Option Entry) : Decidable (entry = some .directory) :=
  match entry with
  | some .directory => isTrue rfl
  | some (.file _) => isFalse (by simp)
  | some (.link _) => isFalse (by simp)
  | none => isFalse (by simp)

instance (fs : FileSystem) : Decidable fs.WellFormed :=
  decidable_of_iff
    ((∀ e ∈ fs.nodes, ∀ name ∈ e.1, IsName name) ∧
      ∀ e ∈ fs.nodes, fs.at? e.1.dropLast = some .directory)
    ⟨fun h => ⟨h.1, h.2⟩, fun h => ⟨h.names, h.parents⟩⟩

theorem at?_nil : fs.at? [] = some .directory := rfl

theorem mem_of_at? {entry : Entry} (hne : loc ≠ []) (h : fs.at? loc = some entry) :
    (loc, entry) ∈ fs.nodes := by
  rw [at?, if_neg hne] at h
  obtain ⟨before, after, hnodes, -⟩ := List.lookup_eq_some_iff.mp h
  rw [hnodes]
  simp

theorem WellFormed.at?_dropLast (hfs : fs.WellFormed) (h : fs.at? loc = some .directory) :
    fs.at? loc.dropLast = some .directory := by
  by_cases hne : loc = []
  · subst hne
    exact at?_nil
  · exact hfs.parents _ (mem_of_at? hne h)

theorem at?_targetBase {target : String} (hdir : fs.at? dir = some .directory) :
    fs.at? (targetBase dir target) = some .directory := by
  unfold targetBase
  split
  · exact at?_nil
  · exact hdir

/-- Directories are what is entered. -/
theorem Enters.at?_eq (hfs : fs.WellFormed) {ps : List String} {n : Nat}
    (h : Enters fs dir ps loc n) (hdir : fs.at? dir = some .directory) :
    fs.at? loc = some .directory := by
  induction h with
  | here dir => exact hdir
  | idle _ _ ih => exact ih hdir
  | up _ ih => exact ih (hfs.at?_dropLast hdir)
  | directory _ hloc _ ih => exact ih hloc
  | link _ _ _ _ ihtarget ihrest => exact ihrest (ihtarget (at?_targetBase hdir))

theorem mem_insertName {name n : String} {ns : List String} :
    n ∈ insertName name ns ↔ n = name ∨ n ∈ ns := by
  induction ns with
  | nil => simp [insertName]
  | cons m ns ih =>
    unfold insertName
    split
    · simp
    · simp only [List.mem_cons, ih]
      constructor <;> rintro (h | h | h) <;> simp [h]

theorem mem_sortNames {n : String} {ns : List String} : n ∈ sortNames ns ↔ n ∈ ns := by
  induction ns with
  | nil => simp [sortNames]
  | cons m ns ih =>
    show n ∈ insertName m (sortNames ns) ↔ n ∈ m :: ns
    rw [mem_insertName, ih, List.mem_cons]

/-- A location has a name in a directory exactly if it lies there. -/
theorem entryName?_eq_some_iff {l : Location} {name : String} :
    entryName? dir l = some name ↔ l = dir ++ [name] := by
  unfold entryName?
  constructor
  · intro h
    split at h
    · rename_i last hlast
      split at h
      · rename_i hdir
        obtain rfl := Option.some.inj h
        obtain ⟨front, rfl⟩ := List.getLast?_eq_some_iff.mp hlast
        rw [List.dropLast_concat] at hdir
        rw [hdir]
      · simp at h
    · simp at h
  · rintro rfl
    simp

/-- The entries of a directory are the names of what lies in it. -/
theorem mem_names_iff {loc : Location} {name : String} :
    name ∈ fs.names loc ↔ (fs.at? (loc ++ [name])).isSome = true := by
  rw [FileSystem.names, mem_sortNames, List.mem_filterMap, at?,
    if_neg (by simp), List.lookup_isSome_iff]
  constructor
  · rintro ⟨e, he, hname⟩
    exact ⟨e, he, beq_iff_eq.mpr (entryName?_eq_some_iff.mp hname).symm⟩
  · rintro ⟨e, he, hloc⟩
    exact ⟨e, he, entryName?_eq_some_iff.mpr (beq_iff_eq.mp hloc).symm⟩

theorem WellFormed.isName_of_mem_names (hfs : fs.WellFormed) {name : String}
    (h : name ∈ fs.names dir) : IsName name := by
  rw [FileSystem.names, mem_sortNames, List.mem_filterMap] at h
  obtain ⟨e, he, hname⟩ := h
  refine hfs.names e he name ?_
  rw [entryName?_eq_some_iff.mp hname]
  simp

/-! ### Paths -/

/-- Where a path is taken from. -/
def startOf (here : Standpoint) (path : String) : Location :=
  if isAbsolute path then [] else here.location

/-- The place that a path is taken from was not removed. -/
def Settled (here : Standpoint) (path : String) : Prop := isAbsolute path = true ∨ here.lost = 0

theorem settled_of_absolute {full : String} (h : here.absolute path = .ok full) :
    Settled here path := by
  by_cases habs : isAbsolute path = true
  · exact Or.inl habs
  · refine Or.inr ?_
    rw [Standpoint.absolute, if_neg habs, bind_eq_ok_iff] at h
    obtain ⟨own, hown, -⟩ := h
    unfold Standpoint.path at hown
    split at hown
    · assumption
    · simp at hown

theorem exists_absolute_of_settled (h : Settled here path) :
    ∃ full, here.absolute path = .ok full := by
  unfold Standpoint.absolute Standpoint.path
  split
  · exact ⟨_, rfl⟩
  · rename_i habs
    rw [if_pos (h.resolve_left habs)]
    exact ⟨_, rfl⟩

/-- A path that is taken from a place that was removed has no normal form from the root on. -/
theorem absolute_of_not_settled (h : ¬ Settled here path) :
    here.absolute path = .error ⟨.missing, []⟩ := by
  obtain ⟨hrel, hlost⟩ := not_or.mp h
  rw [Standpoint.absolute, if_neg hrel, Standpoint.path, if_neg hlost]
  rfl

theorem followable_eq_ok_iff :
    followable path = .ok ps ↔ path ≠ "" ∧ Char.ofNat 0 ∉ path.toList ∧ ps = pieces path := by
  unfold followable
  by_cases hempty : path = ""
  · simp [hempty]
  by_cases hnull : Char.ofNat 0 ∈ path.toList
  · simp [hempty, hnull]
  · have hsome : path.isEmpty = false := by simpa using hempty
    have hclean : path.toList.contains (Char.ofNat 0) = false := by simpa using hnull
    rw [hsome, hclean]
    constructor
    · intro h
      exact ⟨hempty, hnull, (Except.ok.inj h).symm⟩
    · rintro ⟨-, -, rfl⟩
      rfl

/-! ### Where ways begin -/

/-- What is left of a place after one step up and more of them. -/
theorem take_dropLast (dir : Location) (lost : Nat) :
    dir.dropLast.take (dir.dropLast.length - lost) = dir.take (dir.length - (lost + 1)) := by
  rw [List.length_dropLast, List.dropLast_eq_take, List.take_take]
  congr 1
  omega

/-- Pieces that lead up a number of times and end with the last of them, with idle ones among
    them. -/
inductive LeadsUp : Nat → List String → Prop where
  | here : LeadsUp 0 []
  | idle {lost : Nat} {piece : String} {rest : List String} (h : isIdle piece = true)
      (hrest : LeadsUp (lost + 1) rest) : LeadsUp (lost + 1) (piece :: rest)
  | up {lost : Nat} {rest : List String} (hrest : LeadsUp lost rest) :
      LeadsUp (lost + 1) (".." :: rest)

namespace LeadsUp

theorem leaveLost_append (h : LeadsUp lost used) (more : List String) :
    leaveLost dir lost (used ++ more) = .ok (dir.take (dir.length - lost), more) := by
  induction h generalizing dir with
  | here => simp [leaveLost]
  | idle hidle _ ih =>
    rw [List.cons_append, leaveLost, if_pos hidle]
    exact ih
  | up _ ih =>
    rw [List.cons_append, leaveLost, if_neg (by decide), if_pos (by rfl), ih, take_dropLast]

theorem idle_or_up (h : LeadsUp lost used) : ∀ p ∈ used, isIdle p = true ∨ p = ".." := by
  induction h with
  | here => simp
  | idle hidle _ ih => exact List.forall_mem_cons.mpr ⟨Or.inl hidle, ih⟩
  | up _ ih => exact List.forall_mem_cons.mpr ⟨Or.inr rfl, ih⟩

/-- An idle piece does not lead up, so it does not end a way up either. -/
theorem not_concat {piece : String} (hidle : isIdle piece = true) :
    ¬ LeadsUp lost (used ++ [piece]) := by
  intro h
  induction used generalizing lost with
  | nil =>
    cases h with
    | idle _ hrest => cases hrest
    | up _ => exact absurd hidle (by decide)
  | cons _ _ ih =>
    cases h with
    | idle _ hrest => exact ih hrest
    | up hrest => exact ih hrest

end LeadsUp

/-- **Leaving what was removed.** Pieces lead out of as many removed directories as they lead up at
    first, and into what is left of the place. -/
theorem leaveLost_eq_ok_iff :
    leaveLost dir lost ps = .ok (start, qs) ↔
      ∃ used, LeadsUp lost used ∧ ps = used ++ qs ∧ start = dir.take (dir.length - lost) := by
  constructor
  · intro h
    -- By the pieces, up to the one that leads out of the last removed directory.
    fun_induction leaveLost dir lost ps with
    | case1 dir ps =>
      obtain ⟨rfl, rfl⟩ := Prod.mk.inj (Except.ok.inj h)
      exact ⟨[], .here, rfl, by simp⟩
    | case2 dir lost => simp at h
    | case3 dir lost piece rest hidle ih =>
      obtain ⟨used, hup, rfl, hstart⟩ := ih h
      exact ⟨piece :: used, .idle hidle hup, rfl, hstart⟩
    | case4 dir lost piece rest _ hpiece ih =>
      obtain rfl : piece = ".." := beq_iff_eq.mp hpiece
      obtain ⟨used, hup, rfl, hstart⟩ := ih h
      exact ⟨".." :: used, .up hup, rfl, hstart.trans (take_dropLast dir lost)⟩
    | case5 dir lost piece rest _ _ => simp at h
  · rintro ⟨used, hup, rfl, rfl⟩
    exact hup.leaveLost_append qs

/-- Where pieces are taken from, and which of them are left for the way: from the root, or from
    where one stands once what was removed has been left. -/
def begin? (here : Standpoint) (rooted : Bool) (ps : List String) :
    Except FileCause (Location × List String) :=
  if rooted then .ok ([], ps) else leaveLost here.location here.lost ps

/-- From the root, too, pieces are taken after what was removed has been left: nothing. -/
theorem begin?_eq_leaveLost (here : Standpoint) (rooted : Bool) (ps : List String) :
    begin? here rooted ps =
      leaveLost (if rooted then [] else here.location) (if rooted then 0 else here.lost) ps := by
  cases rooted with
  | true => simp [begin?, leaveLost]
  | false => rfl

/-- More pieces are left for the way, and nothing else changes. -/
theorem begin?_append (h : begin? here rooted ps = .ok (start, qs)) (more : List String) :
    begin? here rooted (ps ++ more) = .ok (start, qs ++ more) := by
  rw [begin?_eq_leaveLost] at h ⊢
  obtain ⟨used, hup, rfl, rfl⟩ := leaveLost_eq_ok_iff.mp h
  rw [List.append_assoc]
  exact hup.leaveLost_append (qs ++ more)

/-- An empty piece at the end is left for the way. -/
theorem begin?_of_concat_empty (h : begin? here rooted (ps ++ [""]) = .ok (start, qs)) :
    ∃ front, begin? here rooted ps = .ok (start, front) ∧ qs = front ++ [""] := by
  simp only [begin?_eq_leaveLost] at h ⊢
  obtain ⟨used, hup, hcut, rfl⟩ := leaveLost_eq_ok_iff.mp h
  obtain rfl | ⟨front, last, rfl⟩ := List.eq_nil_or_concat qs
  · rw [List.append_nil] at hcut
    exact absurd (hcut ▸ hup) (LeadsUp.not_concat (by decide))
  · rw [List.concat_eq_append, ← List.append_assoc] at hcut
    obtain ⟨rfl, hlast⟩ := List.append_inj' hcut rfl
    obtain rfl : "" = last := by simpa using hlast
    exact ⟨front, hup.leaveLost_append front, List.concat_eq_append⟩

/-- Where the pieces of a path are taken from, and which they are, for one who may stand in a
    removed directory. -/
def start? (here : Standpoint) (path : String) : Except FileCause (Location × List String) :=
  if isAbsolute path then .ok ([], pieces path)
  else leaveLost here.location here.lost (pieces path)

theorem start?_eq_begin? (here : Standpoint) (path : String) :
    start? here path = begin? here (isAbsolute path) (pieces path) := rfl

/-- Where nothing was removed, the place itself is where the pieces are taken from. -/
theorem start?_of_settled (h : Settled here path) :
    start? here path = .ok (startOf here path, pieces path) := by
  unfold start? startOf
  by_cases habs : isAbsolute path = true
  · rw [if_pos habs, if_pos habs]
  · rw [if_neg habs, if_neg habs, h.resolve_left habs, leaveLost]

/-! ### Where paths lead -/

/-- A path is followed piece by piece once one has set out. -/
theorem resolve_eq_bind (fs : FileSystem) (follow : Bool) (here : Standpoint) (path : String) :
    fs.resolve follow here path = (do
      let ps ← followable path
      let (start, qs) ← begin? here (isAbsolute path) ps
      fs.resolveFrom follow linkLimit start qs) := by
  unfold resolve begin?
  rcases followable path with e | ps
  · rfl
  · simp only [bind, Except.bind]
    split <;> rfl

theorem resolve_eq_ok_iff_start? {follow : Bool} :
    fs.resolve follow here path = .ok loc ↔
      path ≠ "" ∧ Char.ofNat 0 ∉ path.toList ∧ ∃ start qs, start? here path = .ok (start, qs) ∧
        fs.resolveFrom follow linkLimit start qs = .ok loc := by
  rw [resolve_eq_bind, bind_eq_ok_iff]
  constructor
  · rintro ⟨ps, hps, h⟩
    obtain ⟨hne, hnull, rfl⟩ := followable_eq_ok_iff.mp hps
    obtain ⟨⟨start, qs⟩, hstart, h⟩ := bind_eq_ok_iff.mp h
    exact ⟨hne, hnull, start, qs, hstart, h⟩
  · rintro ⟨hne, hnull, start, qs, hstart, h⟩
    exact ⟨pieces path, followable_eq_ok_iff.mpr ⟨hne, hnull, rfl⟩,
      bind_eq_ok_iff.mpr ⟨(start, qs), hstart, h⟩⟩

theorem resolve_eq_ok_iff (h : Settled here path) {follow : Bool} :
    fs.resolve follow here path = .ok loc ↔
      path ≠ "" ∧ Char.ofNat 0 ∉ path.toList ∧
        fs.resolveFrom follow linkLimit (startOf here path) (pieces path) = .ok loc := by
  rw [resolve_eq_ok_iff_start?, start?_of_settled h]
  constructor
  · rintro ⟨hne, hnull, start, qs, heq, hway⟩
    obtain ⟨rfl, rfl⟩ := Prod.mk.inj (Except.ok.inj heq)
    exact ⟨hne, hnull, hway⟩
  · rintro ⟨hne, hnull, hway⟩
    exact ⟨hne, hnull, _, _, rfl, hway⟩

theorem find?_eq_ok_iff {entry : Entry} :
    fs.find? here path = .ok (loc, entry) ↔
      fs.resolve true here path = .ok loc ∧ fs.at? loc = some entry := by
  unfold find?
  rw [bind_eq_ok_iff]
  constructor
  · rintro ⟨l, hl, h⟩
    rcases hentry : fs.at? l with _ | found
    · rw [hentry] at h
      simp at h
    · rw [hentry] at h
      obtain ⟨rfl, rfl⟩ := Prod.mk.inj (Except.ok.inj h)
      exact ⟨hl, hentry⟩
  · rintro ⟨hl, hloc⟩
    refine ⟨loc, hl, ?_⟩
    rw [hloc]

theorem exists?_eq_true_iff :
    fs.exists? here path = true ↔ ∃ found, fs.find? here path = .ok found := by
  unfold exists?
  rcases fs.find? here path with e | found <;> simp

theorem read_eq_ok_iff {bytes : ByteArray} :
    fs.read here path = .ok bytes ↔ ∃ loc, fs.find? here path = .ok (loc, .file bytes) := by
  unfold read
  rcases fs.find? here path with e | ⟨l, _ | b | t⟩ <;> simp

theorem isDirectory_eq_true_iff :
    fs.isDirectory here path = true ↔ ∃ loc, fs.find? here path = .ok (loc, .directory) := by
  unfold isDirectory
  rcases fs.find? here path with e | ⟨l, _ | b | t⟩ <;> simp

theorem isFile_of_read {bytes : ByteArray} (h : fs.read here path = .ok bytes) :
    fs.isFile here path = true := by
  obtain ⟨l, hl⟩ := read_eq_ok_iff.mp h
  rw [isFile, hl]

theorem exists_read_of_isFile (h : fs.isFile here path = true) :
    ∃ bytes, fs.read here path = .ok bytes := by
  unfold isFile at h
  unfold read
  rcases hfind : fs.find? here path with e | ⟨l, _ | b | t⟩ <;> rw [hfind] at h <;> simp at h ⊢

/-- Whether a name on the way of a path is too long. -/
def isTooLong (fs : FileSystem) (here : Standpoint) (path : String) : Bool :=
  match fs.find? here path with
  | .error .nameTooLong => true
  | _ => false

theorem isTooLong_eq_true_iff :
    fs.isTooLong here path = true ↔ fs.find? here path = .error .nameTooLong := by
  unfold isTooLong
  rcases fs.find? here path with e | found
  · cases e <;> simp
  · simp

/-- Looking for a directory fails only where a name on the way is too long. -/
theorem leadsTo_isDirectory (fs : FileSystem) (here : Standpoint) (path : String) :
    fs.leadsTo here Entry.isDirectory path =
      if fs.isTooLong here path then .error ⟨.nameTooLong, [path]⟩
      else .ok (fs.isDirectory here path) := by
  unfold leadsTo isTooLong isDirectory
  rcases fs.find? here path with e | ⟨l, _ | b | t⟩
  · cases e <;> rfl
  all_goals rfl

theorem leadsTo_any (fs : FileSystem) (here : Standpoint) (path : String) :
    fs.leadsTo here (fun _ => true) path =
      if fs.isTooLong here path then .error ⟨.nameTooLong, [path]⟩
      else .ok (fs.exists? here path) := by
  unfold leadsTo isTooLong exists?
  rcases fs.find? here path with e | found
  · cases e <;> rfl
  · rfl

theorem exists?_of_isDirectory (h : fs.isDirectory here path = true) :
    fs.exists? here path = true := by
  obtain ⟨loc, hloc⟩ := isDirectory_eq_true_iff.mp h
  exact exists?_eq_true_iff.mpr ⟨_, hloc⟩

/-- On the way of a path that leads somewhere, no name is too long. -/
theorem isTooLong_of_exists? (h : fs.exists? here path = true) :
    fs.isTooLong here path = false := by
  obtain ⟨found, hfound⟩ := exists?_eq_true_iff.mp h
  rw [isTooLong, hfound]

/-! ### Below directories -/

/-- A path that leads to a directory enters it. -/
theorem enters_of_find? (hpath : Settled here path)
    (h : fs.find? here path = .ok (loc, .directory)) :
    ∃ n, n ≤ linkLimit ∧ Enters fs (startOf here path) (pieces path) loc n := by
  obtain ⟨hresolve, hloc⟩ := find?_eq_ok_iff.mp h
  obtain ⟨-, -, hfrom⟩ := (resolve_eq_ok_iff hpath).mp hresolve
  rw [← List.append_nil (pieces path)] at hfrom
  obtain ⟨mid, n, left, hmid, hlinks, hleft⟩ := exists_enters hfrom (Or.inr hloc)
  rw [resolveFrom_nil, Except.ok.injEq] at hleft
  subst hleft
  exact ⟨n, by omega, hmid⟩

theorem ne_empty_of_find? {found : Location × Entry} (hpath : Settled here path)
    (h : fs.find? here path = .ok found) : path ≠ "" ∧ Char.ofNat 0 ∉ path.toList := by
  obtain ⟨hne, hnull, -⟩ := (resolve_eq_ok_iff hpath).mp (find?_eq_ok_iff.mp h).1
  exact ⟨hne, hnull⟩

/-- The empty piece at the end of a path changes nothing. -/
theorem Enters.of_concat_empty {ps : List String} {n : Nat}
    (h : Enters fs dir (ps ++ [""]) loc n) : Enters fs dir ps loc n := by
  obtain ⟨mid, k, m, hmid, hon, hcount⟩ := h.split
  -- The empty piece leads nowhere else, and through no link.
  have hhere : Enters fs mid [""] mid 0 := .idle (by decide) (.here mid)
  obtain ⟨rfl, rfl⟩ := hon.unique hhere
  obtain rfl : k = n := by omega
  exact hmid

theorem Enters.concat_empty {ps : List String} {n : Nat} (h : Enters fs dir ps loc n) :
    Enters fs dir (ps ++ [""]) loc n := by
  induction h with
  | here dir => exact .idle (by decide) (.here dir)
  | idle hidle _ ih => exact .idle hidle ih
  | up _ ih => exact .up ih
  | directory hstep hloc _ ih => exact .directory hstep hloc ih
  | link hstep hloc htarget _ _ ih => exact .link hstep hloc htarget ih

theorem startOf_join {part : String} (hpath : path ≠ "") (hpart : isAbsolute part = false) :
    startOf here (Path.join path part) = startOf here path := by
  rw [startOf, startOf, Path.isAbsolute_join hpath hpart]

theorem settled_join {part : String} (hpath : path ≠ "") (hpart : isAbsolute part = false) :
    Settled here (Path.join path part) ↔ Settled here path := by
  rw [Settled, Settled, Path.isAbsolute_join hpath hpart]

/-- The pieces of a path below a directory enter the directory first. -/
theorem exists_front_of_find? {part : String} (hpath : Settled here path)
    (h : fs.find? here path = .ok (loc, .directory)) (hpart : isAbsolute part = false) :
    ∃ front n, n ≤ linkLimit ∧ pieces (Path.join path part) = front ++ pieces part ∧
      Enters fs (startOf here path) front loc n := by
  obtain ⟨n, hn, henters⟩ := enters_of_find? hpath h
  obtain ⟨front, hjoin, hfront | hfront⟩ :=
    Path.pieces_join (ne_empty_of_find? hpath h).1 hpart
  · rw [hfront] at henters
    exact ⟨front, n, hn, hjoin, henters⟩
  · rw [hfront] at henters
    exact ⟨front, n, hn, hjoin, henters.of_concat_empty⟩

/-- What lies below a path shows that the path leads to a directory. -/
theorem exists_find?_of_join (hfs : fs.WellFormed) (hpath : isAbsolute path = true)
    {name : String} (hname : IsName name)
    (h : fs.exists? here (Path.join path name) = true) :
    ∃ loc, fs.find? here path = .ok (loc, .directory) := by
  have hne := Path.ne_empty_of_isAbsolute hpath
  have hsettled : Settled here path := Or.inl hpath
  have hpart := hname.isAbsolute_eq
  obtain ⟨⟨l, entry⟩, hfind⟩ := exists?_eq_true_iff.mp h
  obtain ⟨-, hnull, hfrom⟩ :=
    (resolve_eq_ok_iff ((settled_join hne hpart).mpr hsettled)).mp (find?_eq_ok_iff.mp hfind).1
  obtain ⟨front, hjoin, hfront⟩ := Path.pieces_join hne hpart
  rw [startOf_join hne hpart, hjoin] at hfrom
  obtain ⟨loc, n, left, hloc, hlinks, -⟩ :=
    exists_enters hfrom (Or.inl (Path.pieces_ne_nil name))
  -- There may be an empty piece between those of the path and the name.
  have henters : Enters fs (startOf here path) (pieces path) loc n := by
    rcases hfront with heq | heq
    · rw [heq]
      exact hloc
    · rw [heq]
      exact hloc.concat_empty
  have hat := henters.at?_eq hfs (by rw [startOf, if_pos hpath]; exact at?_nil)
  refine ⟨loc, find?_eq_ok_iff.mpr ⟨(resolve_eq_ok_iff hsettled).mpr ⟨hne, ?_, ?_⟩, hat⟩⟩
  · intro hmem
    exact hnull ((Path.mem_join_iff hne hpart (by decide)).mpr (Or.inl hmem))
  · have happ := henters.resolveFrom_append left []
    rw [List.append_nil, resolveFrom_nil, ← hlinks] at happ
    exact happ

/-! ### Limits -/

/-- The links on the way of a path are few enough: wherever it would lead if any number of links
    could be followed, it leads. -/
def LinksSuffice (fs : FileSystem) (here : Standpoint) (path : String) : Prop :=
  ∀ links loc, fs.resolveFrom true links (startOf here path) (pieces path) = .ok loc →
    fs.resolveFrom true linkLimit (startOf here path) (pieces path) = .ok loc

/-- A path that leads somewhere holds few enough links. -/
theorem linksSuffice_of_find? {found : Location × Entry} (hpath : Settled here path)
    (h : fs.find? here path = .ok found) : LinksSuffice fs here path := by
  intro links loc hloc
  obtain ⟨-, -, hfrom⟩ := (resolve_eq_ok_iff hpath).mp (find?_eq_ok_iff.mp h).1
  -- With both numbers of links together, both ways lead on as they did.
  have hmore := resolveFrom_mono hloc linkLimit
  rw [Nat.add_comm, resolveFrom_mono hfrom links] at hmore
  rw [← hmore]
  exact hfrom

/-- **Looking below links.** The same is found below all paths that lead to one directory, if there
    are few enough links on the way. -/
theorem find?_join_of_find? {path' file : String} {found : Location × Entry}
    (hfile : isAbsolute file = false) (hpath : Settled here path) (hpath' : Settled here path')
    (h : fs.find? here path = .ok (loc, .directory))
    (h' : fs.find? here path' = .ok (loc, .directory))
    (hlinks : LinksSuffice fs here (Path.join path' file))
    (hfound : fs.find? here (Path.join path file) = .ok found) :
    fs.find? here (Path.join path' file) = .ok found := by
  obtain ⟨hne, -⟩ := ne_empty_of_find? hpath h
  obtain ⟨hne', hnull'⟩ := ne_empty_of_find? hpath' h'
  obtain ⟨front, n, hn, hjoin, henters⟩ := exists_front_of_find? hpath h hfile
  obtain ⟨front', n', -, hjoin', henters'⟩ := exists_front_of_find? hpath' h' hfile
  obtain ⟨l, entry⟩ := found
  obtain ⟨hresolve, hat⟩ := find?_eq_ok_iff.mp hfound
  obtain ⟨-, hnull, hfrom⟩ :=
    (resolve_eq_ok_iff ((settled_join hne hfile).mpr hpath)).mp hresolve
  -- From the directory on both ways are the same; only the links before it may differ.
  have hbelow : fs.resolveFrom true (linkLimit - n) loc (pieces file) = .ok l := by
    rw [startOf_join hne hfile, hjoin, ← Nat.sub_add_cancel hn,
      henters.resolveFrom_append] at hfrom
    exact hfrom
  have hany : fs.resolveFrom true (linkLimit - n + n') (startOf here (Path.join path' file))
      (pieces (Path.join path' file)) = .ok l := by
    rw [startOf_join hne' hfile, hjoin', henters'.resolveFrom_append]
    exact hbelow
  have hnull'' : Char.ofNat 0 ∉ (Path.join path' file).toList := by
    rw [Path.mem_join_iff hne' hfile (by decide)]
    rintro (hmem | hmem)
    · exact hnull' hmem
    · exact hnull ((Path.mem_join_iff hne hfile (by decide)).mpr (Or.inr hmem))
  refine find?_eq_ok_iff.mpr ⟨?_, hat⟩
  exact (resolve_eq_ok_iff ((settled_join hne' hfile).mpr hpath')).mpr
    ⟨Path.join_ne_empty hne' hfile, hnull'', hlinks _ _ hany⟩

/-- **Reading below links.** A file is read alike below all paths that lead to one directory, if
    there are few enough links on the way. -/
theorem read_join_of_find? {path' file : String} {bytes : ByteArray}
    (hfile : isAbsolute file = false) (hpath : Settled here path) (hpath' : Settled here path')
    (h : fs.find? here path = .ok (loc, .directory))
    (h' : fs.find? here path' = .ok (loc, .directory))
    (hlinks : LinksSuffice fs here (Path.join path' file))
    (hread : fs.read here (Path.join path file) = .ok bytes) :
    fs.read here (Path.join path' file) = .ok bytes := by
  obtain ⟨l, hl⟩ := read_eq_ok_iff.mp hread
  exact read_eq_ok_iff.mpr ⟨l, find?_join_of_find? hfile hpath hpath' h h' hlinks hl⟩

end FileSystem

end PackageAtlas
