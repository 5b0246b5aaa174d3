import PackageAtlas.Proofs.FileSystem.Changes
import PackageAtlas.Proofs.FileSystem.Walk
import PackageAtlas.Proofs.Path.Parts

namespace PackageAtlas

/-!
# Null characters

A path with a null character in it is no path of any file system, and what is done with it fails in
a way of its own. No file system comes to hold such a path:

* `Path.IsClean`: texts without null characters, and how paths stay so;
* `FileSystem.Clean`: file systems with such names and links only;
* `FileSystem.Follows.isClean`: clean pieces lead to clean locations there;
* `FileSystem.CleanStands`, `FileSystem.maintains_cleanStands_makeDirectories`,
  `FileSystem.maintains_cleanStands_copy`: so nothing else gets into them;
* `FileSystem.not_isForeign_of_resolve`: clean paths lead somewhere, or fail on their way;
* `FileSystem.FailsCleanly`: changes that never fail because of a null character.
-/

namespace Path

variable {text path base part : String} {ns : List String}

/-- A text has no null character. -/
def IsClean (text : String) : Prop := Char.ofNat 0 ∉ text.toList

instance (text : String) : Decidable (IsClean text) :=
  inferInstanceAs (Decidable (Char.ofNat 0 ∉ text.toList))

theorem mem_intercalate {α : Type} {a sep : α} (hsep : a ≠ sep) {ls : List (List α)} :
    a ∈ [sep].intercalate ls ↔ ∃ as ∈ ls, a ∈ as := by
  induction ls with
  | nil => simp
  | cons l ls ih =>
    cases ls with
    | nil => simp [List.intercalate]
    | cons m ls =>
      rw [List.intercalate_cons_cons, List.mem_append, List.mem_append, ih]
      simp [hsep]

/-- Characters of texts, apart from slashes, are those of their pieces. -/
theorem isClean_iff_pieces : IsClean text ↔ ∀ p ∈ pieces text, IsClean p := by
  have hmem : Char.ofNat 0 ∈ text.toList ↔ ∃ cs ∈ text.toList.splitOn '/', Char.ofNat 0 ∈ cs := by
    rw [← mem_intercalate (show Char.ofNat 0 ≠ '/' by decide), List.intercalate_splitOn]
  unfold IsClean
  rw [pieces_eq, hmem]
  simp

/-- Idle pieces do not matter. -/
theorem isClean_iff_parts : IsClean text ↔ ∀ p ∈ parts text, IsClean p := by
  rw [isClean_iff_pieces]
  constructor
  · exact fun h p hp => h p (List.mem_filter.mp hp).1
  · intro h p hp
    by_cases hidle : isIdle p = true
    · rw [isIdle, Bool.or_eq_true, beq_iff_eq, beq_iff_eq] at hidle
      rcases hidle with rfl | rfl <;> decide
    · exact h p (List.mem_filter.mpr ⟨hp, by simpa using hidle⟩)

theorem IsClean.join (hbase : IsClean base) (hpart : IsClean part) : IsClean (join base part) := by
  unfold IsClean at hbase hpart ⊢
  unfold Path.join
  split
  · exact hpart
  · split <;> simp [hbase, hpart]

theorem isClean_ofNames (h : ∀ n ∈ ns, IsClean n) : IsClean (ofNames ns) := by
  induction ns with
  | nil => decide
  | cons n ns ih =>
    have hn := h n (by simp)
    have hns := ih (fun m hm => h m (List.mem_cons_of_mem n hm))
    cases ns with
    | nil => simpa [ofNames] using hn
    | cons m ns =>
      rw [ofNames_cons_cons]
      unfold IsClean at hn hns ⊢
      simp [hn, hns]

theorem IsClean.parent (h : IsClean text) : IsClean (parent text) := by
  rw [isClean_iff_parts, parts_split] at h
  exact isClean_iff_parts.mpr (fun p hp => h p (List.mem_append_left _ hp))

theorem isClean_withoutSlashes_iff : IsClean (FileSystem.withoutSlashes text) ↔ IsClean text := by
  rw [isClean_iff_parts, parts_withoutSlashes, ← isClean_iff_parts]

theorem IsClean.splitPath (h : IsClean text) : IsClean (FileSystem.splitPath text).1 := by
  rw [isClean_iff_parts, parts_splitPath] at h
  exact isClean_iff_parts.mpr (fun p hp => h p (List.mem_append_left _ hp))

end Path

namespace FileSystem

open PackageAtlas.Path (IsClean pieces)

variable {fs fs' : FileSystem} {here : Standpoint} {loc dir : Location}
  {path source target : String} {entry : Entry} {follow : Bool} {links : Nat} {ps : List String}

/-! ### Clean file systems -/

/-- No name and no link has a null character. -/
structure Clean (fs : FileSystem) : Prop where
  names : ∀ e ∈ fs.nodes, ∀ n ∈ e.1, IsClean n
  links : ∀ e ∈ fs.nodes, ∀ t, e.2 = .link t → IsClean t

instance (entry : Entry) : Decidable (∀ t, entry = .link t → IsClean t) :=
  match entry with
  | .directory => isTrue (by simp)
  | .file _ => isTrue (by simp)
  | .link t => decidable_of_iff (IsClean t) (by simp)

instance (fs : FileSystem) : Decidable fs.Clean :=
  decidable_of_iff
    ((∀ e ∈ fs.nodes, ∀ n ∈ e.1, IsClean n) ∧ ∀ e ∈ fs.nodes, ∀ t, e.2 = .link t → IsClean t)
    ⟨fun h => ⟨h.1, h.2⟩, fun h => ⟨h.names, h.links⟩⟩

theorem Clean.names_of_at? (h : fs.Clean) (hloc : fs.at? loc = some entry) :
    ∀ n ∈ loc, IsClean n := by
  by_cases hne : loc = []
  · simp [hne]
  · exact h.names _ (mem_of_at? hne hloc)

theorem Clean.put (h : fs.Clean) (hloc : ∀ n ∈ loc, IsClean n)
    (hentry : ∀ t, entry = .link t → IsClean t) : (fs.put loc entry).Clean := by
  constructor
  · intro e he
    rcases List.mem_cons.mp he with rfl | he
    · exact hloc
    · exact h.names e (List.mem_filter.mp he).1
  · intro e he
    rcases List.mem_cons.mp he with rfl | he
    · exact hentry
    · exact h.links e (List.mem_filter.mp he).1

theorem isClean_of_mem_targetBase {t : String} (hdir : ∀ n ∈ dir, IsClean n) :
    ∀ n ∈ targetBase dir t, IsClean n := by
  unfold targetBase
  split
  · simp
  · exact hdir

/-- Clean pieces lead from a clean location to another one. -/
theorem Follows.isClean (h : Follows fs follow links dir ps loc) (hfs : fs.Clean)
    (hdir : ∀ n ∈ dir, IsClean n) (hps : ∀ p ∈ ps, IsClean p) : ∀ n ∈ loc, IsClean n := by
  have hnext : ∀ {dir : Location} {piece : String} {rest : List String},
      (∀ n ∈ dir, IsClean n) → (∀ p ∈ piece :: rest, IsClean p) →
      ∀ n ∈ dir ++ [piece], IsClean n := by
    intro dir piece rest hdir hps n hn
    rcases List.mem_append.mp hn with hn | hn
    · exact hdir n hn
    · rw [List.mem_singleton.mp hn]
      exact hps piece List.mem_cons_self
  induction h with
  | here => exact hdir
  | idle _ _ ih => exact ih hdir (List.forall_mem_cons.mp hps).2
  | up _ ih =>
    exact ih (fun n hn => hdir n (List.dropLast_subset _ hn)) (List.forall_mem_cons.mp hps).2
  | last _ _ => exact hnext hdir hps
  | directory _ _ _ ih => exact ih (hnext hdir hps) (List.forall_mem_cons.mp hps).2
  | link _ hentry _ _ ih =>
    -- The target of the link is a clean path as well.
    have htarget := hfs.links _ (mem_of_at? (by simp) hentry) _ rfl
    refine ih (isClean_of_mem_targetBase hdir) (fun p hp => ?_)
    rcases List.mem_append.mp hp with hp | hp
    · exact Path.isClean_iff_pieces.mp htarget p hp
    · exact hps p (List.mem_cons_of_mem _ hp)

/-! ### What is put into them -/

/-- One stands in a clean file system. -/
structure CleanStands (fs : FileSystem) (here : Standpoint) : Prop extends Stands fs here where
  clean : fs.Clean

/-- A clean path leads to a clean location; no other path leads anywhere. -/
theorem CleanStands.isClean_of_resolve (h : CleanStands fs here)
    (hpath : fs.resolve follow here path = .ok loc) : ∀ n ∈ loc, IsClean n := by
  obtain ⟨-, hclean, start, qs, hstart, hpath⟩ := resolve_eq_ok_iff_start?.mp hpath
  obtain ⟨-, hdir, hqs⟩ := h.of_begin? hstart
  exact (follows_of_resolveFrom hpath).isClean h.clean (h.clean.names_of_at? hdir)
    (fun p hp => Path.isClean_iff_pieces.mp hclean p (hqs p hp))

/-- Directories and files that are put where a path leads keep a file system clean. -/
theorem CleanStands.put (h : CleanStands fs here) (hpath : fs.resolve follow here path = .ok loc)
    (hnew : fs.at? loc ≠ some .directory) (hentry : ∀ t, entry ≠ .link t) :
    CleanStands (fs.put loc entry) here :=
  ⟨h.toStands.put (h.placed_of_resolve hpath) hnew,
    h.clean.put (h.isClean_of_resolve hpath) (fun t ht => absurd ht (hentry t))⟩

theorem maintains_cleanStands_makeDirectories :
    Maintains (fun fs => CleanStands fs here) (makeDirectories here path) :=
  maintains_makeDirectoriesUpTo (Q := fun _ => True) (fun _ _ _ _ _ => trivial)
    (fun _ _ => maintains_makeDirectory (fun _ _ hfs hloc hnone =>
      hfs.put hloc (by simp [hnone]) (by simp))) (path.length + 1) path trivial

theorem maintains_cleanStands_copy :
    Maintains (fun fs => CleanStands fs here) (copy here source target) :=
  maintains_copy (fun _ _ _ hfs _ hloc hnew => hfs.put hloc hnew (by simp))

/-! ### Failures -/

/-- A cause that has nothing to do with where a path leads. -/
def IsForeign (cause : FileCause) : Prop :=
  cause = .nullCharacter ∨ cause = .alreadyThere ∨ cause = .isDirectory

/-- No path is refused for such a cause once its pieces are known. -/
theorem not_isForeign_of_resolveFrom {cause : FileCause}
    (h : fs.resolveFrom follow links dir ps = .error cause) : ¬ IsForeign cause := by
  have hcause : ∀ {own : FileCause}, ¬ IsForeign own →
      (Except.error own : Except FileCause Location) = .error cause → ¬ IsForeign cause :=
    fun hown heq => Except.error.inj heq ▸ hown
  -- A way fails where something is missing or is no directory, and for long names or many links.
  induction links, dir, ps using way_induction fs with
  | nil => simp at h
  | idle hidle ih =>
    rw [resolveFrom_idle hidle] at h
    exact ih h
  | up ih =>
    rw [resolveFrom_up] at h
    exact ih h
  | long hlong =>
    rw [resolveFrom_long hlong] at h
    exact hcause (by simp [IsForeign]) h
  | missing hstep hentry =>
    rw [resolveFrom_missing hstep hentry] at h
    split at h
    · simp at h
    · exact hcause (by simp [IsForeign]) h
  | directory hstep hentry ih =>
    rw [resolveFrom_directory hstep hentry] at h
    exact ih h
  | file hstep hentry =>
    rw [resolveFrom_file hstep hentry] at h
    split at h
    · simp at h
    · exact hcause (by simp [IsForeign]) h
  | lastLink hstep hentry =>
    rw [resolveFrom_step hstep, hentry] at h
    simp only at h
    split at h
    · simp at h
    · exact hcause (by simp [IsForeign]) h
  | link hstep hentry ih =>
    rw [resolveFrom_step hstep, hentry] at h
    simp only at h
    split at h
    · simp at h
    · exact ih h

theorem not_isForeign_of_leaveLost {cause : FileCause} {lost : Nat}
    (h : leaveLost dir lost ps = .error cause) : ¬ IsForeign cause := by
  fun_induction leaveLost dir lost ps with
  | case1 => simp at h
  | case2 =>
    obtain rfl := Except.error.inj h
    simp [IsForeign]
  | case3 dir lost piece rest _ ih => exact ih h
  | case4 dir lost piece rest _ _ ih => exact ih h
  | case5 =>
    obtain rfl := Except.error.inj h
    simp [IsForeign]

/-- A path is refused for a null character only if it has one, and for nothing else that has to do
    with other things than where it leads. -/
theorem not_isForeign_of_resolve {cause : FileCause}
    (h : fs.resolve follow here path = .error cause)
    (hnull : IsClean path ∨ cause ≠ .nullCharacter) : ¬ IsForeign cause := by
  unfold resolve at h
  rcases bind_eq_error_iff.mp h with hfollow | ⟨ps, -, h⟩
  · unfold followable at hfollow
    split at hfollow
    · obtain rfl := Except.error.inj hfollow
      simp [IsForeign]
    · split at hfollow
      · rename_i hcontains
        obtain rfl := Except.error.inj hfollow
        -- This is the null character.
        rcases hnull with hclean | hne
        · exact absurd hcontains (by simpa [IsClean] using hclean)
        · exact absurd rfl hne
      · simp at hfollow
  · split at h
    · exact not_isForeign_of_resolveFrom h
    · rcases bind_eq_error_iff.mp h with hleave | ⟨x, -, h⟩
      · exact not_isForeign_of_leaveLost hleave
      · exact not_isForeign_of_resolveFrom h

/-- A clean path is not refused for a null character. -/
theorem resolve_ne_nullCharacter (hpath : IsClean path) :
    fs.resolve follow here path ≠ .error .nullCharacter :=
  fun h => not_isForeign_of_resolve h (Or.inl hpath) (Or.inl rfl)

theorem find?_ne_nullCharacter (hpath : IsClean path) :
    fs.find? here path ≠ .error .nullCharacter := by
  intro h
  unfold find? at h
  rcases bind_eq_error_iff.mp h with hresolve | ⟨loc, -, h⟩
  · exact resolve_ne_nullCharacter hpath hresolve
  · split at h <;> simp at h

theorem cause_ne_nullCharacter_of_read {e : FileError} (hpath : IsClean path)
    (h : fs.read here path = .error e) : e.cause ≠ .nullCharacter := by
  unfold read at h
  split at h
  · simp at h
  · obtain rfl := Except.error.inj h
    simp
  · rename_i cause hcause
    obtain rfl := Except.error.inj h
    exact fun heq => find?_ne_nullCharacter hpath (hcause.trans (congrArg _ heq))

/-- A change does not fail because of a null character. -/
def FailsCleanly {α : Type} (c : Change α) : Prop :=
  ∀ fs e fs', outcome c fs = (.error e, fs') → e.cause ≠ .nullCharacter

section FailsCleanly

variable {α β : Type}

theorem failsCleanly_pure (a : α) : FailsCleanly (pure a : Change α) := by
  intro fs e fs' h
  simp [outcome_pure] at h

theorem failsCleanly_throw {e : FileError} (he : e.cause ≠ .nullCharacter) :
    FailsCleanly (throw e : Change α) := by
  intro fs e' fs' h
  rw [outcome_throw] at h
  obtain rfl := Except.error.inj (Prod.mk.inj h).1
  exact he

theorem FailsCleanly.bind {c : Change α} {f : α → Change β} (hc : FailsCleanly c)
    (hf : ∀ a, FailsCleanly (f a)) : FailsCleanly (c >>= f) := by
  intro fs e fs' h
  rw [outcome_bind] at h
  rcases hr : outcome c fs with ⟨e' | a, mid⟩
  · rw [hr] at h
    obtain rfl := Except.error.inj (Prod.mk.inj h).1
    exact hc fs _ mid hr
  · rw [hr] at h
    exact hf a mid e fs' h

theorem failsCleanly_get_bind {f : FileSystem → Change α} (hf : ∀ fs, FailsCleanly (f fs)) :
    FailsCleanly (get >>= f) :=
  fun fs e fs' h => hf fs fs e fs' h

theorem failsCleanly_set (fs : FileSystem) : FailsCleanly (set fs : Change PUnit) := by
  intro mid e fs' h
  exact absurd (Prod.mk.inj h).1 (by simp)

theorem FailsCleanly.tryCatch {c : Change α} {f : FileError → Change α} (hc : FailsCleanly c)
    (hf : ∀ e, e.cause ≠ .nullCharacter → FailsCleanly (f e)) : FailsCleanly (tryCatch c f) := by
  intro fs e fs' h
  rw [outcome_tryCatch] at h
  rcases hr : outcome c fs with ⟨e' | a, mid⟩
  · rw [hr] at h
    exact hf e' (hc fs e' mid hr) mid e fs' h
  · rw [hr] at h
    simp at h

theorem failsCleanly_resolved {paths : List String} (hpath : IsClean path) :
    FailsCleanly (resolved follow here path paths) := by
  intro fs e fs' h
  unfold outcome at h
  rw [run_resolved] at h
  split at h
  · simp at h
  · rename_i cause hcause
    obtain rfl := Except.error.inj (Prod.mk.inj h).1
    exact fun heq => resolve_ne_nullCharacter hpath (hcause.trans (congrArg _ heq))

theorem failsCleanly_makeDirectory (hpath : IsClean path) :
    FailsCleanly (makeDirectory here path) := by
  unfold makeDirectory
  refine (failsCleanly_resolved (Path.isClean_withoutSlashes_iff.mpr hpath)).bind (fun loc => ?_)
  refine failsCleanly_get_bind (fun fs => ?_)
  split
  · exact failsCleanly_throw (by simp)
  · exact failsCleanly_set _

theorem failsCleanly_ensureDirectory (hpath : IsClean path) :
    FailsCleanly (ensureDirectory here path) := by
  refine (failsCleanly_makeDirectory hpath).tryCatch (fun e he => ?_)
  refine failsCleanly_get_bind (fun fs => ?_)
  split
  · exact failsCleanly_pure ()
  · exact failsCleanly_throw he

theorem failsCleanly_makeDirectories (hpath : IsClean path) :
    FailsCleanly (makeDirectories here path) := by
  unfold makeDirectories
  generalize path.length + 1 = fuel
  induction fuel generalizing path with
  | zero => exact failsCleanly_pure ()
  | succ fuel ih =>
    intro fs e fs' h
    have hself : FailsCleanly (ensureDirectory here path) := failsCleanly_ensureDirectory hpath
    rcases makeDirectoriesUpTo_cases h with ⟨-, hmade⟩ | ⟨-, above, mid, habove, hrest⟩
    · exact hself fs e fs' hmade
    · rcases hrest with ⟨-, rfl, rfl⟩ | ⟨-, ⟨-, hok, -⟩ | ⟨-, hmade⟩⟩
      · exact ih hpath.splitPath fs e _ habove
      · simp at hok
      · exact hself mid e fs' hmade

theorem failsCleanly_write {bytes : ByteArray} (hpath : IsClean path) :
    FailsCleanly (write here path bytes) := by
  unfold write
  refine (failsCleanly_resolved hpath).bind (fun loc => failsCleanly_get_bind (fun fs => ?_))
  split
  · exact failsCleanly_throw (by simp)
  · exact failsCleanly_set _

theorem failsCleanly_copy (hsource : IsClean source) (htarget : IsClean target) :
    FailsCleanly (copy here source target) := by
  unfold copy
  refine failsCleanly_get_bind (fun fs => ?_)
  have hthere : FailsCleanly (throw ⟨.alreadyThere, [target]⟩ : Change PUnit) :=
    failsCleanly_throw (by simp)
  simp only
  rcases hread : fs.read here source with e | bytes
  · have hfail : FailsCleanly (throw e : Change Unit) :=
      failsCleanly_throw (cause_ne_nullCharacter_of_read hsource hread)
    split
    · exact hthere.bind (fun _ => hfail)
    · exact hfail
  · have hwrite : FailsCleanly (write here target bytes) := failsCleanly_write htarget
    split
    · exact hthere.bind (fun _ => hwrite)
    · exact hwrite

end FailsCleanly

end FileSystem

end PackageAtlas
