import Mathlib.Data.List.Induction
import PackageAtlas.FileSystem.Change
import PackageAtlas.Proofs.FileSystem.Lookup

namespace PackageAtlas.FileSystem

open PackageAtlas.Path (IsName pieces)

/-!
# File systems that are made by changes

Whatever is done to a file system, its entries keep their names and lie in directories:

* `Stands`: a well-formed file system, with a place in it to stand;
* `Placed`, `Stands.placed_of_resolve`: a path leads to an entry of a directory, or to where one
  could be put;
* `WellFormed.put`, `WellFormed.erase`: one entry more, or all below a location less;
* `Maintains`: changes that keep what holds of a file system, with one rule for each change;
* `makeDirectoriesUpTo_cases`, `write_cases`, `copy_cases`: all that making directories, writing and
  copying can do;
* `Sound`: changes that keep a well-formed file system; `sound_makeDirectories`, `sound_write`,
  `sound_copy`, `sound_addLink`, and `Stands.remove` for what is taken away;
* `Reached`, `Reached.stands`: all file systems that changes lead to are well-formed.
-/

variable {fs fs' : FileSystem} {here : Standpoint} {loc q : Location} {path : String}
  {entry : Entry} {fuel : Nat}

/-! ### Places -/

/-- What is left of the place where one stands. -/
def leftOf (here : Standpoint) : Location :=
  here.location.take (here.location.length - here.lost)

/-- A file system is well-formed, and one stands in it at a place that is told by names; what is
    left of the place is a directory. -/
structure Stands (fs : FileSystem) (here : Standpoint) : Prop where
  files : fs.WellFormed
  names : ∀ n ∈ here.location, IsName n
  left : fs.at? (leftOf here) = some .directory

/-- A location is told by names and lies in a directory. -/
structure Placed (fs : FileSystem) (loc : Location) : Prop where
  names : ∀ n ∈ loc, IsName n
  parent : fs.at? loc.dropLast = some .directory

/-- Directories lie in directories. -/
theorem WellFormed.at?_of_prefix (hfs : fs.WellFormed) (hloc : fs.at? loc = some .directory)
    (hq : q <+: loc) : fs.at? q = some .directory := by
  obtain ⟨below, rfl⟩ := hq
  induction below using List.reverseRecOn with
  | nil => simpa using hloc
  | append_singleton below name ih =>
    apply ih
    rw [← List.append_assoc] at hloc
    simpa using hfs.at?_dropLast hloc

/-! ### Where paths lead -/

section Resolve

variable {follow : Bool} {dir : Location} {ps : List String}

/-- Pieces lead from a directory to an entry of a directory, or to where one could be put. -/
theorem Follows.placed {links : Nat} (h : Follows fs follow links dir ps loc) (hfs : fs.WellFormed)
    (hnames : ∀ n ∈ dir, IsName n) (hdir : fs.at? dir = some .directory)
    (hps : ∀ p ∈ ps, '/' ∉ p.toList) : Placed fs loc := by
  have hnext : ∀ {dir : Location} {piece : String} {rest : List String}, IsStep piece →
      (∀ n ∈ dir, IsName n) → (∀ p ∈ piece :: rest, '/' ∉ p.toList) →
      ∀ n ∈ dir ++ [piece], IsName n :=
    fun hstep hnames hps => Path.isName_of_mem_concat hnames
      ⟨hstep.1, hstep.2.1, hps _ List.mem_cons_self⟩
  -- Each step leads to an entry with a name, and from each link one goes on in a directory.
  induction h with
  | here => exact ⟨hnames, hfs.at?_dropLast hdir⟩
  | idle _ _ ih => exact ih hnames hdir (List.forall_mem_cons.mp hps).2
  | up _ ih =>
    exact ih (fun n hn => hnames n (List.dropLast_subset _ hn)) (hfs.at?_dropLast hdir)
      (List.forall_mem_cons.mp hps).2
  | last hstep _ => exact ⟨hnext hstep hnames hps, by simpa using hdir⟩
  | directory hstep hentry _ ih =>
    exact ih (hnext hstep hnames hps) hentry (List.forall_mem_cons.mp hps).2
  | link _ _ _ _ ih =>
    refine ih (isName_of_mem_targetBase hnames) (at?_targetBase hdir) (fun p hp => ?_)
    rcases List.mem_append.mp hp with hp | hp
    · exact Path.not_mem_of_mem_pieces hp
    · exact hps p (List.mem_cons_of_mem _ hp)

end Resolve

namespace Stands

/-- One sets out from a directory, by pieces of the path. -/
theorem of_begin? {rooted : Bool} {ps qs : List String} {start : Location} (h : Stands fs here)
    (hbegin : begin? here rooted ps = .ok (start, qs)) :
    (∀ n ∈ start, IsName n) ∧ fs.at? start = some .directory ∧ ∀ p ∈ qs, p ∈ ps := by
  cases rooted with
  | true =>
    obtain ⟨rfl, rfl⟩ := Prod.mk.inj (Except.ok.inj hbegin)
    exact ⟨by simp, at?_nil, fun p hp => hp⟩
  | false =>
    obtain ⟨used, -, rfl, rfl⟩ := leaveLost_eq_ok_iff.mp hbegin
    exact ⟨fun n hn => h.names n (List.mem_of_mem_take hn), h.left,
      fun p hp => List.mem_append_right used hp⟩

/-- A path leads to an entry of a directory, or to where one could be put. -/
theorem placed_of_resolve {follow : Bool} (h : Stands fs here)
    (hpath : fs.resolve follow here path = .ok loc) : Placed fs loc := by
  obtain ⟨-, -, start, qs, hstart, hpath⟩ := resolve_eq_ok_iff_start?.mp hpath
  obtain ⟨hnames, hdir, hqs⟩ := h.of_begin? hstart
  exact (follows_of_resolveFrom hpath).placed h.files hnames hdir
    (fun p hp => Path.not_mem_of_mem_pieces (hqs p hp))

end Stands

/-! ### Entries that are put and erased -/

/-- An entry that is put somewhere leaves all others. -/
theorem at?_put_of_ne (h : q ≠ loc) : (fs.put loc entry).at? q = fs.at? q := by
  by_cases hq : q = []
  · subst hq
    rfl
  · rw [at?_put fs loc q entry hq, if_neg h]

/-- An entry that is erased with all below it leaves all others. -/
theorem at?_erase (h : ¬ loc <+: q) : (fs.erase loc).at? q = fs.at? q := by
  unfold at? erase
  split
  · rfl
  · refine lookup_filter ?_ fs.nodes
    rintro e rfl
    rw [← List.isPrefixOf_iff_prefix, Bool.not_eq_true] at h
    rw [h]
    rfl

theorem WellFormed.put (hfs : fs.WellFormed) (hloc : Placed fs loc)
    (hnew : fs.at? loc ≠ some .directory) : (fs.put loc entry).WellFormed := by
  have hold : ∀ l, fs.at? l = some .directory → (fs.put loc entry).at? l = some .directory := by
    intro l hl
    rw [at?_put_of_ne (by rintro rfl; exact hnew hl)]
    exact hl
  constructor
  · intro e he
    rcases List.mem_cons.mp he with rfl | he
    · exact hloc.names
    · exact hfs.names e (List.mem_filter.mp he).1
  · intro e he
    rcases List.mem_cons.mp he with rfl | he
    · exact hold _ hloc.parent
    · exact hold _ (hfs.parents e (List.mem_filter.mp he).1)

theorem WellFormed.erase (hfs : fs.WellFormed) : (fs.erase loc).WellFormed := by
  constructor
  · intro e he
    exact hfs.names e (List.mem_filter.mp he).1
  · intro e he
    obtain ⟨hmem, hkept⟩ := List.mem_filter.mp he
    -- What is above an entry that stays is not erased either.
    have hparent : ¬ loc <+: e.1.dropLast := by
      intro hprefix
      have hbelow := hprefix.trans (List.dropLast_prefix e.1)
      rw [List.isPrefixOf_iff_prefix.mpr hbelow] at hkept
      simp at hkept
    rw [at?_erase hparent]
    exact hfs.parents e hmem

theorem Stands.put (h : Stands fs here) (hloc : Placed fs loc)
    (hnew : fs.at? loc ≠ some .directory) : Stands (fs.put loc entry) here := by
  refine ⟨h.files.put hloc hnew, h.names, ?_⟩
  rw [at?_put_of_ne (by rintro heq; exact hnew (heq ▸ h.left))]
  exact h.left

/-- Where something that a place lies below is removed, what lies above it is left of the place. -/
theorem leftOf_of_isPrefix (hbelow : loc <+: leftOf here) :
    leftOf { here with lost := here.location.length - loc.length + 1 } = loc.dropLast := by
  have hloc : loc = here.location.take loc.length :=
    List.prefix_iff_eq_take.mp (hbelow.trans (List.take_prefix _ here.location))
  have hlength := congrArg List.length hloc
  rw [List.length_take] at hlength
  unfold leftOf
  rw [List.dropLast_eq_take, hloc, List.take_take, List.length_take]
  congr 1
  simp only
  omega

/-- What is left of a place is a directory behind a removal as well. -/
theorem Stands.erase (h : Stands fs here) : Stands (fs.erase loc) (here.without loc) := by
  unfold Standpoint.without
  simp only
  split
  · rename_i hprefix
    have hbelow : loc <+: leftOf here := List.isPrefixOf_iff_prefix.mp hprefix
    refine ⟨h.files.erase, h.names, ?_⟩
    rw [leftOf_of_isPrefix hbelow]
    by_cases hnil : loc = []
    · subst hnil
      exact at?_nil
    -- What lies above the location is not removed with it.
    have habove : ¬ loc <+: loc.dropLast := by
      intro hprefix
      have hlength := hprefix.length_le
      have hpos := List.length_pos_iff.mpr hnil
      rw [List.length_dropLast] at hlength
      omega
    rw [at?_erase habove]
    exact h.files.at?_of_prefix h.left ((List.dropLast_prefix loc).trans hbelow)
  · rename_i hprefix
    refine ⟨h.files.erase, h.names, ?_⟩
    rw [List.isPrefixOf_iff_prefix] at hprefix
    exact (at?_erase hprefix).trans h.left

/-! ### Changes -/

/-- The file system behind a change, whether it fails or not. -/
def behind {α : Type} (c : Change α) (fs : FileSystem) : FileSystem := (c.run.run fs).2

/-- What a change gives, and the file system behind it. -/
def outcome {α : Type} (c : Change α) (fs : FileSystem) : Except FileError α × FileSystem :=
  c.run.run fs

theorem behind_of_outcome {α : Type} {c : Change α} {result : Except FileError α}
    (h : outcome c fs = (result, fs')) : behind c fs = fs' := (Prod.mk.inj h).2

/-- A change keeps what holds of a file system, whether it fails or not. -/
def Maintains {α : Type} (I : FileSystem → Prop) (c : Change α) : Prop :=
  ∀ fs, I fs → I (behind c fs)

theorem Maintains.of_outcome {α : Type} {I : FileSystem → Prop} {c : Change α}
    {result : Except FileError α} (h : Maintains I c) (hfs : I fs)
    (hrun : outcome c fs = (result, fs')) : I fs' :=
  behind_of_outcome hrun ▸ h fs hfs

/-- A change keeps a well-formed file system, and the place where one stands. -/
def Sound {α : Type} (here : Standpoint) (c : Change α) : Prop :=
  ∀ fs, Stands fs here → Stands (behind c fs) here

section Maintains

variable {α β : Type} {I : FileSystem → Prop}

theorem maintains_pure (a : α) : Maintains I (pure a : Change α) := fun _ h => h

theorem maintains_throw (e : FileError) : Maintains I (throw e : Change α) := fun _ h => h

theorem run_bind (c : Change α) (f : α → Change β) (fs : FileSystem) :
    (c >>= f).run.run fs = match c.run.run fs with
      | (.ok a, fs') => (f a).run.run fs'
      | (.error e, fs') => (.error e, fs') := by
  rw [ExceptT.run_bind, StateT.run_bind]
  rcases StateT.run (ExceptT.run c) fs with ⟨e | a, fs'⟩ <;> rfl

theorem outcome_bind (c : Change α) (f : α → Change β) (fs : FileSystem) :
    outcome (c >>= f) fs = match outcome c fs with
      | (.ok a, fs') => outcome (f a) fs'
      | (.error e, fs') => (.error e, fs') := run_bind c f fs

theorem outcome_get_bind (f : FileSystem → Change α) (fs : FileSystem) :
    outcome (get >>= f) fs = outcome (f fs) fs := rfl

theorem outcome_set_bind (f : PUnit → Change α) (fs fs' : FileSystem) :
    outcome (set fs' >>= f) fs = outcome (f ⟨⟩) fs' := rfl

theorem outcome_pure (a : α) (fs : FileSystem) : outcome (pure a : Change α) fs = (.ok a, fs) := rfl

theorem outcome_throw (e : FileError) (fs : FileSystem) :
    outcome (throw e : Change α) fs = (.error e, fs) := rfl

theorem outcome_tryCatch (c : Change α) (f : FileError → Change α) (fs : FileSystem) :
    outcome (tryCatch c f) fs = match outcome c fs with
      | (.ok a, fs') => (.ok a, fs')
      | (.error e, fs') => outcome (f e) fs' := by
  show StateT.run (ExceptT.run (ExceptT.tryCatch c f)) fs = _
  rw [ExceptT.tryCatch, ExceptT.run_mk, StateT.run_bind]
  unfold outcome ExceptT.run
  rcases StateT.run c fs with ⟨e | a, fs'⟩ <;> rfl

theorem run_get (fs : FileSystem) : (get : Change FileSystem).run.run fs = (.ok fs, fs) := rfl

theorem run_resolved (follow : Bool) (here : Standpoint) (path : String) (paths : List String)
    (fs : FileSystem) :
    (resolved follow here path paths).run.run fs = match fs.resolve follow here path with
      | .ok loc => (.ok loc, fs)
      | .error cause => (.error ⟨cause, paths⟩, fs) := by
  unfold resolved
  rw [run_bind, run_get]
  simp only
  rcases fs.resolve follow here path with cause | loc <;> rfl

theorem Maintains.bind {c : Change α} {f : α → Change β} (hc : Maintains I c)
    (hf : ∀ a, Maintains I (f a)) : Maintains I (c >>= f) := by
  intro fs hfs
  have hkept := hc fs hfs
  unfold behind at hkept ⊢
  rw [run_bind]
  rcases hr : c.run.run fs with ⟨e | a, fs'⟩
  · rw [hr] at hkept
    exact hkept
  · rw [hr] at hkept
    exact hf a fs' hkept

theorem behind_get_bind (f : FileSystem → Change α) (fs : FileSystem) :
    behind (get >>= f) fs = behind (f fs) fs := rfl

/-- A change that looks at the file system first. -/
theorem maintains_get_bind {f : FileSystem → Change α} (hf : ∀ fs, I fs → I (behind (f fs) fs)) :
    Maintains I (get >>= f) :=
  fun fs hfs => hf fs hfs

theorem Maintains.tryCatch {c : Change α} {f : FileError → Change α} (hc : Maintains I c)
    (hf : ∀ e, Maintains I (f e)) : Maintains I (tryCatch c f) := by
  intro fs hfs
  have hkept := hc fs hfs
  show I (outcome (MonadExcept.tryCatch c f) fs).2
  rw [outcome_tryCatch]
  rcases hr : outcome c fs with ⟨e | a, fs'⟩
  · rw [behind_of_outcome hr] at hkept
    exact hf e fs' hkept
  · rw [behind_of_outcome hr] at hkept
    exact hkept

/-- A change of what a path leads to. -/
theorem maintains_resolved_bind {follow : Bool} {paths : List String} {f : Location → Change α}
    (hf : ∀ fs loc, I fs → fs.resolve follow here path = .ok loc → I (behind (f loc) fs)) :
    Maintains I (resolved follow here path paths >>= f) := by
  intro fs hfs
  unfold behind
  rw [run_bind, run_resolved]
  rcases hpath : fs.resolve follow here path with cause | loc
  · exact hfs
  · exact hf fs loc hfs hpath

/-- All that making a directory can do: one is put where nothing is, or nothing is done, where the
    path leads nowhere or something is there. -/
theorem makeDirectory_cases (here : Standpoint) (path : String) (fs : FileSystem) :
    (∃ loc, fs.resolve false here (withoutSlashes path) = .ok loc ∧ fs.at? loc = none ∧
      outcome (makeDirectory here path) fs = (.ok (), fs.put loc .directory)) ∨
    ∃ e, outcome (makeDirectory here path) fs = (.error e, fs) ∧
      ((fs.resolve false here (withoutSlashes path) = .error e.cause ∧ e.paths = [path]) ∨
        ∃ loc, fs.resolve false here (withoutSlashes path) = .ok loc ∧
          e = ⟨.alreadyThere, [path]⟩) := by
  unfold outcome makeDirectory
  rw [run_bind, run_resolved]
  rcases hpath : fs.resolve false here (withoutSlashes path) with cause | loc
  · exact Or.inr ⟨⟨cause, [path]⟩, rfl, Or.inl ⟨rfl, rfl⟩⟩
  · simp only [run_bind, run_get]
    rcases hentry : fs.at? loc with _ | entry
    · exact Or.inl ⟨loc, rfl, hentry, rfl⟩
    · exact Or.inr ⟨⟨.alreadyThere, [path]⟩, rfl, Or.inr ⟨loc, rfl, rfl⟩⟩

/-- A directory is put where nothing is. -/
theorem maintains_makeDirectory
    (h : ∀ fs loc, I fs → fs.resolve false here (withoutSlashes path) = .ok loc →
      fs.at? loc = none → I (fs.put loc .directory)) :
    Maintains I (makeDirectory here path) := by
  intro fs hfs
  rcases makeDirectory_cases here path fs with ⟨loc, hloc, hnone, hrun⟩ | ⟨e, hrun, -⟩
  · rw [behind_of_outcome hrun]
    exact h fs loc hfs hloc hnone
  · rw [behind_of_outcome hrun]
    exact hfs

/-- Makes a directory, unless it is there. -/
def ensureDirectory (here : Standpoint) (path : String) : Change Unit :=
  tryCatch (makeDirectory here path)
    (fun e => do if (← get).isDirectory here path then pure () else throw e)

theorem maintains_ensureDirectory (h : Maintains I (makeDirectory here path)) :
    Maintains I (ensureDirectory here path) := by
  refine h.tryCatch (fun e => maintains_get_bind (fun fs hfs => ?_))
  split <;> exact hfs

/-- What a path lies below has to be made. -/
def IsLacking (fs : FileSystem) (here : Standpoint) (path : String) : Prop :=
  (splitPath path).1 ≠ "" ∧ (splitPath path).2 ≠ "" ∧ fs.exists? here (splitPath path).1 = false

/-- A failure can be passed over: something is there already. -/
def IsTolerable (result : Except FileError Unit) : Prop :=
  ∀ e, result = .error e → e.cause = .alreadyThere

/-- All that making directories can do: first what the path lies below, if that is lacking, and then
    the last one, which is not named by a dot. -/
theorem makeDirectoriesUpTo_cases {result : Except FileError Unit}
    (h : outcome (makeDirectoriesUpTo here (fuel + 1) path) fs = (result, fs')) :
    (¬ IsLacking fs here path ∧ outcome (ensureDirectory here path) fs = (result, fs')) ∨
    (IsLacking fs here path ∧ ∃ above mid,
      outcome (makeDirectoriesUpTo here fuel (splitPath path).1) fs = (above, mid) ∧
      ((¬ IsTolerable above ∧ result = above ∧ fs' = mid) ∨
        (IsTolerable above ∧ (((splitPath path).2 = "." ∧ result = .ok () ∧ fs' = mid) ∨
          ((splitPath path).2 ≠ "." ∧
            outcome (ensureDirectory here path) mid = (result, fs')))))) := by
  unfold IsLacking
  rcases hsplit : splitPath path with ⟨head, tail⟩
  rw [makeDirectoriesUpTo, hsplit, outcome_get_bind] at h
  by_cases hlacking : (head != "" && tail != "" && !fs.exists? here head) = true
  · have hsaid : head ≠ "" ∧ tail ≠ "" ∧ fs.exists? here head = false := by
      simpa [and_assoc] using hlacking
    refine Or.inr ⟨hsaid, ?_⟩
    simp only [hlacking, if_true, Bool.true_and] at h
    rw [outcome_bind, outcome_tryCatch] at h
    rcases habove : outcome (makeDirectoriesUpTo here fuel head) fs with ⟨above, mid⟩
    refine ⟨above, mid, rfl, ?_⟩
    -- Once what the path lies below is there, a dot names nothing else.
    have hrest : ∀ {c : Change Unit}, outcome (if tail == "." then pure () else c) mid =
        (result, fs') →
        (tail = "." ∧ result = .ok () ∧ fs' = mid) ∨
          (tail ≠ "." ∧ outcome c mid = (result, fs')) := by
      intro c hc
      split at hc
      · rename_i hdot
        obtain ⟨hresult, hmid⟩ := Prod.mk.inj hc
        exact Or.inl ⟨by simpa using hdot, hresult.symm, hmid.symm⟩
      · rename_i hdot
        exact Or.inr ⟨by simpa using hdot, hc⟩
    rw [habove] at h
    rcases above with e | u
    · simp only at h
      by_cases hthere : e.cause = .alreadyThere
      · rw [if_pos hthere] at h
        refine Or.inr ⟨fun e' he' => ?_, hrest h⟩
        obtain rfl := Except.error.inj he'
        exact hthere
      · rw [if_neg hthere] at h
        obtain ⟨hresult, hmid⟩ := Prod.mk.inj h
        exact Or.inl ⟨fun htolerable => hthere (htolerable e rfl), hresult.symm, hmid.symm⟩
    · exact Or.inr ⟨fun e he => by simp at he, hrest h⟩
  · have hsaid : ¬ (head ≠ "" ∧ tail ≠ "" ∧ fs.exists? here head = false) := by
      simpa [and_assoc] using hlacking
    rw [Bool.not_eq_true] at hlacking
    simp only [hlacking, Bool.false_and] at h
    exact Or.inl ⟨hsaid, h⟩

/-- Directories are made one after another, and some that are there already are passed over: what
    holds of a path has to hold of what it lies below, as far as that is lacking. -/
theorem maintains_makeDirectoriesUpTo {Q : String → Prop}
    (hhead : ∀ fs path, I fs → Q path → IsLacking fs here path → Q (splitPath path).1)
    (hmake : ∀ path, Q path → Maintains I (makeDirectory here path))
    (fuel : Nat) (path : String) (hpath : Q path) :
    Maintains I (makeDirectoriesUpTo here fuel path) := by
  induction fuel generalizing path with
  | zero => exact maintains_pure ()
  | succ fuel ih =>
    intro fs hfs
    have hself := maintains_ensureDirectory (hmake path hpath)
    rcases hrun : outcome (makeDirectoriesUpTo here (fuel + 1) path) fs with ⟨result, fs'⟩
    rw [behind_of_outcome hrun]
    rcases makeDirectoriesUpTo_cases hrun with ⟨-, hmade⟩ | ⟨hlacking, above, mid, habove, hrest⟩
    · exact hself.of_outcome hfs hmade
    have hmid : I mid := (ih _ (hhead fs path hfs hpath hlacking)).of_outcome hfs habove
    rcases hrest with ⟨-, -, rfl⟩ | ⟨-, ⟨-, -, rfl⟩ | ⟨-, hmade⟩⟩
    · exact hmid
    · exact hmid
    · exact hself.of_outcome hmid hmade

/-- All that writing can do: nothing, or a file is put where no directory is. -/
theorem write_cases (here : Standpoint) (path : String) (bytes : ByteArray) (fs : FileSystem) :
    (∃ e, outcome (write here path bytes) fs = (.error e, fs)) ∨
      ∃ loc, fs.resolve true here path = .ok loc ∧ fs.at? loc ≠ some .directory ∧
        outcome (write here path bytes) fs = (.ok (), fs.put loc (.file bytes)) := by
  unfold outcome write
  rw [run_bind, run_resolved]
  rcases hpath : fs.resolve true here path with cause | loc
  · exact Or.inl ⟨_, rfl⟩
  · simp only [run_bind, run_get]
    by_cases hentry : fs.at? loc = some .directory
    · rw [hentry]
      exact Or.inl ⟨_, rfl⟩
    · refine Or.inr ⟨loc, rfl, hentry, ?_⟩
      split
      · exact absurd (by assumption) hentry
      · rfl

/-- All that copying can do: nothing, or the bytes of one file are put where the other path
    leads. -/
theorem copy_cases (here : Standpoint) (source target : String) (fs : FileSystem) :
    (∃ e, outcome (copy here source target) fs = (.error e, fs)) ∨
      ∃ bytes loc, fs.read here source = .ok bytes ∧ fs.resolve true here target = .ok loc ∧
        fs.at? loc ≠ some .directory ∧
        outcome (copy here source target) fs = (.ok (), fs.put loc (.file bytes)) := by
  unfold outcome copy
  rw [run_bind, run_get]
  simp only
  split
  · exact Or.inl ⟨_, rfl⟩
  · rcases hread : fs.read here source with e | bytes
    · exact Or.inl ⟨e, rfl⟩
    · rcases write_cases here target bytes fs with ⟨e, he⟩ | ⟨loc, hloc, hentry, hrun⟩
      · exact Or.inl ⟨e, he⟩
      · exact Or.inr ⟨bytes, loc, rfl, hloc, hentry, hrun⟩

theorem maintains_write {bytes : ByteArray}
    (h : ∀ fs loc, I fs → fs.resolve true here path = .ok loc → fs.at? loc ≠ some .directory →
      I (fs.put loc (.file bytes))) : Maintains I (write here path bytes) := by
  intro fs hfs
  rcases write_cases here path bytes fs with ⟨e, hrun⟩ | ⟨loc, hloc, hentry, hrun⟩
  · rw [behind_of_outcome hrun]
    exact hfs
  · rw [behind_of_outcome hrun]
    exact h fs loc hfs hloc hentry

theorem maintains_copy {source target : String}
    (h : ∀ fs loc bytes, I fs → fs.read here source = .ok bytes →
      fs.resolve true here target = .ok loc → fs.at? loc ≠ some .directory →
      I (fs.put loc (.file bytes))) : Maintains I (copy here source target) := by
  intro fs hfs
  rcases copy_cases here source target fs with ⟨e, hrun⟩ | ⟨bytes, loc, hread, hloc, hentry, hrun⟩
  · rw [behind_of_outcome hrun]
    exact hfs
  · rw [behind_of_outcome hrun]
    exact h fs loc bytes hfs hread hloc hentry

/-- A link is put where nothing is. -/
theorem maintains_addLink {target : String}
    (h : ∀ fs loc, I fs → fs.resolve false here path = .ok loc → fs.at? loc = none →
      I (fs.put loc (.link target))) : Maintains I (addLink here path target) := by
  refine maintains_resolved_bind (fun fs loc hfs hloc => ?_)
  rw [behind_get_bind]
  rcases hentry : fs.at? loc with _ | found
  · exact h fs loc hfs hloc hentry
  · exact hfs

end Maintains

theorem sound_makeDirectory : Sound here (makeDirectory here path) :=
  maintains_makeDirectory (fun _ _ hfs hloc hnone =>
    hfs.put (hfs.placed_of_resolve hloc) (by simp [hnone]))

theorem sound_makeDirectories : Sound here (makeDirectories here path) :=
  maintains_makeDirectoriesUpTo (Q := fun _ => True) (fun _ _ _ _ _ => trivial)
    (fun _ _ => sound_makeDirectory) (path.length + 1) path trivial

theorem sound_write {bytes : ByteArray} : Sound here (write here path bytes) :=
  maintains_write (fun _ _ hfs hloc hentry => hfs.put (hfs.placed_of_resolve hloc) hentry)

theorem sound_copy {source target : String} : Sound here (copy here source target) :=
  maintains_copy (fun _ _ _ hfs _ hloc hentry => hfs.put (hfs.placed_of_resolve hloc) hentry)

theorem sound_addLink {target : String} : Sound here (addLink here path target) :=
  maintains_addLink (fun _ _ hfs hloc hnone =>
    hfs.put (hfs.placed_of_resolve hloc) (by simp [hnone]))

/-- A removal takes away what lies at or below the location that it tells. -/
theorem eq_erase_of_remove (hok : (remove here path).run.run fs = (.ok loc, fs')) :
    fs' = fs.erase loc := by
  unfold remove at hok
  rw [run_bind, run_resolved] at hok
  rcases hpath : fs.resolve false here path with cause | l
  · rw [hpath] at hok
    exact absurd (Prod.mk.inj hok).1 (by simp)
  · rw [hpath] at hok
    simp only [run_bind, run_get] at hok
    rcases hentry : fs.at? l with _ | found
    · rw [hentry] at hok
      exact absurd (Prod.mk.inj hok).1 (by simp)
    · rw [hentry] at hok
      obtain ⟨hl, rfl⟩ := Prod.mk.inj hok
      obtain rfl := Except.ok.inj hl
      rfl

/-- A removal keeps a well-formed file system, for one who stands where that leaves one. -/
theorem Stands.remove (h : Stands fs here)
    (hok : (remove here path).run.run fs = (.ok loc, fs')) : Stands fs' (here.without loc) := by
  rw [eq_erase_of_remove hok]
  exact h.erase

/-! ### What can be reached -/

/-- A file system that changes lead to, with the place where one stands behind them. -/
inductive Reached : FileSystem → Standpoint → Prop where
  | empty : Reached empty (standing [])
  | makeDirectories {fs : FileSystem} {here : Standpoint} (path : String)
      (h : Reached fs here) : Reached (behind (makeDirectories here path) fs) here
  | write {fs : FileSystem} {here : Standpoint} (path : String) (bytes : ByteArray)
      (h : Reached fs here) : Reached (behind (write here path bytes) fs) here
  | copy {fs : FileSystem} {here : Standpoint} (source target : String)
      (h : Reached fs here) : Reached (behind (copy here source target) fs) here
  | addLink {fs : FileSystem} {here : Standpoint} (path target : String)
      (h : Reached fs here) : Reached (behind (addLink here path target) fs) here
  | remove {fs fs' : FileSystem} {here : Standpoint} {loc : Location} (path : String)
      (h : Reached fs here) (hok : (remove here path).run.run fs = (.ok loc, fs')) :
      Reached fs' (here.without loc)
  /-- One goes to a directory. -/
  | move {fs : FileSystem} {here : Standpoint} {loc : Location} (path : String)
      (h : Reached fs here) (hfind : fs.find? here path = .ok (loc, .directory)) :
      Reached fs (standing loc)

/-- **Changes keep file systems well-formed.** -/
theorem Reached.stands (h : Reached fs here) : Stands fs here := by
  induction h with
  | empty =>
    have hnone : FileSystem.empty.WellFormed :=
      ⟨by simp [FileSystem.empty], by simp [FileSystem.empty]⟩
    exact ⟨hnone, by simp [standing], rfl⟩
  | makeDirectories path _ ih => exact sound_makeDirectories _ ih
  | write path bytes _ ih => exact sound_write _ ih
  | copy source target _ ih => exact sound_copy _ ih
  | addLink path target _ ih => exact sound_addLink _ ih
  | remove path _ hok ih => exact ih.remove hok
  | move path _ hfind ih =>
    -- Where one goes to, nothing has been removed.
    obtain ⟨hresolve, hloc⟩ := find?_eq_ok_iff.mp hfind
    refine ⟨ih.files, (ih.placed_of_resolve hresolve).names, ?_⟩
    rw [leftOf, standing]
    simpa using hloc

end PackageAtlas.FileSystem
