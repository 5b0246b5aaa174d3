import Mathlib.Data.List.Nodup
import Mathlib.Data.List.Perm.Subperm
import PackageAtlas.FileSystem.Canonical
import PackageAtlas.Proofs.FileSystem.Lookup
import PackageAtlas.Proofs.Path.Normal

namespace PackageAtlas.FileSystem

open PackageAtlas.Path (IsName isAbsolute isIdle pieces)

/-!
# Canonical paths lead to one place

A path that leads to a directory has the path of that directory as its canonical one, so paths of
one canonical path lead to one directory.

* `canonicalFrom_link` and others: one step;
* `ActiveLinks`: the links that are being followed are not met again inside of their targets;
* `Enters.canonicalFrom_eq`: where pieces enter a directory, all links can be followed;
* `canonical_of_find?`, `eq_of_canonical_eq`: the canonical paths of directories.
-/

variable {fs : FileSystem} {fuel : Nat} {active : List Location} {dir loc : Location}
  {piece : String} {rest : List String}

/-! ### One step -/

@[simp] theorem canonicalFrom_nil : fs.canonicalFrom fuel active dir [] = (dir, true) := by
  cases fuel <;> rfl

theorem canonicalFrom_idle (h : isIdle piece = true) :
    fs.canonicalFrom fuel active dir (piece :: rest) = fs.canonicalFrom fuel active dir rest := by
  cases fuel <;> (simp only [canonicalFrom]; rw [canonicalWith, if_pos h])

theorem canonicalFrom_up :
    fs.canonicalFrom fuel active dir (".." :: rest) =
      fs.canonicalFrom fuel active dir.dropLast rest := by
  have hidle : ¬ isIdle ".." = true := by decide
  cases fuel <;> (simp only [canonicalFrom]; rw [canonicalWith, if_neg hidle, if_pos (by rfl)])

theorem canonicalFrom_directory (h : IsStep piece)
    (hloc : fs.at? (dir ++ [piece]) = some .directory) :
    fs.canonicalFrom fuel active dir (piece :: rest) =
      fs.canonicalFrom fuel active (dir ++ [piece]) rest := by
  obtain ⟨hidle, hup, -⟩ := h
  cases fuel <;> simp [canonicalFrom, canonicalWith, hidle, hup, hloc]

/-- A link that is not being followed yet leads to where its target leads. -/
theorem canonicalFrom_link {target : String} {mid : Location} (h : IsStep piece)
    (hloc : fs.at? (dir ++ [piece]) = some (.link target)) (hnew : dir ++ [piece] ∉ active)
    (htarget : fs.canonicalFrom fuel ((dir ++ [piece]) :: active) (targetBase dir target)
      (pieces target) = (mid, true)) :
    fs.canonicalFrom (fuel + 1) active dir (piece :: rest) =
      fs.canonicalFrom (fuel + 1) active mid rest := by
  obtain ⟨hidle, hup, -⟩ := h
  simp [canonicalFrom, canonicalWith, hidle, hup, hloc, hnew, htarget]

/-! ### Links that are being followed -/

/-- The link at a location, with the directory it lies in and its target. -/
def LinkAt (fs : FileSystem) (loc dir : Location) (target : String) : Prop :=
  ∃ piece, loc = dir ++ [piece] ∧ fs.at? loc = some (.link target)

/-- The links that are being followed are different ones, and a way through `n` links that lies
    inside of the targets of all of them is no longer than any of the targets. -/
structure ActiveLinks (fs : FileSystem) (active : List Location) (n : Nat) : Prop where
  nodup : active.Nodup
  link : ∀ loc ∈ active, ∃ dir target, LinkAt fs loc dir target
  inside : ∀ loc ∈ active, ∀ dir target mid k, LinkAt fs loc dir target →
    Enters fs (targetBase dir target) (pieces target) mid k → n ≤ k

theorem LinkAt.eq {dir' : Location} {target target' : String} (h : LinkAt fs loc dir target)
    (h' : LinkAt fs loc dir' target') : dir = dir' ∧ target = target' := by
  obtain ⟨piece, rfl, hloc⟩ := h
  obtain ⟨piece', heq, hloc'⟩ := h'
  rw [hloc] at hloc'
  exact ⟨(List.append_inj' heq rfl).1, Entry.link.inj (Option.some.inj hloc')⟩

namespace ActiveLinks

variable {n : Nat}

theorem nil : ActiveLinks fs [] n := ⟨List.nodup_nil, by simp, by simp⟩

/-- Parts of a way are no longer than the way. -/
theorem mono {m : Nat} (h : ActiveLinks fs active n) (hm : m ≤ n) : ActiveLinks fs active m :=
  ⟨h.nodup, h.link, fun loc hloc dir target mid k hlink hway =>
    Nat.le_trans hm (h.inside loc hloc dir target mid k hlink hway)⟩

/-- A link on the way is not being followed: its target would be longer than itself. -/
theorem not_mem {target : String} {mid : Location} {k m : Nat}
    (h : ActiveLinks fs active (k + m + 1)) (hlink : LinkAt fs loc dir target)
    (htarget : Enters fs (targetBase dir target) (pieces target) mid k) : loc ∉ active := by
  intro hmem
  have := h.inside loc hmem dir target mid k hlink htarget
  omega

/-- A link can be followed as well. -/
theorem cons {target : String} {mid : Location} {k m : Nat}
    (h : ActiveLinks fs active (k + m + 1)) (hlink : LinkAt fs loc dir target)
    (htarget : Enters fs (targetBase dir target) (pieces target) mid k) :
    ActiveLinks fs (loc :: active) k := by
  refine ⟨List.nodup_cons.mpr ⟨h.not_mem hlink htarget, h.nodup⟩, ?_, ?_⟩
  · intro a ha
    rcases List.mem_cons.mp ha with rfl | ha
    · exact ⟨dir, target, hlink⟩
    · exact h.link a ha
  · intro a ha dir' target' mid' k' hlink' hway
    rcases List.mem_cons.mp ha with rfl | ha
    · -- The target of the new link itself: there is one way through it only.
      obtain ⟨rfl, rfl⟩ := hlink.eq hlink'
      exact Nat.le_of_eq (htarget.unique hway).2
    · have := h.inside a ha dir' target' mid' k' hlink' hway
      omega

/-- No more links are followed at a time than there are. -/
theorem length_le (h : ActiveLinks fs active n) : active.length ≤ fs.linkCount := by
  have hsubset : active ⊆ (fs.nodes.filter (fun e => e.2.isLink)).map Prod.fst := by
    intro loc hloc
    obtain ⟨dir, target, piece, rfl, hat⟩ := h.link loc hloc
    refine List.mem_map.mpr ⟨(dir ++ [piece], .link target), List.mem_filter.mpr ⟨?_, rfl⟩, rfl⟩
    exact mem_of_at? (by simp) hat
  have hlength := (h.nodup.subperm hsubset).length_le
  rw [List.length_map] at hlength
  exact hlength

end ActiveLinks

/-! ### Ways without circles -/

/-- **Canonical ways.** Where pieces enter a directory, no link is met while it is being followed,
    so all of them can be followed. -/
theorem Enters.canonicalFrom_eq {ps : List String} {n : Nat} (h : Enters fs dir ps loc n)
    (hactive : ActiveLinks fs active n) (hfuel : fuel + active.length = fs.linkCount + 1) :
    fs.canonicalFrom fuel active dir ps = (loc, true) := by
  induction h generalizing fuel active with
  | here dir => exact canonicalFrom_nil
  | idle hidle _ ih =>
    rw [canonicalFrom_idle hidle]
    exact ih hactive hfuel
  | up _ ih =>
    rw [canonicalFrom_up]
    exact ih hactive hfuel
  | directory hstep hloc _ ih =>
    rw [canonicalFrom_directory hstep hloc]
    exact ih hactive hfuel
  | @link dir mid loc piece target rest k n hstep hloc htarget hrest ihtarget ihrest =>
    have hlink : LinkAt fs (dir ++ [piece]) dir target := ⟨piece, rfl, hloc⟩
    have hcons := hactive.cons hlink htarget
    -- One more link is followed than before, and there is still one for each unit of fuel.
    have hlength := hcons.length_le
    rw [List.length_cons] at hlength
    obtain ⟨fuel, rfl⟩ : ∃ f, fuel = f + 1 := ⟨fuel - 1, by omega⟩
    rw [canonicalFrom_link hstep hloc (hactive.not_mem hlink htarget)
      (ihtarget hcons (by rw [List.length_cons]; omega))]
    exact ihrest (hactive.mono (by omega)) hfuel

/-! ### Canonical paths of directories -/

variable {here : Standpoint} {path : String}

theorem pathOf_injective {loc' : Location} (h : ∀ n ∈ loc, IsName n) (h' : ∀ n ∈ loc', IsName n)
    (heq : pathOf loc = pathOf loc') : loc = loc' := by
  have hnames := congrArg Path.normalNames heq
  rw [pathOf, pathOf, Path.normalNames_mark_append (Or.inl rfl) h,
    Path.normalNames_mark_append (Or.inl rfl) h'] at hnames
  exact hnames

theorem isName_of_find? (hhere : ∀ n ∈ here.location, IsName n) (hpath : Settled here path)
    (h : fs.find? here path = .ok (loc, .directory)) : ∀ n ∈ loc, IsName n := by
  obtain ⟨n, -, henters⟩ := enters_of_find? hpath h
  refine henters.isName_of_mem ?_ (fun p hp => Path.not_mem_of_mem_pieces hp)
  unfold startOf
  split
  · simp
  · exact hhere

theorem canonical_eq_ok_iff {key : String} :
    fs.canonical here path = .ok key ↔
      Char.ofNat 0 ∉ path.toList ∧ (∃ full, here.absolute path = .ok full) ∧
        key = pathOf (Path.normalPieces true
          (fs.canonicalFrom (fs.linkCount + 1) [] (startOf here path) (pieces path)).1) := by
  unfold canonical startOf
  by_cases hnull : Char.ofNat 0 ∈ path.toList
  · simp [hnull, bind, Except.bind]
  · rcases here.absolute path with e | full
    · simp [hnull, bind, Except.bind]
    · simp only [hnull, List.contains_eq_mem, decide_false, Bool.false_eq_true, if_false, bind,
        Except.bind, pure, Except.pure, Except.ok.injEq, exists_eq', not_false_eq_true, true_and]
      exact eq_comm

theorem settled_of_canonical {key : String} (h : fs.canonical here path = .ok key) :
    Settled here path := by
  obtain ⟨-, ⟨full, hfull⟩, -⟩ := canonical_eq_ok_iff.mp h
  exact settled_of_absolute hfull

/-- The canonical path of a path to a directory is the path of the directory. -/
theorem canonical_of_find? {key : String} (hhere : ∀ n ∈ here.location, IsName n)
    (hkey : fs.canonical here path = .ok key)
    (h : fs.find? here path = .ok (loc, .directory)) : key = pathOf loc := by
  have hpath := settled_of_canonical hkey
  obtain ⟨n, -, henters⟩ := enters_of_find? hpath h
  obtain ⟨-, -, rfl⟩ := canonical_eq_ok_iff.mp hkey
  rw [henters.canonicalFrom_eq ActiveLinks.nil (by simp)]
  have hnames := Path.normalPieces_replicate_append true 0 (isName_of_find? hhere hpath h)
  rw [List.replicate_zero, List.nil_append] at hnames
  rw [hnames]

/-- **One place.** Paths to directories that have the same canonical path lead to one place. -/
theorem eq_of_canonical_eq {path' key : String} {loc' : Location}
    (hhere : ∀ n ∈ here.location, IsName n)
    (hkey : fs.canonical here path = .ok key) (hkey' : fs.canonical here path' = .ok key)
    (h : fs.find? here path = .ok (loc, .directory))
    (h' : fs.find? here path' = .ok (loc', .directory)) : loc = loc' := by
  have hpath := settled_of_canonical hkey
  have hpath' := settled_of_canonical hkey'
  apply pathOf_injective (isName_of_find? hhere hpath h) (isName_of_find? hhere hpath' h')
  rw [← canonical_of_find? hhere hkey h, ← canonical_of_find? hhere hkey' h']

end PackageAtlas.FileSystem
