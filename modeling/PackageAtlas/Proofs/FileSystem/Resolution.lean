import PackageAtlas.FileSystem.Basic
import PackageAtlas.Proofs.Path.Pieces

namespace PackageAtlas.FileSystem

open PackageAtlas.Path (IsName isIdle pieces)

/-!
# Where paths lead

The way that the pieces of a path lead through directories and links, apart from any limit on the
number of links:

* `IsStep`: pieces that lead to an entry of a directory;
* `resolveFrom_step`: one step of a path; `resolveFrom_directory`, `resolveFrom_link` and others:
  where it leads, by what is there; `way_induction`: induction over such steps;
* `Follows`: the rules by which pieces lead somewhere; `resolveFrom_eq_ok_iff`: there are no others;
* `Enters`: pieces lead from one directory to another, through a number of links;
* `Enters.resolveFrom_append`: what is entered need not be entered again;
* `exists_enters`: whatever lies behind a directory is found by entering it first;
* `Enters.unique`: pieces lead to one directory only, through the same number of links.
-/

variable {fs : FileSystem} {follow : Bool} {links : Nat} {dir loc : Location} {piece : String}
  {ps qs rest : List String}

/-! ### One step -/

/-- A piece that leads to an entry of a directory, if there is one. -/
def IsStep (piece : String) : Prop :=
  isIdle piece = false ∧ piece ≠ ".." ∧ piece.utf8ByteSize ≤ nameLimit

/-- A piece that is too long to be a name. -/
def IsOverlong (piece : String) : Prop :=
  isIdle piece = false ∧ piece ≠ ".." ∧ nameLimit < piece.utf8ByteSize

theorem piece_cases (piece : String) :
    isIdle piece = true ∨ piece = ".." ∨ IsOverlong piece ∨ IsStep piece := by
  by_cases hidle : isIdle piece = true
  · exact Or.inl hidle
  rw [Bool.not_eq_true] at hidle
  by_cases hup : piece = ".."
  · exact Or.inr (Or.inl hup)
  rcases Nat.lt_or_ge nameLimit piece.utf8ByteSize with hlong | hsize
  · exact Or.inr (Or.inr (Or.inl ⟨hidle, hup, hlong⟩))
  · exact Or.inr (Or.inr (Or.inr ⟨hidle, hup, hsize⟩))

/-- What lies behind a link, if as many links may be followed as before it. -/
def behindLink (fs : FileSystem) (follow : Bool) :
    Nat → Location → List String → Except FileCause Location
  | 0 => fun _ _ => .error .tooManyLinks
  | links + 1 => fs.resolveFrom follow links

theorem resolveFrom_eq_resolveWith (fs : FileSystem) (follow : Bool) (links : Nat) :
    fs.resolveFrom follow links = fs.resolveWith follow (fs.behindLink follow links) := by
  cases links <;> rfl

@[simp] theorem resolveFrom_nil : fs.resolveFrom follow links dir [] = .ok dir := by
  cases links <;> rfl

theorem resolveFrom_idle (h : isIdle piece = true) :
    fs.resolveFrom follow links dir (piece :: rest) = fs.resolveFrom follow links dir rest := by
  rw [resolveFrom_eq_resolveWith, resolveWith, if_pos h]

theorem resolveFrom_up :
    fs.resolveFrom follow links dir (".." :: rest) =
      fs.resolveFrom follow links dir.dropLast rest := by
  have hidle : ¬ isIdle ".." = true := by decide
  rw [resolveFrom_eq_resolveWith, resolveWith, if_neg hidle, if_pos (by rfl)]

theorem resolveFrom_long (h : IsOverlong piece) :
    fs.resolveFrom follow links dir (piece :: rest) = .error .nameTooLong := by
  obtain ⟨hidle, hup, hlong⟩ := h
  simp [resolveFrom_eq_resolveWith, resolveWith, hidle, hup, hlong]

section Step

variable (h : IsStep piece)

include h

/-- A step leads on from the entry of the directory, whatever it is. -/
theorem resolveFrom_step :
    fs.resolveFrom follow links dir (piece :: rest) =
      match fs.at? (dir ++ [piece]) with
      | none => if rest.isEmpty then .ok (dir ++ [piece]) else .error .missing
      | some .directory => fs.resolveFrom follow links (dir ++ [piece]) rest
      | some (.file _) => if rest.isEmpty then .ok (dir ++ [piece]) else .error .notDirectory
      | some (.link target) =>
        if rest.isEmpty && !follow then .ok (dir ++ [piece])
        else fs.behindLink follow links (targetBase dir target) (pieces target ++ rest) := by
  obtain ⟨hidle, hup, hsize⟩ := h
  have hnotIdle : ¬ isIdle piece = true := by simp [hidle]
  have hnotUp : ¬ (piece == "..") = true := by simpa using hup
  rw [resolveFrom_eq_resolveWith]
  exact (if_neg hnotIdle).trans ((if_neg hnotUp).trans (if_neg (Nat.not_lt.mpr hsize)))

theorem resolveFrom_missing (hloc : fs.at? (dir ++ [piece]) = none) :
    fs.resolveFrom follow links dir (piece :: rest) =
      if rest.isEmpty then .ok (dir ++ [piece]) else .error .missing := by
  rw [resolveFrom_step h, hloc]

theorem resolveFrom_file {bytes : ByteArray} (hloc : fs.at? (dir ++ [piece]) = some (.file bytes)) :
    fs.resolveFrom follow links dir (piece :: rest) =
      if rest.isEmpty then .ok (dir ++ [piece]) else .error .notDirectory := by
  rw [resolveFrom_step h, hloc]

theorem resolveFrom_directory (hloc : fs.at? (dir ++ [piece]) = some .directory) :
    fs.resolveFrom follow links dir (piece :: rest) =
      fs.resolveFrom follow links (dir ++ [piece]) rest := by
  rw [resolveFrom_step h, hloc]

theorem resolveFrom_link {target : String} (hloc : fs.at? (dir ++ [piece]) = some (.link target)) :
    fs.resolveFrom true (links + 1) dir (piece :: rest) =
      fs.resolveFrom true links (targetBase dir target) (pieces target ++ rest) := by
  rw [resolveFrom_step h, hloc]
  exact if_neg (by simp)

theorem resolveFrom_link_zero {target : String}
    (hloc : fs.at? (dir ++ [piece]) = some (.link target)) :
    fs.resolveFrom true 0 dir (piece :: rest) = .error .tooManyLinks := by
  rw [resolveFrom_step h, hloc]
  exact if_neg (by simp)

end Step

/-- **Induction along a way.** Behind a link there are fewer links to follow, but more pieces. -/
@[elab_as_elim]
theorem way_induction (fs : FileSystem) {motive : Nat → Location → List String → Prop}
    (nil : ∀ {links : Nat} {dir : Location}, motive links dir [])
    (idle : ∀ {links : Nat} {dir : Location} {piece : String} {rest : List String},
      isIdle piece = true → motive links dir rest → motive links dir (piece :: rest))
    (up : ∀ {links : Nat} {dir : Location} {rest : List String},
      motive links dir.dropLast rest → motive links dir (".." :: rest))
    (long : ∀ {links : Nat} {dir : Location} {piece : String} {rest : List String},
      IsOverlong piece → motive links dir (piece :: rest))
    (missing : ∀ {links : Nat} {dir : Location} {piece : String} {rest : List String},
      IsStep piece → fs.at? (dir ++ [piece]) = none → motive links dir (piece :: rest))
    (directory : ∀ {links : Nat} {dir : Location} {piece : String} {rest : List String},
      IsStep piece → fs.at? (dir ++ [piece]) = some .directory →
      motive links (dir ++ [piece]) rest → motive links dir (piece :: rest))
    (file : ∀ {links : Nat} {dir : Location} {piece : String} {rest : List String}
      {bytes : ByteArray}, IsStep piece → fs.at? (dir ++ [piece]) = some (.file bytes) →
      motive links dir (piece :: rest))
    (lastLink : ∀ {dir : Location} {piece target : String} {rest : List String},
      IsStep piece → fs.at? (dir ++ [piece]) = some (.link target) →
      motive 0 dir (piece :: rest))
    (link : ∀ {links : Nat} {dir : Location} {piece target : String} {rest : List String},
      IsStep piece → fs.at? (dir ++ [piece]) = some (.link target) →
      motive links (targetBase dir target) (pieces target ++ rest) →
      motive (links + 1) dir (piece :: rest))
    (links : Nat) (dir : Location) (ps : List String) : motive links dir ps := by
  -- The links outside, the pieces inside.
  induction links using Nat.strongRecOn generalizing dir ps with
  | ind links ihlinks =>
  induction ps generalizing dir with
  | nil => exact nil
  | cons piece rest ihps =>
    obtain hidle | rfl | hlong | hstep := piece_cases piece
    · exact idle hidle (ihps dir)
    · exact up (ihps dir.dropLast)
    · exact long hlong
    rcases hentry : fs.at? (dir ++ [piece]) with _ | _ | bytes | target
    · exact missing hstep hentry
    · exact directory hstep hentry (ihps _)
    · exact file hstep hentry
    · cases links with
      | zero => exact lastLink hstep hentry
      | succ links => exact link hstep hentry (ihlinks links (Nat.lt_succ_self _) _ _)

/-! ### Pieces that lead somewhere -/

/-- What a way can end with, apart from the directory that it has come to: nothing, a file, or a
    link that is not to be followed. -/
def CanEnd (fs : FileSystem) (follow : Bool) (loc : Location) : Prop :=
  fs.at? loc ≠ some .directory ∧ ∀ target, fs.at? loc = some (.link target) → follow = false

/-- The rules by which pieces lead from a directory to a location, where no more than a number of
    links are followed. -/
inductive Follows (fs : FileSystem) (follow : Bool) :
    Nat → Location → List String → Location → Prop where
  | here (links : Nat) (dir : Location) : Follows fs follow links dir [] dir
  | idle {links : Nat} {dir loc : Location} {piece : String} {rest : List String}
      (h : isIdle piece = true) (hrest : Follows fs follow links dir rest loc) :
      Follows fs follow links dir (piece :: rest) loc
  | up {links : Nat} {dir loc : Location} {rest : List String}
      (hrest : Follows fs follow links dir.dropLast rest loc) :
      Follows fs follow links dir (".." :: rest) loc
  | last {links : Nat} {dir : Location} {piece : String} (h : IsStep piece)
      (hend : CanEnd fs follow (dir ++ [piece])) :
      Follows fs follow links dir [piece] (dir ++ [piece])
  | directory {links : Nat} {dir loc : Location} {piece : String} {rest : List String}
      (h : IsStep piece) (hentry : fs.at? (dir ++ [piece]) = some .directory)
      (hrest : Follows fs follow links (dir ++ [piece]) rest loc) :
      Follows fs follow links dir (piece :: rest) loc
  /-- A link is followed by the pieces of its target, if it may be. -/
  | link {links : Nat} {dir loc : Location} {piece target : String} {rest : List String}
      (h : IsStep piece) (hentry : fs.at? (dir ++ [piece]) = some (.link target))
      (hfollow : rest = [] → follow = true)
      (hrest : Follows fs follow links (targetBase dir target) (pieces target ++ rest) loc) :
      Follows fs follow (links + 1) dir (piece :: rest) loc

theorem Follows.resolveFrom_eq (h : Follows fs follow links dir ps loc) :
    fs.resolveFrom follow links dir ps = .ok loc := by
  induction h with
  | here => exact resolveFrom_nil
  | idle hidle _ ih =>
    rw [resolveFrom_idle hidle]
    exact ih
  | up _ ih =>
    rw [resolveFrom_up]
    exact ih
  | @last links dir piece hstep hend =>
    rw [resolveFrom_step hstep]
    rcases hentry : fs.at? (dir ++ [piece]) with _ | _ | bytes | target
    · rfl
    · exact absurd hentry hend.1
    · rfl
    · simp [hend.2 target hentry]
  | directory hstep hentry _ ih =>
    rw [resolveFrom_directory hstep hentry]
    exact ih
  | link hstep hentry hfollow _ ih =>
    rw [resolveFrom_step hstep, hentry]
    refine (if_neg ?_).trans ih
    rw [Bool.and_eq_true, List.isEmpty_iff, Bool.not_eq_true']
    -- The rules follow a link in the last place only if links are to be followed.
    rintro ⟨hnil, hno⟩
    rw [hfollow hnil] at hno
    simp at hno

theorem follows_of_resolveFrom (h : fs.resolveFrom follow links dir ps = .ok loc) :
    Follows fs follow links dir ps loc := by
  -- What stands in the last place is the end of the way, whatever else it is.
  have hlast : ∀ {links : Nat} {dir : Location} {piece : String} {rest : List String},
      IsStep piece → CanEnd fs follow (dir ++ [piece]) → rest.isEmpty = true →
      (Except.ok (dir ++ [piece]) : Except FileCause Location) = .ok loc →
      Follows fs follow links dir (piece :: rest) loc := by
    intro links dir piece rest hstep hend hrest heq
    rw [List.isEmpty_iff.mp hrest, ← Except.ok.inj heq]
    exact .last hstep hend
  induction links, dir, ps using way_induction fs with
  | nil =>
    rw [← Except.ok.inj (resolveFrom_nil.symm.trans h)]
    exact .here _ _
  | idle hidle ih => exact .idle hidle (ih (resolveFrom_idle hidle ▸ h))
  | up ih => exact .up (ih (resolveFrom_up ▸ h))
  | long hlong =>
    rw [resolveFrom_long hlong] at h
    simp at h
  | missing hstep hentry =>
    rw [resolveFrom_missing hstep hentry] at h
    split at h
    · exact hlast hstep (by simp [CanEnd, hentry]) ‹_› h
    · simp at h
  | directory hstep hentry ih =>
    exact .directory hstep hentry (ih (resolveFrom_directory hstep hentry ▸ h))
  | file hstep hentry =>
    rw [resolveFrom_file hstep hentry] at h
    split at h
    · exact hlast hstep (by simp [CanEnd, hentry]) ‹_› h
    · simp at h
  | lastLink hstep hentry =>
    rw [resolveFrom_step hstep, hentry] at h
    simp only at h
    split at h
    · rename_i hstays
      rw [Bool.and_eq_true, Bool.not_eq_true'] at hstays
      exact hlast hstep (by simp [CanEnd, hentry, hstays.2]) hstays.1 h
    · simp [behindLink] at h
  | link hstep hentry ih =>
    rw [resolveFrom_step hstep, hentry] at h
    simp only at h
    split at h
    · rename_i hstays
      rw [Bool.and_eq_true, Bool.not_eq_true'] at hstays
      exact hlast hstep (by simp [CanEnd, hentry, hstays.2]) hstays.1 h
    · rename_i hgoes
      exact .link hstep hentry (by rintro rfl; simpa using hgoes) (ih h)

/-- **Rules of a way.** Pieces lead to a location exactly if the rules say so. -/
theorem resolveFrom_eq_ok_iff :
    fs.resolveFrom follow links dir ps = .ok loc ↔ Follows fs follow links dir ps loc :=
  ⟨follows_of_resolveFrom, Follows.resolveFrom_eq⟩

/-- The target of a link is taken from the root or from the directory of the link on. -/
theorem isName_of_mem_targetBase {target : String} (hdir : ∀ name ∈ dir, IsName name) :
    ∀ name ∈ targetBase dir target, IsName name := by
  unfold targetBase
  split
  · simp
  · exact hdir

/-! ### Ways through directories -/

/-- Pieces lead from the directory `dir` to the directory `loc`, through `n` links. -/
inductive Enters (fs : FileSystem) : Location → List String → Location → Nat → Prop where
  | here (dir : Location) : Enters fs dir [] dir 0
  | idle {dir loc : Location} {piece : String} {rest : List String} {n : Nat}
      (h : isIdle piece = true) (hrest : Enters fs dir rest loc n) :
      Enters fs dir (piece :: rest) loc n
  | up {dir loc : Location} {rest : List String} {n : Nat}
      (hrest : Enters fs dir.dropLast rest loc n) : Enters fs dir (".." :: rest) loc n
  | directory {dir loc : Location} {piece : String} {rest : List String} {n : Nat}
      (h : IsStep piece) (hloc : fs.at? (dir ++ [piece]) = some .directory)
      (hrest : Enters fs (dir ++ [piece]) rest loc n) : Enters fs dir (piece :: rest) loc n
  /-- The target of a link leads to a directory, and the rest leads on from there. -/
  | link {dir mid loc : Location} {piece target : String} {rest : List String} {k n : Nat}
      (h : IsStep piece) (hloc : fs.at? (dir ++ [piece]) = some (.link target))
      (htarget : Enters fs (targetBase dir target) (pieces target) mid k)
      (hrest : Enters fs mid rest loc n) : Enters fs dir (piece :: rest) loc (k + n + 1)

namespace Enters

variable {n : Nat}

/-- **Entered once.** What lies behind pieces that enter a directory is what lies behind that
    directory, with as many links fewer left to follow. -/
theorem resolveFrom_append (h : Enters fs dir ps loc n) (links : Nat) (qs : List String) :
    fs.resolveFrom true (links + n) dir (ps ++ qs) = fs.resolveFrom true links loc qs := by
  induction h generalizing links qs with
  | here dir => rfl
  | idle hidle hrest ih =>
    rw [List.cons_append, resolveFrom_idle hidle]
    exact ih links qs
  | up hrest ih =>
    rw [List.cons_append, resolveFrom_up]
    exact ih links qs
  | directory hstep hloc hrest ih =>
    rw [List.cons_append, resolveFrom_directory hstep hloc]
    exact ih links qs
  | @link dir mid loc piece target rest k n hstep hloc htarget hrest ihtarget ihrest =>
    -- Some of the links are those in the target, and the rest are left behind it.
    have hcount : links + (k + n + 1) = links + n + k + 1 := by omega
    rw [hcount, List.cons_append, resolveFrom_link hstep hloc, ihtarget (links + n) (rest ++ qs)]
    exact ihrest links qs

/-- A way that passes through a directory is a way to it and a way on. -/
theorem split (h : Enters fs dir (ps ++ qs) loc n) :
    ∃ mid k m, Enters fs dir ps mid k ∧ Enters fs mid qs loc m ∧ k + m = n := by
  induction ps generalizing dir n with
  | nil => exact ⟨dir, 0, n, .here dir, h, Nat.zero_add n⟩
  | cons piece ps ih =>
    rw [List.cons_append] at h
    cases h with
    | idle hidle hrest =>
      obtain ⟨mid, k, m, hmid, hon, hcount⟩ := ih hrest
      exact ⟨mid, k, m, .idle hidle hmid, hon, hcount⟩
    | up hrest =>
      obtain ⟨mid, k, m, hmid, hon, hcount⟩ := ih hrest
      exact ⟨mid, k, m, .up hmid, hon, hcount⟩
    | directory hstep hloc hrest =>
      obtain ⟨mid, k, m, hmid, hon, hcount⟩ := ih hrest
      exact ⟨mid, k, m, .directory hstep hloc hmid, hon, hcount⟩
    | @link _ far _ _ target _ j i hstep hloc htarget hrest =>
      obtain ⟨mid, k, m, hmid, hon, hcount⟩ := ih hrest
      exact ⟨mid, j + k + 1, m, .link hstep hloc htarget hmid, hon, by omega⟩

/-- **One way.** Pieces lead to one directory only, through the same number of links. -/
theorem unique {loc' : Location} {n' : Nat} (h : Enters fs dir ps loc n)
    (h' : Enters fs dir ps loc' n') : loc = loc' ∧ n = n' := by
  -- A piece is idle, leads up, or leads to one entry, so both ways begin with the same step.
  induction h generalizing loc' n' with
  | here dir =>
    cases h'
    exact ⟨rfl, rfl⟩
  | idle hidle hrest ih =>
    cases h' with
    | idle _ hrest' => exact ih hrest'
    | up hrest' => exact absurd hidle (by decide)
    | directory hstep _ _ => rw [hstep.1] at hidle; simp at hidle
    | link hstep _ _ _ => rw [hstep.1] at hidle; simp at hidle
  | up hrest ih =>
    cases h' with
    | idle hidle _ => exact absurd hidle (by decide)
    | up hrest' => exact ih hrest'
    | directory hstep _ _ => exact absurd rfl hstep.2.1
    | link hstep _ _ _ => exact absurd rfl hstep.2.1
  | directory hstep hloc hrest ih =>
    cases h' with
    | idle hidle _ => rw [hstep.1] at hidle; simp at hidle
    | up hrest' => exact absurd rfl hstep.2.1
    | directory _ _ hrest' => exact ih hrest'
    | link _ hloc' _ _ => rw [hloc] at hloc'; simp at hloc'
  | link hstep hloc htarget hrest ihtarget ihrest =>
    cases h' with
    | idle hidle _ => rw [hstep.1] at hidle; simp at hidle
    | up hrest' => exact absurd rfl hstep.2.1
    | directory _ hloc' _ => rw [hloc] at hloc'; simp at hloc'
    | link _ hloc' htarget' hrest' =>
      rw [hloc] at hloc'
      obtain rfl := Entry.link.inj (Option.some.inj hloc')
      obtain ⟨rfl, rfl⟩ := ihtarget htarget'
      obtain ⟨rfl, rfl⟩ := ihrest hrest'
      exact ⟨rfl, rfl⟩

/-- Only names are found on the way. -/
theorem isName_of_mem (h : Enters fs dir ps loc n) (hdir : ∀ name ∈ dir, IsName name)
    (hps : ∀ p ∈ ps, '/' ∉ p.toList) : ∀ name ∈ loc, IsName name := by
  have htail : ∀ {piece : String} {rest : List String}, (∀ p ∈ piece :: rest, '/' ∉ p.toList) →
      ∀ p ∈ rest, '/' ∉ p.toList := fun hps p hp => hps p (List.mem_cons_of_mem _ hp)
  induction h with
  | here dir => exact hdir
  | idle _ _ ih => exact ih hdir (htail hps)
  | up _ ih => exact ih (fun name hname => hdir name (List.dropLast_subset _ hname)) (htail hps)
  | directory h _ _ ih =>
    have hpiece := hps _ List.mem_cons_self
    exact ih (Path.isName_of_mem_concat hdir ⟨h.1, h.2.1, hpiece⟩) (htail hps)
  | link _ _ _ _ ihtarget ihrest =>
    exact ihrest (ihtarget (isName_of_mem_targetBase hdir)
      (fun p hp => Path.not_mem_of_mem_pieces hp)) (htail hps)

end Enters

/-! ### What lies behind directories -/

/-- A way to what lies behind a directory enters the directory first. -/
theorem Follows.exists_enters {whole : List String} {l : Location}
    (h : Follows fs follow links dir whole l) (hwhole : whole = ps ++ qs)
    (hend : qs ≠ [] ∨ fs.at? l = some .directory) :
    ∃ loc n left, Enters fs dir ps loc n ∧ links = left + n ∧ Follows fs follow left loc qs l := by
  induction h generalizing ps with
  | here links dir =>
    obtain ⟨rfl, rfl⟩ := List.append_eq_nil_iff.mp hwhole.symm
    exact ⟨dir, 0, links, .here dir, rfl, .here links dir⟩
  | idle hidle hrest ih =>
    obtain ⟨rfl, rfl⟩ | ⟨ps, rfl, rfl⟩ := List.cons_eq_append_iff.mp hwhole
    · exact ⟨_, 0, _, .here _, rfl, .idle hidle hrest⟩
    · obtain ⟨loc, n, left, hloc, hlinks, hleft⟩ := ih rfl hend
      exact ⟨loc, n, left, .idle hidle hloc, hlinks, hleft⟩
  | up hrest ih =>
    obtain ⟨rfl, rfl⟩ | ⟨ps, rfl, rfl⟩ := List.cons_eq_append_iff.mp hwhole
    · exact ⟨_, 0, _, .here _, rfl, .up hrest⟩
    · obtain ⟨loc, n, left, hloc, hlinks, hleft⟩ := ih rfl hend
      exact ⟨loc, n, left, .up hloc, hlinks, hleft⟩
  | last hstep hcan =>
    obtain ⟨rfl, rfl⟩ | ⟨ps, rfl, hnil⟩ := List.cons_eq_append_iff.mp hwhole
    · exact ⟨_, 0, _, .here _, rfl, .last hstep hcan⟩
    · -- Nothing is left behind the piece, so it would have to lead to a directory.
      obtain ⟨rfl, rfl⟩ := List.append_eq_nil_iff.mp hnil.symm
      exact absurd (hend.resolve_left (by simp)) hcan.1
  | directory hstep hentry hrest ih =>
    obtain ⟨rfl, rfl⟩ | ⟨ps, rfl, rfl⟩ := List.cons_eq_append_iff.mp hwhole
    · exact ⟨_, 0, _, .here _, rfl, .directory hstep hentry hrest⟩
    · obtain ⟨loc, n, left, hloc, hlinks, hleft⟩ := ih rfl hend
      exact ⟨loc, n, left, .directory hstep hentry hloc, hlinks, hleft⟩
  | link hstep hentry hfollow hrest ih =>
    obtain ⟨rfl, rfl⟩ | ⟨ps, rfl, rfl⟩ := List.cons_eq_append_iff.mp hwhole
    · exact ⟨_, 0, _, .here _, rfl, .link hstep hentry hfollow hrest⟩
    · -- The target and the rest are entered together; the way is cut between them.
      obtain ⟨loc, n, left, hloc, hlinks, hleft⟩ := ih (List.append_assoc _ _ _).symm hend
      obtain ⟨mid, k, m, hmid, hon, rfl⟩ := hloc.split
      exact ⟨loc, k + m + 1, left, .link hstep hentry hmid hon, by omega, hleft⟩

/-- Whatever pieces lead to behind a directory is found by entering the directory first. -/
theorem exists_enters {l : Location} (h : fs.resolveFrom follow links dir (ps ++ qs) = .ok l)
    (hend : qs ≠ [] ∨ fs.at? l = some .directory) :
    ∃ loc n left, Enters fs dir ps loc n ∧ links = left + n ∧
      fs.resolveFrom follow left loc qs = .ok l := by
  obtain ⟨loc, n, left, hloc, hlinks, hleft⟩ :=
    (follows_of_resolveFrom h).exists_enters rfl hend
  exact ⟨loc, n, left, hloc, hlinks, hleft.resolveFrom_eq⟩

/-- More links change nothing for a path that leads somewhere. -/
theorem resolveFrom_mono {l : Location} (h : fs.resolveFrom follow links dir ps = .ok l)
    (more : Nat) : fs.resolveFrom follow (links + more) dir ps = .ok l := by
  rw [resolveFrom_eq_ok_iff] at h ⊢
  induction h with
  | here => exact .here _ _
  | idle hidle _ ih => exact .idle hidle ih
  | up _ ih => exact .up ih
  | last hstep hend => exact .last hstep hend
  | directory hstep hentry _ ih => exact .directory hstep hentry ih
  | link hstep hentry hfollow _ ih =>
    rw [Nat.succ_add]
    exact .link hstep hentry hfollow ih

end PackageAtlas.FileSystem
