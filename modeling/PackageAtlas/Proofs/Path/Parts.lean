import Mathlib.Data.List.Induction
import PackageAtlas.FileSystem.Change
import PackageAtlas.Proofs.Path.Normal

namespace PackageAtlas.Path

/-!
# The parts of paths

The parts of a path are its pieces that are not idle. They do not depend on slashes that stand
together or at the end, and cutting a path cuts its parts.

* `telling`: the pieces that are not idle; `parts` are those of a text;
* `parts_join_ofNames`: names below a path are added to its parts;
* `parts_withoutSlashes`, `isAbsolute_withoutSlashes`: slashes at the end;
* `parts_split`, `parts_splitPath`: a path before its last piece, and that piece;
* `isAbsolute_splitPath`: it starts as the path does.
-/

variable {text dir : String} {ps qs ns : List String}

/-- The pieces that are not idle. -/
def telling (ps : List String) : List String := ps.filter (fun p => !isIdle p)

theorem parts_eq_telling (text : String) : parts text = telling (pieces text) := rfl

theorem telling_append (ps qs : List String) : telling (ps ++ qs) = telling ps ++ telling qs :=
  List.filter_append ..

@[simp] theorem telling_nil : telling [] = [] := rfl

theorem telling_cons_of_idle {piece : String} (h : isIdle piece = true) (ps : List String) :
    telling (piece :: ps) = telling ps :=
  List.filter_cons_of_neg (by simp [h])

theorem telling_cons {piece : String} (h : isIdle piece = false) (ps : List String) :
    telling (piece :: ps) = piece :: telling ps :=
  List.filter_cons_of_pos (by simp [h])

theorem telling_eq_self (h : ∀ p ∈ ps, isIdle p = false) : telling ps = ps :=
  List.filter_eq_self.mpr (fun p hp => by simp [h p hp])

theorem isIdle_of_mem_telling {piece : String} (h : piece ∈ telling ps) : isIdle piece = false := by
  simpa using (List.mem_filter.mp h).2

/-! ### Slashes -/

theorem parts_append_slash (a b : String) : parts (a ++ "/" ++ b) = parts a ++ parts b := by
  rw [parts_eq_telling, pieces_append_slash, telling_append]
  rfl

@[simp] theorem parts_empty : parts "" = [] := by decide

/-- Names below a path are added to its parts. -/
theorem parts_join_ofNames (hdir : dir ≠ "") (hne : ns ≠ []) (hns : ∀ n ∈ ns, IsName n) :
    parts (join dir (ofNames ns)) = parts dir ++ ns := by
  have hself : telling (pieces (ofNames ns)) = ns := by
    rw [pieces_ofNames hne (fun n hn => (hns n hn).2.2)]
    exact telling_eq_self (fun n hn => (hns n hn).1)
  obtain ⟨front, hpieces, hfront⟩ := pieces_join hdir (isAbsolute_ofNames hns)
  rw [parts_eq_telling, hpieces, telling_append, hself, parts_eq_telling]
  rcases hfront with hfront | hfront
  · rw [hfront]
  · rw [hfront, telling_append, telling_cons_of_idle (by decide), telling_nil, List.append_nil]

theorem dropSlashes_concat_slash (cs : List Char) : dropSlashes (cs ++ ['/']) = dropSlashes cs := by
  simp [dropSlashes]

theorem dropSlashes_concat_of_ne {cs : List Char} {c : Char} (h : c ≠ '/') :
    dropSlashes (cs ++ [c]) = cs ++ [c] := by
  simp [dropSlashes, h]

theorem parts_dropSlashes (cs : List Char) :
    parts (String.ofList (dropSlashes cs)) = parts (String.ofList cs) := by
  induction cs using List.reverseRecOn with
  | nil => rfl
  | append_singleton front c ih =>
    by_cases hc : c = '/'
    · -- A slash at the end adds an empty piece, which is idle.
      subst hc
      have htext : String.ofList (front ++ ['/']) = String.ofList front ++ "/" ++ "" := by
        rw [← String.toList_inj]
        simp
      rw [dropSlashes_concat_slash, ih, htext, parts_append_slash, parts_empty, List.append_nil]
    · rw [dropSlashes_concat_of_ne hc]

/-- What is left of a text without the slashes at its end is its beginning. -/
theorem dropSlashes_isPrefix (cs : List Char) : dropSlashes cs <+: cs := by
  have h : cs.reverse.dropWhile (· == '/') <:+ cs.reverse := List.dropWhile_suffix _
  have hprefix := List.reverse_prefix.mpr h
  rwa [List.reverse_reverse] at hprefix

theorem isAbsolute_of_isPrefix {cs ds : List Char} (h : cs <+: ds) (hne : cs ≠ []) :
    isAbsolute (String.ofList cs) = isAbsolute (String.ofList ds) := by
  obtain ⟨c, rest, rfl⟩ := List.exists_cons_of_ne_nil hne
  obtain ⟨more, rfl⟩ := h
  simp [isAbsolute]

theorem parts_withoutSlashes (text : String) :
    parts (FileSystem.withoutSlashes text) = parts text := by
  unfold FileSystem.withoutSlashes
  simp only
  split
  · rfl
  · rw [parts_dropSlashes, String.ofList_toList]

theorem isAbsolute_withoutSlashes (text : String) :
    isAbsolute (FileSystem.withoutSlashes text) = isAbsolute text := by
  unfold FileSystem.withoutSlashes
  simp only
  split
  · rfl
  · rename_i hne
    rw [isAbsolute_of_isPrefix (dropSlashes_isPrefix _) (by simpa using hne), String.ofList_toList]

/-! ### Cutting paths -/

/-- A text holds no slash and is not cut, or it is cut behind its last slash. -/
theorem split_cases (text : String) :
    '/' ∉ text.toList ∧ split text = ("", text) ∨
      ∃ head name, text.toList = head ++ ['/'] ++ name.toList ∧ '/' ∉ name.toList ∧
        split text = (String.ofList (if (dropSlashes head).isEmpty then head ++ ['/']
          else dropSlashes head), name) := by
  by_cases h : '/' ∈ text.toList
  · obtain ⟨name, front, hback, hname⟩ := List.eq_append_cons_of_mem (List.mem_reverse.mpr h)
    have htext : text.toList = front.reverse ++ ['/'] ++ name.reverse := by
      rw [← List.reverse_reverse text.toList, hback]
      simp
    refine Or.inr ⟨front.reverse, String.ofList name.reverse, by simpa using htext,
      by simpa using hname, ?_⟩
    rw [← dropSlashes_concat_slash front.reverse]
    exact split_append (by simpa using hname) (by simp) (by simpa using htext)
  · -- Without a slash, all of the text is its last piece.
    refine Or.inl ⟨h, ?_⟩
    have hall : ∀ c ∈ text.toList.reverse, (c != '/') = true := by
      intro c hc
      rw [bne_iff_ne]
      rintro rfl
      exact h (List.mem_reverse.mp hc)
    have htail : text.toList.reverse.takeWhile (· != '/') = text.toList.reverse := by
      rw [← List.append_nil text.toList.reverse, List.takeWhile_append_of_pos hall]
      rfl
    unfold split
    simp [htail, dropSlashes]

/-- The parts of a path are those before its last piece, and that piece. -/
theorem parts_split (text : String) :
    parts text = parts (split text).1 ++ telling [(split text).2] := by
  rcases split_cases text with ⟨hname, hcut⟩ | ⟨head, name, htext, hname, hcut⟩
  · rw [hcut, parts_empty, List.nil_append, parts_eq_telling, pieces_of_not_mem hname]
  · have hwhole : text = String.ofList head ++ "/" ++ name := by
      rw [← String.toList_inj, htext]
      simp
    rw [hcut, hwhole, parts_append_slash, parts_eq_telling name, pieces_of_not_mem hname]
    refine congrArg (· ++ telling [name]) ?_
    -- A head of slashes alone is kept, and of any other the slashes at its end are dropped.
    split
    · have hslash : String.ofList (head ++ ['/']) = String.ofList head ++ "/" ++ "" := by
        rw [← String.toList_inj]
        simp
      rw [hslash, parts_append_slash, parts_empty, List.append_nil]
    · exact (parts_dropSlashes head).symm

/-- A path starts as what stands before its last piece, if that is not empty. -/
theorem isAbsolute_split (h : (split text).1 ≠ "") :
    isAbsolute (split text).1 = isAbsolute text := by
  rcases split_cases text with ⟨-, hcut⟩ | ⟨head, name, htext, -, hcut⟩
  · rw [hcut] at h
    exact absurd rfl h
  · have hwhole : text = String.ofList (head ++ ['/'] ++ name.toList) := by
      rw [← htext, String.ofList_toList]
    rw [hcut, hwhole]
    simp only
    split
    · exact isAbsolute_of_isPrefix (List.prefix_append _ _) (by simp)
    · rename_i hne
      refine isAbsolute_of_isPrefix ?_ (by simpa using hne)
      rw [List.append_assoc]
      exact (dropSlashes_isPrefix head).trans (List.prefix_append _ _)

theorem parts_splitPath (text : String) :
    parts text =
      parts (FileSystem.splitPath text).1 ++ telling [(FileSystem.splitPath text).2] := by
  have hcut := parts_split text
  unfold FileSystem.splitPath
  rcases hsplit : split text with ⟨head, tail⟩
  rw [hsplit] at hcut
  simp only at hcut ⊢
  split
  · -- The path ends with a slash, so that its parts are those before the slash.
    rename_i hempty
    rw [hcut, ← parts_split head, String.isEmpty_iff.mp hempty, telling_cons_of_idle (by decide),
      telling_nil, List.append_nil]
  · exact hcut

theorem isAbsolute_splitPath (h : (FileSystem.splitPath text).1 ≠ "") :
    isAbsolute (FileSystem.splitPath text).1 = isAbsolute text := by
  unfold FileSystem.splitPath at h ⊢
  rcases hsplit : split text with ⟨head, tail⟩
  rw [hsplit] at h
  have hhead : head ≠ "" → isAbsolute head = isAbsolute text := by
    intro hne
    have hself : isAbsolute (split text).1 = isAbsolute text :=
      isAbsolute_split (by rw [hsplit]; exact hne)
    rwa [hsplit] at hself
  simp only at h ⊢
  -- A path that ends with a slash is cut twice.
  split
  · rename_i hempty
    rw [if_pos hempty] at h
    have hne : head ≠ "" := by
      rintro rfl
      exact h (by decide)
    exact (isAbsolute_split h).trans (hhead hne)
  · rename_i hempty
    rw [if_neg hempty] at h
    exact hhead h

end PackageAtlas.Path
