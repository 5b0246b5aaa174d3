import PackageAtlas.Proofs.FileSystem.Lookup
import PackageAtlas.Search.Scan
import PackageAtlas.Source.Window

namespace PackageAtlas.Search

open Docs (Replica packageKey)

/-!
# Where hits come from

A hit is a line of a file that can be read, and the lines around it are those of a window:

* `IsHitIn`: a hit is a line of a file;
* `mem_hitsFrom`: the hits in some lines are such lines;
* `firstHits_cases`: what a search gives;
* `exists_source_of_mem_hitsUpTo`, `exists_source?_of_mem_firstHits`: every hit of a search is a line
  of a copy of documentation or of a file of the package;
* `length_of_firstHits`: there are no more hits than are asked for;
* `exists_key_of_mem_docsSources`: the copies that are searched are those that are remembered;
* `snippet_eq_excerpt`: what is shown with a hit is an excerpt of the file.
-/

variable {fs : FileSystem} {here : Standpoint} {regex : Pattern.Regex} {context : Int} {limit : Nat}
  {file : String} {found : List Hit} {hit : Hit}

/-! ### Hits are lines -/

/-- A hit is a line of a file, with the lines around it. -/
def IsHitIn (fs : FileSystem) (here : Standpoint) (context : Int) (s : Source) (hit : Hit) : Prop :=
  ∃ bytes i, fs.read here (Path.join s.base s.file) = .ok bytes ∧ hit.file = s.file ∧
    hit.line = i + 1 ∧ i < (Text.lines (Text.Utf8.decodeBytes bytes)).length ∧
    hit.snippet = snippet (Text.lines (Text.Utf8.decodeBytes bytes)) context i

/-- What is found in some lines was found before, or is one of the lines. -/
theorem mem_hitsFrom {all ls : List String} {i : Nat} {done : List Hit}
    (h : hitsFrom regex file all context limit i done ls = .ok found) (hmem : hit ∈ found) :
    hit ∈ done ∨ ∃ j, i ≤ j ∧ j < i + ls.length ∧ hit.file = file ∧ hit.line = j + 1 ∧
      hit.snippet = snippet all context j := by
  induction ls generalizing limit i done with
  | nil =>
    rw [hitsFrom] at h
    rw [← Except.ok.inj h] at hmem
    exact Or.inl (List.mem_reverse.mp hmem)
  | cons l ls ih =>
    -- A hit in the lines behind this one is a hit in all of them.
    have hbehind : (∃ j, i + 1 ≤ j ∧ j < i + 1 + ls.length ∧ hit.file = file ∧ hit.line = j + 1 ∧
        hit.snippet = snippet all context j) → ∃ j, i ≤ j ∧ j < i + (l :: ls).length ∧
          hit.file = file ∧ hit.line = j + 1 ∧ hit.snippet = snippet all context j := by
      rintro ⟨j, hlow, hhigh, hrest⟩
      have hlength : (l :: ls).length = ls.length + 1 := List.length_cons
      exact ⟨j, by omega, by omega, hrest⟩
    cases limit with
    | zero =>
      rw [hitsFrom] at h
      rw [← Except.ok.inj h] at hmem
      exact Or.inl (List.mem_reverse.mp hmem)
    | succ limit =>
      rw [hitsFrom] at h
      rcases hfind : regex.find? l with e | _ | text
      · rw [hfind] at h
        simp at h
      · rw [hfind] at h
        rcases ih h with hdone | hmore
        · exact Or.inl hdone
        · exact Or.inr (hbehind hmore)
      · rw [hfind] at h
        rcases ih h with hdone | hmore
        · rcases List.mem_cons.mp hdone with rfl | hdone
          · have hlength : (l :: ls).length = ls.length + 1 := List.length_cons
            exact Or.inr ⟨i, Nat.le_refl i, by omega, rfl, rfl, rfl⟩
          · exact Or.inl hdone
        · exact Or.inr (hbehind hmore)

theorem isHitIn_of_mem_hitsOf {s : Source} (h : hitsOf fs here regex context limit s = .ok found)
    (hmem : hit ∈ found) : IsHitIn fs here context s hit := by
  unfold hitsOf at h
  split at h
  · rename_i bytes hread
    rcases mem_hitsFrom h hmem with hnil | ⟨j, -, hlength, hfile, hline, hsnippet⟩
    · simp at hnil
    · exact ⟨bytes, j, hread, hfile, hline, by omega, hsnippet⟩
  · rw [← Except.ok.inj h] at hmem
    simp at hmem

theorem exists_source_of_mem_hitsUpTo {sources : List Source}
    (h : hitsUpTo fs here regex context limit sources = .ok found) (hmem : hit ∈ found) :
    ∃ s ∈ sources, IsHitIn fs here context s hit := by
  induction sources generalizing limit found with
  | nil =>
    rw [hitsUpTo] at h
    rw [← Except.ok.inj h] at hmem
    simp at hmem
  | cons s sources ih =>
    rw [hitsUpTo] at h
    obtain ⟨first, hfirst, h⟩ := bind_eq_ok_iff.mp h
    -- The limit has been reached, or more sources are searched for the rest of it.
    split at h
    · rw [← Except.ok.inj h] at hmem
      exact ⟨s, List.mem_cons_self, isHitIn_of_mem_hitsOf hfirst hmem⟩
    · obtain ⟨more, hmore, h⟩ := bind_eq_ok_iff.mp h
      rw [← Except.ok.inj h] at hmem
      rcases List.mem_append.mp hmem with hmem | hmem
      · exact ⟨s, List.mem_cons_self, isHitIn_of_mem_hitsOf hfirst hmem⟩
      · obtain ⟨s', hs', hhit⟩ := ih hmore hmem
        exact ⟨s', List.mem_cons_of_mem s hs', hhit⟩

theorem orSearchError_eq_ok {ε α : Type} {f : ε → SearchError} {x : Except ε α} {a : α}
    (h : orSearchError f x = .ok a) : x = .ok a := by
  cases x with
  | ok b => rw [← Except.ok.inj h]
  | error e => simp [orSearchError] at h

/-- What a search gives: the hits in the copies of documentation, if there are copies to search, and
    behind them those in the files of the package, unless there are enough already. -/
theorem firstHits_cases {replica : Option Replica} {p : Package} {limit : Int}
    (h : firstHits fs here replica p regex context limit = .ok found) :
    ∃ docs first,
      (∀ s ∈ docs, ∃ r all, replica = some r ∧ docsSources r p = .ok all ∧ s ∈ all) ∧
      hitsUpTo fs here regex context (max 1 limit).toNat docs = .ok first ∧
      (found = first ∨ ∃ code more, codeSources fs here p = .ok code ∧
        hitsUpTo fs here regex context ((max 1 limit).toNat - first.length) code = .ok more ∧
        first.length < (max 1 limit).toNat ∧ found = first ++ more) := by
  obtain ⟨docs, hdocs, h⟩ : ∃ docs,
      (∀ s ∈ docs, ∃ r all, replica = some r ∧ docsSources r p = .ok all ∧ s ∈ all) ∧
      (do
        let found ← orSearchError .span
          (hitsUpTo fs here regex context (max 1 limit).toNat docs)
        if (max 1 limit).toNat ≤ found.length then return found
        let code ← orSearchError .keeping (codeSources fs here p)
        return found ++ (← orSearchError .span (hitsUpTo fs here regex context
          ((max 1 limit).toNat - found.length) code))) = .ok found := by
    -- Without a replica there are no copies to search.
    unfold firstHits at h
    rcases replica with _ | r
    · exact ⟨[], by simp, h⟩
    · obtain ⟨docs, hdocs, h⟩ := bind_eq_ok_iff.mp h
      exact ⟨docs, fun s hs => ⟨r, docs, rfl, orSearchError_eq_ok hdocs, hs⟩, h⟩
  obtain ⟨first, hfirst, h⟩ := bind_eq_ok_iff.mp h
  refine ⟨docs, first, hdocs, orSearchError_eq_ok hfirst, ?_⟩
  split at h
  · exact Or.inl (Except.ok.inj h).symm
  · rename_i hfew
    obtain ⟨code, hcode, h⟩ := bind_eq_ok_iff.mp h
    obtain ⟨more, hmore, h⟩ := bind_eq_ok_iff.mp h
    exact Or.inr ⟨code, more, orSearchError_eq_ok hcode, orSearchError_eq_ok hmore,
      Nat.lt_of_not_le hfew, (Except.ok.inj h).symm⟩

/-- **Hits are read.** Every hit of a search is a line of a copy of documentation, if there are
    copies to search, or of a file of the package itself. -/
theorem exists_source?_of_mem_firstHits {replica : Option Replica} {p : Package} {limit : Int}
    (h : firstHits fs here replica p regex context limit = .ok found) (hmem : hit ∈ found) :
    ∃ s, IsHitIn fs here context s hit ∧
      ((∃ r docs, replica = some r ∧ docsSources r p = .ok docs ∧ s ∈ docs) ∨
        ∃ code, codeSources fs here p = .ok code ∧ s ∈ code) := by
  obtain ⟨docs, first, hdocs, hfirst, hfound⟩ := firstHits_cases h
  have hfromDocs : hit ∈ first → ∃ s, IsHitIn fs here context s hit ∧
      ((∃ r docs, replica = some r ∧ docsSources r p = .ok docs ∧ s ∈ docs) ∨
        ∃ code, codeSources fs here p = .ok code ∧ s ∈ code) := by
    intro hin
    obtain ⟨s, hs, hhit⟩ := exists_source_of_mem_hitsUpTo hfirst hin
    exact ⟨s, hhit, Or.inl (hdocs s hs)⟩
  rcases hfound with rfl | ⟨code, more, hcode, hmore, -, rfl⟩
  · exact hfromDocs hmem
  · rcases List.mem_append.mp hmem with hin | hin
    · exact hfromDocs hin
    · obtain ⟨s, hs, hhit⟩ := exists_source_of_mem_hitsUpTo hmore hin
      exact ⟨s, hhit, Or.inr ⟨code, hcode, hs⟩⟩

theorem exists_source_of_mem_firstHits {replica : Replica} {p : Package} {limit : Int}
    (h : firstHits fs here (some replica) p regex context limit = .ok found) (hmem : hit ∈ found) :
    ∃ s, IsHitIn fs here context s hit ∧
      ((∃ docs, docsSources replica p = .ok docs ∧ s ∈ docs) ∨
        ∃ code, codeSources fs here p = .ok code ∧ s ∈ code) := by
  obtain ⟨s, hhit, ⟨r, docs, hr, hdocs, hs⟩ | hcode⟩ := exists_source?_of_mem_firstHits h hmem
  · obtain rfl := Option.some.inj hr
    exact ⟨s, hhit, Or.inl ⟨docs, hdocs, hs⟩⟩
  · exact ⟨s, hhit, Or.inr hcode⟩

/-- The copies that are searched are those that are remembered for the key of the package. -/
theorem exists_key_of_mem_docsSources {r : Replica} {p : Package} {docs : List Source} {s : Source}
    (h : docsSources r p = .ok docs) (hmem : s ∈ docs) :
    ∃ key, packageKey p = .ok key ∧ s.base = Path.join r.directory key ∧
      s.file ∈ (r.memo.lookup key).getD [] := by
  unfold docsSources Replica.packageDirectory Replica.docs at h
  rcases hkey : packageKey p with e | key
  · rw [hkey] at h
    have hfailed : Except.error (Docs.KeepingError.unwritable e) = Except.ok docs := h
    simp at hfailed
  · rw [hkey] at h
    have hdone : Except.ok (((r.memo.lookup key).getD []).map
        (fun f => Source.mk (Path.join r.directory key) f)) =
          (Except.ok docs : Except Docs.KeepingError _) := h
    rw [← Except.ok.inj hdone] at hmem
    obtain ⟨f, hf, rfl⟩ := List.mem_map.mp hmem
    exact ⟨key, rfl, rfl, hf⟩

/-! ### How many hits there are -/

/-- As many hits are added to those that were found before as the limit allows. -/
theorem length_of_hitsFrom {all ls : List String} {i : Nat} {done : List Hit}
    (h : hitsFrom regex file all context limit i done ls = .ok found) :
    found.length ≤ done.length + limit := by
  induction ls generalizing limit i done with
  | nil =>
    rw [hitsFrom] at h
    rw [← Except.ok.inj h, List.length_reverse]
    omega
  | cons l ls ih =>
    cases limit with
    | zero =>
      rw [hitsFrom] at h
      rw [← Except.ok.inj h, List.length_reverse]
      omega
    | succ limit =>
      rw [hitsFrom] at h
      rcases hfind : regex.find? l with e | _ | text
      · rw [hfind] at h
        simp at h
      · rw [hfind] at h
        exact ih h
      · -- One hit more was found, and one less may follow.
        rw [hfind] at h
        have hmore := ih h
        rw [List.length_cons] at hmore
        omega

theorem length_of_hitsOf {s : Source} (h : hitsOf fs here regex context limit s = .ok found) :
    found.length ≤ limit := by
  unfold hitsOf at h
  split at h
  · have hlength := length_of_hitsFrom h
    rw [List.length_nil] at hlength
    omega
  · rw [← Except.ok.inj h]
    exact Nat.zero_le limit

theorem length_of_hitsUpTo {sources : List Source}
    (h : hitsUpTo fs here regex context limit sources = .ok found) : found.length ≤ limit := by
  induction sources generalizing limit found with
  | nil =>
    rw [hitsUpTo] at h
    rw [← Except.ok.inj h]
    exact Nat.zero_le limit
  | cons s sources ih =>
    rw [hitsUpTo] at h
    obtain ⟨first, hfirst, h⟩ := bind_eq_ok_iff.mp h
    have hlength := length_of_hitsOf hfirst
    split at h
    · rw [← Except.ok.inj h]
      exact hlength
    · obtain ⟨more, hmore, h⟩ := bind_eq_ok_iff.mp h
      -- The other sources are searched for as many hits as are left.
      have hrest := ih hmore
      rw [← Except.ok.inj h, List.length_append]
      omega

/-- **No more hits than are asked for.** -/
theorem length_of_firstHits {replica : Option Replica} {p : Package} {limit : Int}
    (h : firstHits fs here replica p regex context limit = .ok found) :
    (found.length : Int) ≤ max 1 limit := by
  obtain ⟨docs, first, -, hfirst, hfound⟩ := firstHits_cases h
  have hlength := length_of_hitsUpTo hfirst
  rcases hfound with rfl | ⟨code, more, -, hmore, hfew, rfl⟩
  · omega
  · have hrest := length_of_hitsUpTo hmore
    rw [List.length_append]
    omega

/-! ### What is shown with a hit -/

/-- **The lines around a hit.** They are those of the window around its number. -/
theorem snippet_eq_excerpt (text : String) {context : Int} (hcontext : 0 ≤ context) (i : Nat) :
    snippet (Text.lines text) context i =
      PackageAtlas.Source.excerpt text
        (PackageAtlas.Source.Window.around (i + 1 : Nat) (i + 1 : Nat) context) := by
  unfold snippet PackageAtlas.Source.excerpt
  congr 1
  generalize Text.lines text = ls
  unfold part PackageAtlas.Source.Window.lines PackageAtlas.Source.Window.around
  -- Taking up to the end of the text is taking all of it.
  have hstop : ¬ min (ls.length : Int) (i + 1 + context) < 0 := by omega
  simp only [hstop, if_false]
  have htake : ls.take (min (ls.length : Int) (i + 1 + context)).toNat =
      ls.take (i + 1 + context).toNat := by
    rcases Int.le_total (ls.length : Int) (i + 1 + context) with hle | hle
    · rw [List.take_of_length_le (by omega), List.take_of_length_le (by omega)]
    · rw [Int.min_eq_right hle]
  rw [htake, List.drop_take]
  congr 1
  · omega
  · congr 1
    omega

end PackageAtlas.Search
