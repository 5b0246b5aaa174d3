import PackageAtlas.Proofs.FileSystem.Inside
import PackageAtlas.Proofs.Path.Parts

namespace PackageAtlas.FileSystem

open PackageAtlas.Path (IsName isAbsolute isIdle ofNames parts pieces telling)

/-!
# Ways of the parts of paths

Where a new directory can come to lie, said by the parts of its path alone:

* `exists_used_of_begin?`: where one sets out, with idle pieces or without;
* `Leads`: parts lead to a directory, through few enough links;
* `Leads.on`: more parts lead on from there;
* `exists_leads_of_missing`: where nothing is yet, all parts but the last lead to a directory;
* `Leads.at?_ne_none`: there is something on the way of a path that is found;
* `Leads.linkFree_of_put`: where a new directory makes a path lead somewhere, there are no links;
* `exists_find?_of_resolve_join`: what lies below a path shows that the path leads to a directory.
-/

variable {fs fs' : FileSystem} {here : Standpoint} {dir loc mid base start : Location}
  {path : String} {rooted : Bool} {ps qs more : List String} {n lost : Nat}

/-! ### Ways -/

/-- Idle pieces can be left out of a way. -/
theorem Enters.telling (h : Enters fs dir ps loc n) : Enters fs dir (telling ps) loc n := by
  induction h with
  | here dir => exact .here dir
  | idle hidle _ ih =>
    rw [Path.telling_cons_of_idle hidle]
    exact ih
  | up _ ih =>
    rw [Path.telling_cons (by decide)]
    exact .up ih
  | directory hstep hloc _ ih =>
    rw [Path.telling_cons hstep.1]
    exact .directory hstep hloc ih
  | link hstep hloc htarget _ _ ih =>
    rw [Path.telling_cons hstep.1]
    exact .link hstep hloc htarget ih

/-- A way stays where it leads while directories and links are kept. -/
theorem Enters.kept (h : Enters fs dir ps loc n) (hkept : Keeps fs fs') :
    Enters fs' dir ps loc n := by
  induction h with
  | here dir => exact .here dir
  | idle hidle _ ih => exact .idle hidle ih
  | up _ ih => exact .up ih
  | directory hstep hloc _ ih => exact .directory hstep (hkept.directories hloc) ih
  | link hstep hloc _ _ ihtarget ihrest => exact .link hstep (hkept.links hloc) ihtarget ihrest

/-! ### Where ways begin -/

/-- Idle pieces do not lead up. -/
theorem LeadsUp.telling (h : LeadsUp lost ps) : LeadsUp lost (telling ps) := by
  induction h with
  | here => exact .here
  | idle hidle _ ih =>
    rw [Path.telling_cons_of_idle hidle]
    exact ih
  | up _ ih =>
    rw [Path.telling_cons (by decide)]
    exact .up ih

/-- What is used up in leaving what was removed are pieces that lead up, apart from idle ones; they
    leave it whatever follows, with idle ones among them or without. -/
theorem exists_used_of_begin? (h : begin? here rooted ps = .ok (start, qs)) :
    ∃ used, ps = used ++ qs ∧ (∀ p ∈ used, isIdle p = true ∨ p = "..") ∧
      ∀ more, begin? here rooted (used ++ more) = .ok (start, more) ∧
        begin? here rooted (telling used ++ more) = .ok (start, more) := by
  simp only [begin?_eq_leaveLost] at h ⊢
  obtain ⟨used, hup, rfl, rfl⟩ := leaveLost_eq_ok_iff.mp h
  exact ⟨used, rfl, hup.idle_or_up,
    fun more => ⟨hup.leaveLost_append more, hup.telling.leaveLost_append more⟩⟩

/-! ### Where ways lead -/

/-- Pieces lead to a directory, through few enough links. -/
def Leads (fs : FileSystem) (here : Standpoint) (rooted : Bool) (ps : List String)
    (loc : Location) : Prop :=
  ∃ start qs n, begin? here rooted ps = .ok (start, qs) ∧ n ≤ linkLimit ∧ Enters fs start qs loc n

namespace Leads

theorem kept (h : Leads fs here rooted ps loc) (hkept : Keeps fs fs') :
    Leads fs' here rooted ps loc := by
  obtain ⟨start, qs, n, hbegin, hn, henters⟩ := h
  exact ⟨start, qs, n, hbegin, hn, henters.kept hkept⟩

/-- More pieces lead on from where the first ones lead. -/
theorem on (h : Leads fs here rooted ps mid) (hmore : Leads fs here rooted (ps ++ more) loc) :
    ∃ n, Enters fs mid more loc n := by
  obtain ⟨start, qs, n, hbegin, -, henters⟩ := h
  obtain ⟨start', qs', m, hbegin', -, henters'⟩ := hmore
  rw [begin?_append hbegin more] at hbegin'
  obtain ⟨rfl, rfl⟩ := Prod.mk.inj (Except.ok.inj hbegin')
  obtain ⟨mid', k, m', hmid, hon, -⟩ := henters'.split
  obtain ⟨rfl, -⟩ := henters.unique hmid
  exact ⟨m', hon⟩

end Leads

/-- A path to a directory leads there by its parts. -/
theorem leads_of_find? (h : fs.find? here path = .ok (loc, .directory)) :
    Leads fs here (isAbsolute path) (parts path) loc := by
  obtain ⟨-, -, -, start, qs, n, hstart, hn, henters⟩ := find?_directory_iff.mp h
  rw [start?_eq_begin?] at hstart
  obtain ⟨used, hpieces, -, hbegin⟩ := exists_used_of_begin? hstart
  refine ⟨start, telling qs, n, ?_, hn, henters.telling⟩
  rw [Path.parts_eq_telling, hpieces, Path.telling_append]
  exact (hbegin (telling qs)).2

/-- Where a path leads and nothing is, all parts but the last lead to a directory, and the last one
    is the name that a new entry of it would have. -/
theorem exists_leads_of_missing (hfs : Stands fs here)
    (h : fs.resolve false here path = .ok loc) (hnone : fs.at? loc = none) :
    ∃ ps last mid, parts path = ps ++ [last] ∧ IsStep last ∧
      Leads fs here (isAbsolute path) ps mid ∧ loc = mid ++ [last] := by
  obtain ⟨-, -, start, qs, hstart, h⟩ := resolve_eq_ok_iff_start?.mp h
  rw [start?_eq_begin?] at hstart
  have hdirectory := (hfs.of_begin? hstart).2.1
  obtain ⟨used, hpieces, -, hbegin⟩ := exists_used_of_begin? hstart
  by_cases hqs : qs = []
  · -- Where one sets out there is a directory.
    rw [hqs, resolveFrom_nil] at h
    rw [← Except.ok.inj h, hdirectory] at hnone
    simp at hnone
  obtain ⟨front, last, rfl⟩ : ∃ front last, qs = front ++ [last] :=
    ⟨qs.dropLast, qs.getLast hqs, (List.dropLast_concat_getLast hqs).symm⟩
  obtain ⟨mid, n, left, henters, hlinks, hleft⟩ := exists_enters h (Or.inl (by simp))
  have hmid := henters.at?_eq hfs.files hdirectory
  have hlast : IsStep last ∧ loc = mid ++ [last] := by
    cases follows_of_resolveFrom hleft with
    | idle _ hrest =>
      cases hrest
      simp [hmid] at hnone
    | up hrest =>
      cases hrest
      simp [hfs.files.at?_dropLast hmid] at hnone
    | last hstep _ => exact ⟨hstep, rfl⟩
    | directory _ hentry hrest =>
      cases hrest
      simp [hentry] at hnone
    | link _ _ hfollow _ => exact absurd (hfollow rfl) (by simp)
  refine ⟨telling used ++ telling front, last, mid, ?_, hlast.1, ?_, hlast.2⟩
  · rw [Path.parts_eq_telling, hpieces, Path.telling_append, Path.telling_append,
      Path.telling_cons hlast.1.1, Path.telling_nil, List.append_assoc]
  · exact ⟨start, telling front, n, (hbegin (telling front)).2, by omega, henters.telling⟩

/-- There is something on the way of a path that is found. -/
theorem Leads.at?_ne_none {last : String} {found : Location × Entry}
    (h : Leads fs here (isAbsolute path) ps mid) (hlast : IsStep last)
    (hparts : parts path = ps ++ last :: more) (hfound : fs.find? here path = .ok found) :
    fs.at? (mid ++ [last]) ≠ none := by
  intro hnone
  obtain ⟨hresolve, hentry⟩ := find?_eq_ok_iff.mp hfound
  obtain ⟨-, -, start, qs, hstart, hresolve⟩ := resolve_eq_ok_iff_start?.mp hresolve
  rw [start?_eq_begin?] at hstart
  obtain ⟨used, hpieces, -, hbegin⟩ := exists_used_of_begin? hstart
  -- Both ways set out from the same place, so the parts that are left are the same as well.
  obtain ⟨start', rs, n, hbegin', -, henters⟩ := h
  have hsame : telling qs = rs ++ last :: more ∧ start = start' := by
    have hwhole := (hbegin (telling qs)).2
    rw [← Path.telling_append, ← hpieces, ← Path.parts_eq_telling, hparts,
      begin?_append hbegin' (last :: more)] at hwhole
    obtain ⟨h₁, h₂⟩ := Prod.mk.inj (Except.ok.inj hwhole)
    exact ⟨h₂.symm, h₁.symm⟩
  obtain ⟨htelling, rfl⟩ := hsame
  obtain ⟨front, rest, rfl, hfront, hrest⟩ := List.filter_eq_append_iff.mp htelling
  obtain ⟨idles, behind, rfl, hidles, -, -⟩ := List.filter_eq_cons_iff.mp hrest
  rw [← List.append_assoc] at hresolve
  obtain ⟨mid', k, left, henters', -, hleft⟩ := exists_enters hresolve (Or.inl (by simp))
  have hnothing : telling idles = [] := List.filter_eq_nil_iff.mpr hidles
  have hway := henters'.telling
  rw [Path.telling_append, hnothing, List.append_nil] at hway
  replace hway : Enters fs start rs mid' k := hfront ▸ hway
  obtain ⟨rfl, -⟩ := henters.unique hway
  rw [resolveFrom_missing hlast hnone] at hleft
  split at hleft
  · rw [← Except.ok.inj hleft] at hentry
    rw [hnone] at hentry
    simp at hentry
  · simp at hleft

/-! ### New directories -/

/-- Below a location with nothing there is nothing. -/
theorem WellFormed.at?_append_eq_none (hfs : fs.WellFormed) (h : fs.at? loc = none)
    (ns : List String) : fs.at? (loc ++ ns) = none := by
  induction ns using List.reverseRecOn with
  | nil => rwa [List.append_nil]
  | append_singleton front name ih =>
    rcases hentry : fs.at? (loc ++ (front ++ [name])) with _ | entry
    · rfl
    · have hparent := hfs.parents _ (mem_of_at? (by simp) hentry)
      rw [← List.append_assoc, List.dropLast_concat, ih] at hparent
      simp at hparent

/-- A directory that was just made holds nothing. -/
theorem at?_put_append (hfs : fs.WellFormed) (h : fs.at? loc = none) {ns : List String}
    (hns : ns ≠ []) : (fs.put loc .directory).at? (loc ++ ns) = none := by
  rw [at?_put_of_ne (by simpa using hns)]
  exact hfs.at?_append_eq_none h ns

theorem linkFree_put (hfs : fs.WellFormed) (h : fs.at? loc = none) :
    LinkFree (fs.put loc .directory) loc := by
  intro ns t
  by_cases hns : ns = []
  · subst hns
    rw [List.append_nil, at?_put_self (ne_nil_of_at?_eq_none h)]
    simp
  · rw [at?_put_append hfs h hns]
    simp

/-- Where a new directory makes a path lead to a directory, without leading up behind the new one,
    there are no links inside: the path ends at the new directory, which is empty. -/
theorem Leads.linkFree_of_put {last : String} (h : Leads fs here rooted ps mid)
    (hlast : IsStep last) (hfs : fs.WellFormed) (hnone : fs.at? (mid ++ [last]) = none)
    (hmore : ∀ p ∈ more, isIdle p = false ∧ p ≠ "..")
    (hleads : Leads (fs.put (mid ++ [last]) .directory) here rooted (ps ++ last :: more) base) :
    LinkFree (fs.put (mid ++ [last]) .directory) base := by
  have hgrown : Grown (fun _ _ => True) fs (fs.put (mid ++ [last]) .directory) :=
    .directory .same hnone trivial
  have hself : (fs.put (mid ++ [last]) .directory).at? (mid ++ [last]) = some .directory :=
    at?_put_self (ne_nil_of_at?_eq_none hnone)
  obtain ⟨n, hon⟩ := (h.kept hgrown.keeps).on hleads
  -- The first step leads into the new directory, and from there nothing leads on.
  have hbehind : ∃ m, Enters (fs.put (mid ++ [last]) .directory) (mid ++ [last]) more base m := by
    cases hon with
    | idle hidle _ =>
      rw [hlast.1] at hidle
      simp at hidle
    | up _ => exact absurd rfl hlast.2.1
    | directory _ _ hrest => exact ⟨_, hrest⟩
    | link _ hloc _ _ =>
      rw [hself] at hloc
      simp at hloc
  obtain ⟨m, hbehind⟩ := hbehind
  cases hbehind with
  | here => exact linkFree_put hfs hnone
  | idle hidle _ =>
    rw [(hmore _ List.mem_cons_self).1] at hidle
    simp at hidle
  | up _ => exact absurd rfl (hmore _ List.mem_cons_self).2
  | directory _ hloc _ =>
    rw [at?_put_append hfs hnone (by simp)] at hloc
    simp at hloc
  | link _ hloc _ _ =>
    rw [at?_put_append hfs hnone (by simp)] at hloc
    simp at hloc

/-! ### What lies below a path -/

/-- What lies below a path shows that the path leads to a directory. -/
theorem exists_find?_of_resolve_join {dir : String} {ns : List String} (hfs : Stands fs here)
    (hdir : dir ≠ "") (hne : ns ≠ []) (hns : ∀ n ∈ ns, IsName n)
    (h : fs.resolve true here (Path.join dir (ofNames ns)) = .ok loc) :
    ∃ base, fs.find? here dir = .ok (base, .directory) := by
  have hrel := Path.isAbsolute_ofNames hns
  obtain ⟨-, hnull, start, qs, hstart, h⟩ := resolve_eq_ok_iff_start?.mp h
  obtain ⟨front, hpieces, hfront⟩ := Path.pieces_join hdir hrel
  rw [Path.pieces_ofNames hne (fun n hn => (hns n hn).2.2)] at hpieces
  rw [start?_eq_begin?, Path.isAbsolute_join hdir hrel, hpieces] at hstart
  have hdirectory := (hfs.of_begin? hstart).2.1
  -- Names do not lead up, so what was removed is left before they are reached.
  obtain ⟨used, hwhole, hused, hbegin⟩ := exists_used_of_begin? hstart
  obtain ⟨rest, rfl, rfl⟩ : ∃ rest, front = used ++ rest ∧ qs = rest ++ ns := by
    rcases List.append_eq_append_iff.mp hwhole with ⟨extra, hextra, hnames⟩ | hcut
    · rcases extra with _ | ⟨e, extra⟩
      · exact ⟨[], by simpa using hextra.symm, by simpa using hnames.symm⟩
      · have hname := hns e (by simp [hnames])
        rcases hused e (by simp [hextra]) with hidle | hup
        · rw [hname.1] at hidle
          simp at hidle
        · exact absurd hup hname.2.1
    · exact hcut
  obtain ⟨base, n, left, henters, hlinks, -⟩ := exists_enters h (Or.inl hne)
  refine ⟨base, find?_directory_iff.mpr ⟨hdir, ?_, henters.at?_eq hfs.files hdirectory, ?_⟩⟩
  · exact fun hmem => hnull ((Path.mem_join_iff hdir hrel (by decide)).mpr (Or.inl hmem))
  · rw [start?_eq_begin?]
    rcases hfront with hfront | hfront
    · exact ⟨start, rest, n, by rw [hfront]; exact (hbegin rest).1, by omega, henters⟩
    · refine ⟨start, rest ++ [""], n, ?_, by omega, henters.concat_empty⟩
      rw [hfront, List.append_assoc]
      exact (hbegin (rest ++ [""])).1

end PackageAtlas.FileSystem
