import PackageAtlas.Proofs.Package.Catalogue
import PackageAtlas.Proofs.Tool.Steps

namespace PackageAtlas.Tool

open Declaration (Kind Record)

/-!
# Lists of declarations

Declarations are listed by looking at those of an index one by one, until there are as many as are
asked for. What comes out is the first part of all that is asked for:

* `IsAskedFor`: what the kind and the text that are given ask for;
* `pickFrom_eq_ok_iff`: looking no further is the same as taking the first ones of all;
* `yields_listDeclarations_iff`: all that it takes for declarations to be listed;
* `Finds`, `Finds.afterCall`: the index that calls look at, and that it stays;
* `listings_filter_then_take`: what is listed, with different limits and filters.
-/

variable {kind name package root indexes limit : Argument} {wanted : Option Kind} {r : Record}
  {index found done : List Record} {p : Package} {s s' : Session}

/-! ### What is asked for -/

/-- A declaration has the kind of the name that is given, and its own name holds the text that is
    given. What counts as not given leaves nothing out. -/
structure IsAskedFor (kind name : Argument) (r : Record) : Prop where
  kind : kind.holds = true → kind.text? = some r.kind.name
  name : name.holds = true → ∃ part ∈ name.text?, part.toList <:+: r.name.toList

instance (kind name : Argument) (r : Record) : Decidable (IsAskedFor kind name r) :=
  decidable_of_iff
    ((kind.holds = true → kind.text? = some r.kind.name) ∧
      (name.holds = true → ∃ part ∈ name.text?, part.toList <:+: r.name.toList))
    ⟨fun h => ⟨h.1, h.2⟩, fun h => ⟨h.kind, h.name⟩⟩

/-- What is asked for by kind and name is asked for by each of them. -/
theorem isAskedFor_iff :
    IsAskedFor kind name r ↔ IsAskedFor kind .nothing r ∧ IsAskedFor .nothing name r := by
  constructor
  · exact fun h => ⟨⟨h.kind, nofun⟩, ⟨nofun, h.name⟩⟩
  · exact fun h => ⟨h.1.kind, h.2.name⟩

theorem ofName?_eq_some_iff {text : String} {k : Kind} :
    Kind.ofName? text = some k ↔ text = k.name := by
  constructor
  · intro h
    have hbeq := List.find?_some (p := fun k : Kind => k.name == text) h
    exact (eq_of_beq hbeq).symm
  · rintro rfl
    exact Kind.ofName?_name k

/-- Kinds have different names. -/
theorem kind_name_inj {k k' : Kind} (h : k.name = k'.name) : k = k' := by
  rw [← Option.some.injEq, ← Kind.ofName?_name k, h, Kind.ofName?_name]

theorem wantedKind_eq_ok_iff :
    wantedKind kind = .ok wanted ↔
      (kind.holds = false ∧ wanted = none) ∨
        kind.holds = true ∧ ∃ k : Kind, kind.text? = some k.name ∧ wanted = some k := by
  unfold wantedKind
  by_cases hholds : kind.holds = true
  · rw [if_pos hholds]
    simp only [hholds, Bool.true_eq_false, false_and, true_and, false_or]
    rcases hkind : kind.text?.bind Kind.ofName? with _ | k
    · simp only [reduceCtorEq, false_iff, not_exists, not_and]
      rintro k htext -
      rw [htext, Option.bind_some, Kind.ofName?_name] at hkind
      simp at hkind
    · obtain ⟨text, htext, hk⟩ := Option.bind_eq_some_iff.mp hkind
      obtain rfl := ofName?_eq_some_iff.mp hk
      simp only [Except.ok.injEq]
      constructor
      · rintro rfl
        exact ⟨k, htext, rfl⟩
      · rintro ⟨k', htext', rfl⟩
        rw [htext, Option.some.injEq] at htext'
        rw [kind_name_inj htext']
  · rw [if_neg hholds]
    simp [hholds, eq_comm]

/-- A declaration is of the kind that is wanted if it is asked for by kind alone. -/
theorem isOfKind_eq (hwanted : wantedKind kind = .ok wanted) (r : Record) :
    isOfKind wanted r = decide (IsAskedFor kind .nothing r) := by
  have hasked : IsAskedFor kind .nothing r ↔
      (kind.holds = true → kind.text? = some r.kind.name) :=
    ⟨fun h => h.kind, fun h => ⟨h, nofun⟩⟩
  rw [Bool.eq_iff_iff, decide_eq_true_iff, hasked]
  rcases wantedKind_eq_ok_iff.mp hwanted with ⟨hnone, rfl⟩ | ⟨hsome, k, htext, rfl⟩
  · simp [isOfKind, hnone]
  · rw [htext]
    simp only [isOfKind, Option.all_some, beq_iff_eq, hsome, true_imp_iff, Option.some.injEq]
    constructor
    · rintro rfl
      rfl
    · exact fun h => (kind_name_inj h).symm

theorem eq_text_of_text? {part : String} (h : name.text? = some part) : name = .text part := by
  cases name <;> simp [Argument.text?] at h
  rw [h]

/-- What is no text is in no name. -/
theorem hasName_of_text?_eq_none (h : name.text? = none) (r : Record) :
    hasName name r = if name.holds then .error (.notInText name.sort) else .ok true := by
  cases name <;> first | rfl | simp [Argument.text?] at h

/-- A text is looked for in the names of declarations, if one is given. -/
theorem hasName_eq (hname : name.holds = true → name.text?.isSome = true) (r : Record) :
    hasName name r = .ok (decide (IsAskedFor .nothing name r)) := by
  have hasked : IsAskedFor .nothing name r ↔
      (name.holds = true → ∃ part ∈ name.text?, part.toList <:+: r.name.toList) :=
    ⟨fun h => h.name, fun h => ⟨nofun, h⟩⟩
  rcases htext : name.text? with _ | part
  · have hholds : name.holds = false := by
      rw [Bool.eq_false_iff]
      intro hholds
      simpa [htext] using hname hholds
    rw [hasName_of_text?_eq_none htext, hholds, decide_eq_true (hasked.mpr (by simp [hholds]))]
    rfl
  · rw [eq_text_of_text? htext] at hasked ⊢
    rw [hasName, Except.ok.injEq, Bool.eq_iff_iff, decide_eq_true_iff, hasked, Text.holdsText,
      Package.holdsList_iff]
    simp only [Argument.holds, Argument.text?, Option.mem_def, Option.some.injEq, exists_eq_left',
      Bool.not_eq_true']
    constructor
    · exact fun h _ => h
    · intro h
      -- The empty text is no filter, and is part of every name.
      by_cases hempty : part = ""
      · rw [hempty]
        exact List.nil_infix
      · exact h (by simpa using hempty)

/-! ### Looking one by one -/

/-- Where a text or nothing is looked for in names, looking one by one finds the first of all that
    is asked for, behind what has been found before. -/
theorem pickFrom_eq (hwanted : wantedKind kind = .ok wanted)
    (hname : name.holds = true → name.text?.isSome = true) {n : Int} (hdone : done.length < n)
    (index : List Record) :
    pickFrom wanted name n done index = .ok (done.reverse ++
      (index.filter (fun r => IsAskedFor kind name r)).take (n.toNat - done.length)) := by
  -- What has been found grows by one, and what is still looked for gets less by one.
  induction index generalizing done with
  | nil => simp [pickFrom]
  | cons r index ih =>
    rw [pickFrom, isOfKind_eq hwanted, hasName_eq hname, List.filter_cons]
    by_cases hkind : IsAskedFor kind .nothing r
    · by_cases hpart : IsAskedFor .nothing name r
      · have hboth : IsAskedFor kind name r := isAskedFor_iff.mpr ⟨hkind, hpart⟩
        have hleft : n.toNat - done.length = n.toNat - (done.length + 1) + 1 := by omega
        simp only [hkind, hpart, hboth, decide_true, Bool.not_true, if_true, hleft,
          List.take_succ_cons]
        show (if n ≤ ((r :: done).length : Int) then Except.ok (r :: done).reverse
          else pickFrom wanted name n (r :: done) index) = _
        rw [List.length_cons]
        split
        · have hnone : n.toNat - (done.length + 1) = 0 := by omega
          rw [hnone, List.take_zero, List.reverse_cons]
        · rw [ih (by rw [List.length_cons]; omega), List.length_cons, List.reverse_cons,
            List.append_assoc, List.singleton_append]
      · have hnot : ¬ IsAskedFor kind name r := fun h => hpart (isAskedFor_iff.mp h).2
        simp only [hkind, hpart, hnot, decide_true, decide_false]
        exact ih hdone
    · have hnot : ¬ IsAskedFor kind name r := fun h => hkind (isAskedFor_iff.mp h).1
      simp only [hkind, hnot, decide_false]
      exact ih hdone

/-- What is no text is looked for in vain, if there is anything to look at. -/
theorem pickFrom_of_text?_eq_none (hwanted : wantedKind kind = .ok wanted)
    (hholds : name.holds = true) (htext : name.text? = none) (n : Int) (done index : List Record) :
    pickFrom wanted name n done index =
      if ∃ r ∈ index, IsAskedFor kind .nothing r then .error (.notInText name.sort)
      else .ok done.reverse := by
  induction index with
  | nil => simp [pickFrom]
  | cons r index ih =>
    rw [pickFrom, isOfKind_eq hwanted, hasName_of_text?_eq_none htext, hholds]
    by_cases hkind : IsAskedFor kind .nothing r
    · simp only [hkind, decide_true, Bool.not_true, if_true, List.mem_cons, exists_eq_or_imp,
        true_or]
      rfl
    · simp only [hkind, decide_false, List.mem_cons, exists_eq_or_imp, false_or]
      exact ih

/-- **Looking no further.** Looking at declarations one by one until there are as many as are asked
    for gives the first of all that are asked for. It fails only if something that is no text is
    looked for in a name. -/
theorem pickFrom_eq_ok_iff (hwanted : wantedKind kind = .ok wanted) {n : Int} (hn : 1 ≤ n) :
    pickFrom wanted name n [] index = .ok found ↔
      (name.holds = true → name.text?.isSome = true ∨ ∀ r ∈ index, ¬ IsAskedFor kind .nothing r) ∧
        found = (index.filter (fun r => IsAskedFor kind name r)).take n.toNat := by
  by_cases hname : name.holds = true → name.text?.isSome = true
  · have hnone : (([] : List Record).length : Int) < n := by
      rw [List.length_nil]
      omega
    rw [pickFrom_eq hwanted hname hnone, Except.ok.injEq, List.reverse_nil,
      List.nil_append, List.length_nil, Nat.sub_zero]
    constructor
    · rintro rfl
      exact ⟨fun h => Or.inl (hname h), rfl⟩
    · exact fun h => h.2.symm
  · obtain ⟨hholds, hnone⟩ : name.holds = true ∧ name.text? = none := by simpa using hname
    rw [pickFrom_of_text?_eq_none hwanted hholds hnone]
    -- What is no text is part of no name. It is looked at only if a declaration has the kind.
    have hempty : index.filter (fun r => IsAskedFor kind name r) = [] := by
      rw [List.filter_eq_nil_iff]
      intro r _ h
      obtain ⟨part, hpart, -⟩ := (of_decide_eq_true h).name hholds
      rw [hnone] at hpart
      simp at hpart
    rw [hempty, hnone, List.take_nil]
    by_cases hany : ∃ r ∈ index, IsAskedFor kind .nothing r
    · rw [if_pos hany]
      simp only [reduceCtorEq, false_iff, hholds]
      rintro ⟨h, -⟩
      obtain ⟨r, hr, hkind⟩ := hany
      rcases h trivial with h | h
      · simp at h
      · exact h r hr hkind
    · rw [if_neg hany]
      have hall : ∀ r ∈ index, ¬ IsAskedFor kind .nothing r := fun r hr h => hany ⟨r, hr, h⟩
      rw [Except.ok.injEq, List.reverse_nil, eq_comm]
      exact ⟨fun h => ⟨fun _ => Or.inr hall, h⟩, fun h => h.2⟩

/-! ### What it takes -/

theorem one_le_of_inRange {n m : Int} : inRange 1 (some m) n = true ↔ 1 ≤ n ∧ n ≤ m := by
  simp [inRange]

/-- Declarations are listed if the number that is asked for is in its range, the kind is one, and the
    package and its index are found. -/
theorem yields_listDeclarations_iff :
    Yields (listDeclarations package root kind name limit indexes) s (.declarations p found) s' ↔
      ∃ c n wanted index, s.config = .ok c ∧ limit.number? = some n ∧
        inRange 1 (some c.maxSymbolResults) n = true ∧ wantedKind kind = .ok wanted ∧
        Yields (findIndexed package root indexes) { s with settings := some c } (some (p, index))
          s' ∧
        pickFrom wanted name n [] index = .ok found := by
  unfold listDeclarations
  constructor
  · intro h
    obtain ⟨c, hc, h⟩ := yields_currentSettings_bind.mp h
    obtain ⟨n, hnumber, hrange, h⟩ := yields_requireRange_bind.mp h
    obtain ⟨wanted, hwanted, h⟩ := yields_orFault_bind.mp h
    obtain ⟨indexed, t, hindexed, h⟩ := yields_bind.mp h
    rcases indexed with _ | ⟨q, index⟩
    · simp at h
    obtain ⟨chosen, hchosen, h⟩ := yields_orFault_bind.mp h
    obtain ⟨heq, rfl⟩ := yields_pure.mp h
    obtain ⟨rfl, rfl⟩ := Answer.declarations.inj heq
    exact ⟨c, n, wanted, index, hc, hnumber, hrange, hwanted, hindexed, hchosen⟩
  · rintro ⟨c, n, wanted, index, hc, hnumber, hrange, hwanted, hindexed, hchosen⟩
    refine yields_currentSettings_bind.mpr ⟨c, hc, ?_⟩
    refine yields_requireRange_bind.mpr ⟨n, hnumber, hrange, ?_⟩
    refine yields_orFault_bind.mpr ⟨wanted, hwanted, ?_⟩
    refine yields_bind.mpr ⟨_, s', hindexed, ?_⟩
    exact yields_orFault_bind.mpr ⟨found, hchosen, yields_pure.mpr ⟨rfl, rfl⟩⟩

/-! ### The index that calls look at -/

/-- In a session that goes by the settings `c`, arguments for a package, a project and indexes lead
    to a package with an index. -/
structure Finds (c : Settings) (s : Session) (package root indexes : Argument) (p : Package)
    (index : List Record) : Prop where
  config : s.config = .ok c
  indexed : ∃ s', Yields (findIndexed package root indexes) { s with settings := some c }
    (some (p, index)) s'

theorem Finds.unique {c : Settings} {q : Package} {other : List Record}
    (h : Finds c s package root indexes p index)
    (h' : Yields (findIndexed package root indexes) { s with settings := some c }
      (some (q, other)) s') : q = p ∧ other = index := by
  obtain ⟨t, ht⟩ := h.indexed
  exact Prod.mk.inj (Option.some.inj (h'.unique ht))

/-- An index that was looked for is found again. -/
theorem finds_of_findIndexed {c : Settings}
    (hs : Yields (findIndexed package root indexes) { s with settings := some c }
      (some (p, index)) s') : Finds c s' package root indexes p index := by
  obtain ⟨hfound, hholds, hindex⟩ := yields_findIndexed_some.mp hs
  -- Neither the files nor the settings are changed by looking for an index.
  have hkeeps : Keeps (fun s : Session => (s.fs, s.here, s.config)) (indexOf p) := by
    refine keeps_indexBy (fun _ _ _ => rfl) (keeps_builder none (fun s settings hsettings _ => ?_))
    rw [hsettings]
    rfl
  have hsame : (s'.fs, s'.here, s'.config) = (s.fs, s.here, .ok c) := hkeeps.of_yields hindex
  obtain ⟨hfs, hhere, hconfig⟩ : s'.fs = s.fs ∧ s'.here = s.here ∧ s'.config = .ok c := by
    simpa using hsame
  obtain ⟨key, hkey, hkept⟩ := lookup?_of_yields_indexBy hindex
  refine ⟨hconfig, _, yields_findIndexed_some.mpr ⟨?_, hholds, yields_indexBy.mpr
    ⟨key, ?_, Or.inl ⟨hkept, rfl⟩⟩⟩⟩
  · exact (looksOnly_findPackage package root).yields_of_same hfound hfs hhere
  · unfold indexKey at hkey ⊢
    simp only at hkey ⊢
    rw [hfs, hhere]
    exact hkey

/-! ### Calls -/

/-- A call is about what arguments for a package, a project and indexes mean. -/
structure IsAbout (package root indexes : Argument) (args : Arguments) : Prop where
  package : args.get "module" .nothing = package
  root : args.get "root" .nothing = root
  indexes : args.get indexParameter .nothing = indexes

/-- A call lists declarations of a package. -/
def Lists (s : Session) (args : Arguments) (p : Package) (found : List Record) : Prop :=
  (Name.listSymbols.invoke args s).1 = .done (.declarations p found)

/-- The limit of a call. -/
def limitOf (args : Arguments) : Option Int := (args.get "limit" (.number 100)).number?

/-- All declarations of an index that a call asks for. -/
def allAskedFor (args : Arguments) (index : List Record) : List Record :=
  index.filter (fun r => IsAskedFor (args.get "kind" .nothing) (args.get "name" .nothing) r)

/-- A call with a limit can be answered from an index: the limit is in its range, the kind is one,
    and a text is looked for in names, unless nothing is left to look at. -/
structure Answerable (c : Settings) (index : List Record) (args : Arguments) (n : Int) : Prop where
  fits : Name.listSymbols.signature.check (args.map Prod.fst) = .ok ()
  limit : limitOf args = some n
  least : 1 ≤ n
  most : n ≤ c.maxSymbolResults
  kind : (args.get "kind" .nothing).holds = true →
    ∃ k : Kind, (args.get "kind" .nothing).text? = some k.name
  name : (args.get "name" .nothing).holds = true →
    (args.get "name" .nothing).text?.isSome = true ∨
      ∀ r ∈ index, ¬ IsAskedFor (args.get "kind" .nothing) .nothing r

/-- The limit of a call cuts nothing off. -/
def Uncut (args : Arguments) (index : List Record) : Prop :=
  ∀ n, limitOf args = some n → (allAskedFor args index).length ≤ n

section Calls

variable {c : Settings} {args args' : Arguments} {q : Package} {n : Int}

theorem run_request_eq (habout : IsAbout package root indexes args) :
    (Name.listSymbols.request args).run = listDeclarations package root
      (args.get "kind" .nothing) (args.get "name" .nothing) (args.get "limit" (.number 100))
      indexes := by
  rw [← habout.package, ← habout.root, ← habout.indexes]
  rfl

/-- A call that lists declarations looks at an index that it finds, and lists the first of all that
    it asks for. -/
theorem exists_finds_of_lists (habout : IsAbout package root indexes args)
    (hlists : Lists s args p found) :
    ∃ c index n, Finds c s package root indexes p index ∧ Answerable c index args n ∧
      found = (allAskedFor args index).take n.toNat := by
  obtain ⟨hfits, hyields⟩ := invoke_eq_done_iff.mp (invoke_eq_afterCall hlists)
  rw [run_request_eq habout] at hyields
  obtain ⟨c, n, wanted, index, hc, hnumber, hrange, hwanted, hindexed, hpick⟩ :=
    yields_listDeclarations_iff.mp hyields
  obtain ⟨hleast, hmost⟩ := one_le_of_inRange.mp hrange
  obtain ⟨hname, hfound⟩ := (pickFrom_eq_ok_iff hwanted hleast).mp hpick
  refine ⟨c, index, n, ⟨hc, _, hindexed⟩,
    ⟨hfits, hnumber, hleast, hmost, fun hholds => ?_, hname⟩, hfound⟩
  rcases wantedKind_eq_ok_iff.mp hwanted with ⟨hnone, -⟩ | ⟨-, k, htext, -⟩
  · rw [hnone] at hholds
    simp at hholds
  · exact ⟨k, htext⟩

/-- A call that can be answered from the index that is found lists the first of all that it asks
    for. -/
theorem lists_of_answerable (h : Finds c s package root indexes p index)
    (habout : IsAbout package root indexes args) (hn : Answerable c index args n) :
    Lists s args p ((allAskedFor args index).take n.toNat) := by
  obtain ⟨s', hindexed⟩ := h.indexed
  obtain ⟨wanted, hwanted⟩ : ∃ wanted, wantedKind (args.get "kind" .nothing) = .ok wanted := by
    by_cases hholds : (args.get "kind" .nothing).holds = true
    · obtain ⟨k, hk⟩ := hn.kind hholds
      exact ⟨some k, wantedKind_eq_ok_iff.mpr (Or.inr ⟨hholds, k, hk, rfl⟩)⟩
    · exact ⟨none, wantedKind_eq_ok_iff.mpr (Or.inl ⟨by simpa using hholds, rfl⟩)⟩
  have hpick : pickFrom wanted (args.get "name" .nothing) n [] index =
      .ok ((allAskedFor args index).take n.toNat) :=
    (pickFrom_eq_ok_iff hwanted hn.least).mpr ⟨hn.name, rfl⟩
  have hyields := yields_listDeclarations_iff.mpr ⟨c, n, wanted, index, h.config, hn.limit,
    one_le_of_inRange.mpr ⟨hn.least, hn.most⟩, hwanted, hindexed, hpick⟩
  rw [← run_request_eq habout] at hyields
  exact congrArg Prod.fst (invoke_eq_done_iff.mpr ⟨hn.fits, hyields⟩)

/-- Where the index is known, a call that lists declarations looks at it. -/
theorem Finds.answerable (h : Finds c s package root indexes p index)
    (habout : IsAbout package root indexes args) (hlists : Lists s args q found) :
    ∃ n, Answerable c index args n ∧ found = (allAskedFor args index).take n.toNat := by
  obtain ⟨c', other, n, h', hn, hfound⟩ := exists_finds_of_lists habout hlists
  obtain rfl : c = c' := Except.ok.inj (h.config.symm.trans h'.config)
  obtain ⟨t, ht⟩ := h'.indexed
  obtain ⟨-, rfl⟩ := h.unique ht
  exact ⟨n, hn, hfound⟩

/-- A call that lists declarations leaves the index where it found it. -/
theorem Finds.afterCall (h : Finds c s package root indexes p index)
    (habout : IsAbout package root indexes args) (hlists : Lists s args q found) :
    Finds c (s.afterCall .listSymbols args) package root indexes p index := by
  obtain ⟨-, hyields⟩ := invoke_eq_done_iff.mp (invoke_eq_afterCall hlists)
  rw [run_request_eq habout] at hyields
  obtain ⟨c', n, wanted, other, hc', -, -, -, hindexed, -⟩ :=
    yields_listDeclarations_iff.mp hyields
  obtain rfl : c = c' := Except.ok.inj (h.config.symm.trans hc')
  obtain ⟨rfl, rfl⟩ := h.unique hindexed
  exact finds_of_findIndexed hindexed

/-- What is listed in full is all that is asked for. -/
theorem Uncut.eq (huncut : Uncut args index) (h : Finds c s package root indexes p index)
    (habout : IsAbout package root indexes args) (hlists : Lists s args q found) :
    found = allAskedFor args index := by
  obtain ⟨n, hn, rfl⟩ := h.answerable habout hlists
  have hlength := huncut n hn.limit
  exact List.take_of_length_le (by omega)

end Calls

/-! ### Different limits and filters -/

/-- Calls with the same filters ask for the same. -/
theorem allAskedFor_congr {args args' : Arguments}
    (hkind : args'.get "kind" .nothing = args.get "kind" .nothing)
    (hname : args'.get "name" .nothing = args.get "name" .nothing) (index : List Record) :
    allAskedFor args' index = allAskedFor args index := by
  rw [allAskedFor, hkind, hname, allAskedFor]

/-- What both of two filters leave is what one of them leaves of what the other one does. -/
theorem allAskedFor_eq_filter {args args₁ args₂ : Arguments}
    (hboth : ∀ r, IsAskedFor (args.get "kind" .nothing) (args.get "name" .nothing) r ↔
      IsAskedFor (args₁.get "kind" .nothing) (args₁.get "name" .nothing) r ∧
        IsAskedFor (args₂.get "kind" .nothing) (args₂.get "name" .nothing) r)
    (index : List Record) :
    allAskedFor args index =
      (allAskedFor args₁ index).filter (fun r => r ∈ allAskedFor args₂ index) := by
  unfold allAskedFor
  rw [List.filter_filter]
  refine List.filter_congr (fun r hr => ?_)
  rw [Bool.eq_iff_iff, Bool.and_eq_true, decide_eq_true_iff, decide_eq_true_iff,
    decide_eq_true_iff, hboth, List.mem_filter, decide_eq_true_iff]
  exact ⟨fun h => ⟨⟨hr, h.2⟩, h.1⟩, fun h => ⟨h.2, h.1.2⟩⟩

/-- What is asked for by kind and name is asked for where only one of them is given. -/
theorem isAskedFor_iff_of_holds {kind' name' : Argument} (hname : name'.holds = false)
    (hkind : kind'.holds = false) (r : Record) :
    IsAskedFor kind name r ↔ IsAskedFor kind name' r ∧ IsAskedFor kind' name r := by
  constructor
  · exact fun h => ⟨⟨h.kind, by simp [hname]⟩, ⟨by simp [hkind], h.name⟩⟩
  · exact fun h => ⟨h.1.kind, h.2.name⟩

/-- **Lists of declarations.** A call lists the first declarations of the index that it finds, as
    many as its limit says, that have the kind and hold the text that it gives; and it is answered
    if there is an index, the limit is in its range and there is such a kind. So with a smaller
    limit calls list the first part of what they list with a larger one, and where nothing is cut
    off, a call with two filters lists what is on the lists of both, in the same order. A call
    leaves the index for the next one. -/
theorem listings_filter_then_take (s : Session) (package root indexes : Argument) :
    (∀ args p found, IsAbout package root indexes args →
      (Lists s args p found ↔
        ∃ c index n, Finds c s package root indexes p index ∧ Answerable c index args n ∧
          found = (allAskedFor args index).take n.toNat)) ∧
    (∀ args args' p p' found found' n n', IsAbout package root indexes args →
      IsAbout package root indexes args' →
      args'.get "kind" .nothing = args.get "kind" .nothing →
      args'.get "name" .nothing = args.get "name" .nothing →
      limitOf args = some n → limitOf args' = some n' → n ≤ n' →
      Lists s args p found → Lists s args' p' found' → found <+: found') ∧
    ∀ c p index, Finds c s package root indexes p index →
      (∀ args args₁ args₂ q q₁ q₂ found found₁ found₂, IsAbout package root indexes args →
        IsAbout package root indexes args₁ → IsAbout package root indexes args₂ →
        args₁.get "kind" .nothing = args.get "kind" .nothing →
        (args₁.get "name" .nothing).holds = false →
        (args₂.get "kind" .nothing).holds = false →
        args₂.get "name" .nothing = args.get "name" .nothing →
        Uncut args index → Uncut args₁ index → Uncut args₂ index →
        Lists s args q found → Lists s args₁ q₁ found₁ → Lists s args₂ q₂ found₂ →
        found = found₁.filter (fun r => r ∈ found₂) ∧
          found = found₂.filter (fun r => r ∈ found₁)) ∧
      ∀ args q found, IsAbout package root indexes args → Lists s args q found →
        Finds c (s.afterCall .listSymbols args) package root indexes p index := by
  refine ⟨fun args p found habout => ⟨exists_finds_of_lists habout, ?_⟩, ?_, fun c p index h =>
    ⟨?_, fun args q found habout hlists => h.afterCall habout hlists⟩⟩
  · rintro ⟨c, index, n, h, hn, rfl⟩
    exact lists_of_answerable h habout hn
  · intro args args' p p' found found' n n' habout habout' hkind hname hn hn' hle hlists hlists'
    obtain ⟨c, index, m, h, hm, rfl⟩ := exists_finds_of_lists habout hlists
    obtain ⟨m', hm', rfl⟩ := h.answerable habout' hlists'
    obtain rfl : m = n := Option.some.inj (hm.limit.symm.trans hn)
    obtain rfl : m' = n' := Option.some.inj (hm'.limit.symm.trans hn')
    rw [allAskedFor_congr hkind hname]
    exact List.take_prefix_take_left (by omega)
  · intro args args₁ args₂ q q₁ q₂ found found₁ found₂ habout habout₁ habout₂ hkind hname hkind'
      hname' huncut huncut₁ huncut₂ hlists hlists₁ hlists₂
    obtain rfl := huncut.eq h habout hlists
    obtain rfl := huncut₁.eq h habout₁ hlists₁
    obtain rfl := huncut₂.eq h habout₂ hlists₂
    have hboth : ∀ r, IsAskedFor (args.get "kind" .nothing) (args.get "name" .nothing) r ↔
        IsAskedFor (args₁.get "kind" .nothing) (args₁.get "name" .nothing) r ∧
          IsAskedFor (args₂.get "kind" .nothing) (args₂.get "name" .nothing) r := by
      intro r
      rw [hkind, hname']
      exact isAskedFor_iff_of_holds hname hkind' r
    exact ⟨allAskedFor_eq_filter hboth index,
      allAskedFor_eq_filter (fun r => (hboth r).trans and_comm) index⟩

/-- A declaration of a kind and a name. -/
def mixedRecord (kind : Kind) (name : String) : Record := ⟨kind, name, "x.ts", 1, 1, name⟩

/-- Declarations of some kinds; a text is in the names of three of them. -/
def mixedRecords : List Record :=
  [mixedRecord .enum "Mode", mixedRecord .function "load", mixedRecord .class "Loader",
    mixedRecord .function "main", mixedRecord .function "unload"]

/-- Settings with small limits. -/
def mixedSettings : Settings := ⟨10, 10, 10, 10, 10, "/D", false, .info⟩

/-- A session in the small project that keeps an index with these declarations. -/
def mixedSession : Session :=
  { smallSession with
    settings := some mixedSettings, index := ⟨[("/W/node_modules/a", mixedRecords)], 0, 1, none⟩ }

/-- A call for declarations of the package in the small project. -/
def mixedCall (limit : Int) (kind name : Argument) : Arguments :=
  [("module", .text "a"), ("kind", kind), ("name", name), ("limit", .number limit)]

theorem isAbout_mixedCall (limit : Int) (kind name : Argument) :
    IsAbout (.text "a") .nothing .nothing (mixedCall limit kind name) := ⟨rfl, rfl, rfl⟩

/-- The calls for functions, for names with a text and for both are answered. -/
theorem answerable_mixedCall {limit : Int} (hleast : 1 ≤ limit) (hmost : limit ≤ 10)
    (hkind : kind = .nothing ∨ kind = .text "function")
    (hname : name = .nothing ∨ name = .text "oad") :
    Answerable mixedSettings mixedRecords (mixedCall limit kind name) limit where
  fits := by
    show Name.listSymbols.signature.check ["module", "kind", "name", "limit"] = .ok ()
    decide
  limit := rfl
  least := hleast
  most := hmost
  kind := by
    rcases hkind with rfl | rfl
    · exact nofun
    · exact fun _ => ⟨.function, rfl⟩
  name := by
    rcases hname with rfl | rfl
    · exact nofun
    · exact fun _ => Or.inl rfl

/-- Functions in whose names there is a text: with a limit that cuts nothing off, and with one that
    leaves only the first. A class has a name with the text too, and another function has none. -/
theorem listings_filter_then_take_mixed :
    let a := smallPackage "a"
    let load := mixedRecord .function "load"
    let loader := mixedRecord .class "Loader"
    let main := mixedRecord .function "main"
    let unload := mixedRecord .function "unload"
    let kind := Argument.text "function"
    let name := Argument.text "oad"
    Lists mixedSession (mixedCall 9 kind name) a [load, unload] ∧
    Lists mixedSession (mixedCall 1 kind name) a [load] ∧ [load] <+: [load, unload] ∧
    Lists mixedSession (mixedCall 9 kind .nothing) a [load, main, unload] ∧
    Lists mixedSession (mixedCall 9 .nothing name) a [load, loader, unload] ∧
    [load, unload] = [load, main, unload].filter (fun r => r ∈ [load, loader, unload]) ∧
    Finds mixedSettings (mixedSession.afterCall .listSymbols (mixedCall 9 kind name)) (.text "a")
      .nothing .nothing a mixedRecords := by
  intro a load loader main unload kind name
  obtain ⟨hiff, hprefix, hrest⟩ :=
    listings_filter_then_take mixedSession (.text "a") .nothing .nothing
  have hfinds : Finds mixedSettings mixedSession (.text "a") .nothing .nothing a mixedRecords := by
    refine ⟨rfl, _, yields_findIndexed_some.mpr ⟨?_, rfl, yields_indexBy.mpr
      ⟨"/W/node_modules/a", by decide +kernel, Or.inl ⟨rfl, rfl⟩⟩⟩⟩
    exact (looksOnly_findPackage _ _).yields_of_fst (by decide +kernel)
  obtain ⟨hboth, hafter⟩ := hrest _ _ _ hfinds
  have hall : Lists mixedSession (mixedCall 9 kind name) a [load, unload] :=
    (hiff _ _ _ (isAbout_mixedCall 9 kind name)).mpr ⟨_, _, 9, hfinds,
      answerable_mixedCall (by decide) (by decide) (Or.inr rfl) (Or.inr rfl), rfl⟩
  have hfirst : Lists mixedSession (mixedCall 1 kind name) a [load] :=
    (hiff _ _ _ (isAbout_mixedCall 1 kind name)).mpr ⟨_, _, 1, hfinds,
      answerable_mixedCall (by decide) (by decide) (Or.inr rfl) (Or.inr rfl), rfl⟩
  have hkind : Lists mixedSession (mixedCall 9 kind .nothing) a [load, main, unload] :=
    (hiff _ _ _ (isAbout_mixedCall 9 kind .nothing)).mpr ⟨_, _, 9, hfinds,
      answerable_mixedCall (by decide) (by decide) (Or.inr rfl) (Or.inl rfl), rfl⟩
  have hname : Lists mixedSession (mixedCall 9 .nothing name) a [load, loader, unload] :=
    (hiff _ _ _ (isAbout_mixedCall 9 .nothing name)).mpr ⟨_, _, 9, hfinds,
      answerable_mixedCall (by decide) (by decide) (Or.inl rfl) (Or.inr rfl), rfl⟩
  have huncut : ∀ kind name, Uncut (mixedCall 9 kind name) mixedRecords := by
    intro kind name n hn
    obtain rfl : 9 = n := Option.some.inj hn
    have hlength := List.length_filter_le (fun r => decide (IsAskedFor kind name r)) mixedRecords
    exact Int.ofNat_le.mpr (hlength.trans (by decide))
  refine ⟨hall, hfirst, ?_, hkind, hname, ?_, ?_⟩
  · exact hprefix (mixedCall 1 kind name) (mixedCall 9 kind name) a a _ _ 1 9
      (isAbout_mixedCall _ _ _)
      (isAbout_mixedCall _ _ _) rfl rfl rfl rfl (by decide) hfirst hall
  · exact (hboth (mixedCall 9 kind name) (mixedCall 9 kind .nothing) (mixedCall 9 .nothing name) a a
      a _ _ _ (isAbout_mixedCall _ _ _) (isAbout_mixedCall _ _ _) (isAbout_mixedCall _ _ _) rfl rfl
      rfl rfl (huncut _ _) (huncut _ _) (huncut _ _) hall hkind hname).1
  · exact hafter (mixedCall 9 kind name) a _ (isAbout_mixedCall _ _ _) hall

end PackageAtlas.Tool
