import PackageAtlas.Proofs.Text.Lines
import PackageAtlas.Proofs.Tool.ReadOnly
import PackageAtlas.Proofs.Tool.Transparency

namespace PackageAtlas.Tool

open Declaration (IndexCache Indexer Record)

/-!
# What calls do to the indexes

A call of a tool asks for the declarations of one package or of none, and that is all it does to
the indexes:

* `Session.holdings`, `Session.copied`: what is kept of declarations and of documentation;
* `Session.request`, `request_eq`: what a request gives and does to the indexes, whether it fails or
  not; `Requested`: the three things that it can do;
* `Name.admits`, `Name.asked?`: whether a call is looked into, and the package that it asks for;
* `holdings_invoke`: a call does to the indexes what the request for that package does;
* `calls_ask_once_at_most`: calls by name.
-/

variable {β : Type} {s : Session} {p : Package} {t : Name} {args : Arguments}

/-! ### What is kept -/

/-- The indexes that are kept, and how often they were asked for with and without success. -/
def Session.holdings (s : Session) : List (String × List Record) × Nat × Nat :=
  (s.index.entries, s.index.hits, s.index.misses)

/-- The files of packages that are known to be copied. -/
def Session.copied (s : Session) : List (String × List String) :=
  (s.replica.map Docs.Replica.memo).getD []

theorem Session.holdings_eq_iff {entries : List (String × List Record)} {hits misses : Nat} :
    s.holdings = (entries, hits, misses) ↔
      s.index.entries = entries ∧ s.index.hits = hits ∧ s.index.misses = misses := by
  simp [Session.holdings]

theorem overlooks_copied : Overlooks Session.copied where
  settings _ _ _ := rfl
  replica s settings hs _ := by
    rw [Session.copied, Session.copied, hs]
    rfl
  index _ _ := rfl

theorem overlooksSetup_holdings : OverlooksSetup Session.holdings where
  settings _ _ _ := rfl
  replica _ _ _ _ := rfl

/-! ### Requests -/

/-- The index that a session would make of the files of a package. -/
def Session.built (s : Session) (given : Option Indexer) (p : Package) :
    Except Fault (List Record) := do
  let indexer ← (s.indexerFor given).mapError Fault.settings
  (indexer.index s.fs s.here p.directory s.parse).mapError Fault.file

/-- What a request for the index of a package comes to, apart from what is made on the way: it is a
    hit or a miss if there is a key, and what is made is kept. -/
def Session.request (s : Session) (given : Option Indexer) (p : Package) :
    Except Fault (List Record) × Session :=
  match indexKey s p with
  | .error e => (.error (.file e), s)
  | .ok key => match s.index.lookup? key with
    | some index => (.ok index, { s with index := s.index.hit })
    | none => match s.built given p with
      | .ok index => (.ok index, { s with index := s.index.miss.store key index })
      | .error fault => (.error fault, { s with index := s.index.miss })

/-- **One request.** -/
theorem request_eq (given : Option Indexer) (p : Package) (s : Session) :
    (outcome (indexBy given p) s).1 = (s.request given p).1 ∧
      (s.after (indexBy given p)).holdings = (s.request given p).2.holdings := by
  -- What makes indexes is found without a change to those that are kept.
  obtain ⟨t, ht, hb⟩ : ∃ t : Session,
      t.holdings = ({ s with index := s.index.miss } : Session).holdings ∧
      outcome (builder given) { s with index := s.index.miss } =
        ((s.indexerFor given).mapError .settings, t) := by
    have hkept : Keeps Session.holdings (builder given) :=
      keeps_builder given (fun _ _ _ _ => rfl)
    exact ⟨_, hkept { s with index := s.index.miss }, Prod.ext (outcome_builder_fst given _) rfl⟩
  unfold Session.after Session.request
  rw [outcome_indexBy, hb]
  rcases indexKey s p with e | key
  · exact ⟨rfl, rfl⟩
  simp only
  rcases s.index.lookup? key with _ | found
  · unfold Session.built
    rcases s.indexerFor given with e | indexer
    · exact ⟨rfl, ht⟩
    · simp only [mapError_ok, bind, Except.bind]
      rcases indexer.index s.fs s.here p.directory s.parse with e | made
      · exact ⟨rfl, ht⟩
      · obtain ⟨hentries, hcounts⟩ := Prod.mk.inj ht
        exact ⟨rfl, Prod.ext (congrArg (· ++ [(key, made)]) hentries) hcounts⟩
  · exact ⟨rfl, rfl⟩

/-- A request for a package without a key leaves the indexes as they are. -/
theorem holdings_of_no_key {e : FileError} (h : indexKey s p = .error e) (given : Option Indexer) :
    (s.after (indexBy given p)).holdings = s.holdings := by
  rw [(request_eq given p s).2, Session.request, h]

/-- What a request for the index of a key gives, and the session that it leaves: it is a hit, or a
    miss that leaves an index if one could be made. -/
inductive Requested (s : Session) (key : String) : Except Fault (List Record) → Session → Prop
  | hit {index : List Record} {s' : Session} (hlook : s.index.lookup? key = some index)
      (hleft : s'.holdings = (s.index.entries, s.index.hits + 1, s.index.misses)) :
      Requested s key (.ok index) s'
  | failed {fault : Fault} {s' : Session} (hlook : s.index.lookup? key = none)
      (hleft : s'.holdings = (s.index.entries, s.index.hits, s.index.misses + 1)) :
      Requested s key (.error fault) s'
  | made {index : List Record} {s' : Session} (hlook : s.index.lookup? key = none)
      (hleft : s'.holdings =
        (s.index.entries ++ [(key, index)], s.index.hits, s.index.misses + 1)) :
      Requested s key (.ok index) s'

theorem requested_of_indexKey {key : String} (hkey : indexKey s p = .ok key)
    (given : Option Indexer) :
    Requested s key (outcome (indexBy given p) s).1 (s.after (indexBy given p)) := by
  obtain ⟨hgiven, hleft⟩ := request_eq given p s
  rw [hgiven]
  rw [Session.request, hkey] at hleft ⊢
  simp only at hleft ⊢
  rcases hlook : s.index.lookup? key with _ | found
  · rw [hlook] at hleft
    rcases hbuilt : s.built given p with e | index
    · rw [hbuilt] at hleft
      exact .failed hlook hleft
    · rw [hbuilt] at hleft
      exact .made hlook hleft
  · rw [hlook] at hleft
    exact .hit hlook hleft

/-! ### What calls ask for -/

theorem after_currentSettings_bind (f : Settings → Action β) (s : Session) :
    s.after (currentSettings >>= f) = match s.config with
      | .ok settings => ({ s with settings := some settings } : Session).after (f settings)
      | .error _ => s := by
  unfold Session.after
  rw [outcome_bind, outcome_currentSettings]
  rcases s.config with e | settings <;> rfl

/-- Whether an argument counts as a number in a range. -/
def Argument.isIn (least : Int) (most : Option Int) (a : Argument) : Bool :=
  a.number?.any (inRange least most)

theorem isOk_requireRange (label : String) (least : Int) (most : Option Int) (value : Argument)
    (s : Session) :
    (outcome (requireRange label least most value) s).1.isOk = value.isIn least most := by
  unfold requireRange Argument.isIn
  rcases value.number? with _ | n
  · rfl
  · simp only [outcome_bind, outcome_orFault, checkRange, Option.any_some]
    cases inRange least most n <;> rfl

/-- The package whose declarations are looked for, if there is one and nothing is given in the place
    of the indexes. -/
def sought? (name root indexes : Argument) (s : Session) : Option Package :=
  if indexes.holds then none
  else match (outcome (findPackage name root) s).1 with
    | .ok found => found
    | .error _ => none

/-- The session after the declarations of a package are asked for, if there is one. -/
def Session.afterAsking (s : Session) : Option Package → Session
  | some p => s.after (indexOf p)
  | none => s

theorem after_findIndexed (name root indexes : Argument) (s : Session) :
    s.after (findIndexed name root indexes) = s.afterAsking (sought? name root indexes s) := by
  unfold findIndexed sought?
  rw [(looksOnly_findPackage name root).after_bind]
  rcases (outcome (findPackage name root) s).1 with e | found
  · simp only [ite_self]
    rfl
  rcases found with _ | p
  · simp only [ite_self]
    rfl
  · simp only
    split
    · rfl
    · unfold Session.afterAsking Session.after
      simp only [outcome_bind]
      rcases outcome (indexOf p) s with ⟨e | index, t⟩ <;> rfl

/-- Settings that are gone by already make no difference to what is asked for. -/
theorem holdings_afterAsking_settings {settings : Settings} (hs : s.config = .ok settings)
    (name root indexes : Argument) :
    (({ s with settings := some settings } : Session).afterAsking
        (sought? name root indexes { s with settings := some settings })).holdings =
      (s.afterAsking (sought? name root indexes s)).holdings := by
  have hsought : sought? name root indexes { s with settings := some settings } =
      sought? name root indexes s := by
    unfold sought?
    rw [(looksOnly_findPackage name root).same { s with settings := some settings } s rfl rfl]
  rw [hsought]
  rcases sought? name root indexes s with _ | p
  · rfl
  · have hbuilt : ({ s with settings := some settings } : Session).built none p =
        s.built none p := by
      unfold Session.built Session.indexerFor
      rw [hs]
      rfl
    unfold Session.afterAsking indexOf
    simp only
    rw [(request_eq none p _).2, (request_eq none p s).2, Session.request, Session.request, hbuilt]
    show (match indexKey s p with
      | .error e => (Except.error (Fault.file e), _)
      | .ok key => _ : Except Fault (List Record) × Session).2.holdings = _
    rcases indexKey s p with e | key
    · rfl
    · simp only
      rcases s.index.lookup? key with _ | found
      · rcases s.built none p with e | index <;> rfl
      · rfl

theorem holdings_after_listDeclarations (package root kind name limit indexes : Argument)
    (s : Session) :
    (s.after (listDeclarations package root kind name limit indexes)).holdings =
      (s.afterAsking (bif (s.config.toOption.any fun c =>
          limit.isIn 1 (some c.maxSymbolResults)) && (wantedKind kind).isOk
        then sought? package root indexes s else none)).holdings := by
  rw [after_listDeclarations, after_currentSettings_bind]
  rcases hs : s.config with e | c
  · rfl
  have hlimit := isOk_requireRange "limit" 1 (some c.maxSymbolResults) limit
    { s with settings := some c }
  simp only [Except.toOption, Option.any_some]
  rw [(looksOnly_requireRange _ _ _ _).after_bind, ← hlimit]
  rcases (outcome (requireRange "limit" 1 (some c.maxSymbolResults) limit)
    { s with settings := some c }).1 with e | n
  · rfl
  simp only
  rw [(LooksOnly.orFault _ _).after_bind, outcome_orFault]
  rcases wantedKind kind with e | wanted
  · rfl
  simp only [mapError_ok]
  rw [after_findIndexed]
  exact holdings_afterAsking_settings hs package root indexes

theorem holdings_after_readDeclaration (package file name root padding indexes : Argument)
    (s : Session) :
    (s.after (readDeclaration package file name root padding indexes)).holdings =
      (s.afterAsking (bif padding.isIn 0 none
        then sought? package root indexes s else none)).holdings := by
  have hpadding := isOk_requireRange "padding" 0 none padding s
  rw [after_readDeclaration, (looksOnly_requireRange _ _ _ _).after_bind, ← hpadding]
  rcases (outcome (requireRange "padding" 0 none padding) s).1 with e | n
  · rfl
  simp only
  rw [after_findIndexed]
  rfl

/-! ### Calls -/

/-- Whether a call is looked into: a tool for declarations is called, its arguments fit, the number
    among them is in its range, and they name no kind that there is not. -/
def Name.admits (t : Name) (args : Arguments) (s : Session) : Bool :=
  (t.signature.check (args.map Prod.fst)).isOk && match t with
    | .listSymbols =>
      (s.config.toOption.any fun c =>
        (args.get "limit" (.number 100)).isIn 1 (some c.maxSymbolResults)) &&
        (wantedKind (args.get "kind" .nothing)).isOk
    | .getSymbol => (args.get "padding" (.number 10)).isIn 0 none
    | _ => false

/-- The package whose declarations a call asks for. -/
def Name.asked? (t : Name) (args : Arguments) (s : Session) : Option Package :=
  bif t.admits args s then
    sought? (args.get "module" .nothing) (args.get "root" .nothing)
      (args.get indexParameter .nothing) s
  else none

/-- A package is asked for if it is the one that is meant, and nothing is given in the place of the
    indexes. -/
theorem Name.asked?_eq_some_iff :
    t.asked? args s = some p ↔ t.admits args s = true ∧
      (args.get indexParameter .nothing).holds = false ∧ Means args s p := by
  unfold asked? sought?
  cases t.admits args s
  · simp
  cases (args.get indexParameter .nothing).holds
  · simp only [cond_true, Bool.false_eq_true, if_false, true_and]
    constructor
    · intro h
      refine means_of_yields ((looksOnly_findPackage _ _).yields_of_fst (s := s) ?_)
      rcases hfst : (outcome (findPackage (args.get "module" .nothing)
        (args.get "root" .nothing)) s).1 with e | found
      · simp [hfst] at h
      · rw [hfst] at h
        exact congrArg Except.ok h
    · rintro ⟨name, top, hname, htop, hfind⟩
      have hyields := yields_findPackage_some.mpr ⟨name, top, hname, htop, hfind, rfl⟩
      rw [show outcome _ s = _ from hyields]
  · simp

/-- **One call.** A call does to the indexes what a request for the package that it asks for does, and
    nothing if it asks for none. -/
theorem holdings_invoke (t : Name) (args : Arguments) (s : Session) :
    (t.invoke args s).2.holdings = (s.afterAsking (t.asked? args s)).holdings := by
  have hafter : (t.invoke args s).2 = bif (t.signature.check (args.map Prod.fst)).isOk
      then s.after (t.request args).run else s := by
    rw [invoke_eq]
    rcases t.signature.check (args.map Prod.fst) with e | ⟨⟩
    · rfl
    · unfold Session.after
      simp only
      rcases outcome (t.request args).run s with ⟨e | a, u⟩ <;> rfl
  rw [hafter]
  unfold Name.asked? Name.admits
  rcases t.signature.check (args.map Prod.fst) with e | ⟨⟩
  · rfl
  cases t with
  | listModules => exact keeps_listPackages _ _ s
  | search => exact overlooksSetup_holdings.keeps_searchPackage _ _ _ _ _ _ _ s
  | readFile => exact overlooksSetup_holdings.keeps_readFile _ _ _ _ _ _ s
  | listSymbols => exact holdings_after_listDeclarations _ _ _ _ _ _ s
  | getSymbol => exact holdings_after_readDeclaration _ _ _ _ _ _ s
  | getIndexStats => exact keeps_countIndexes _ s

/-- There is a key for every package that is meant. -/
theorem exists_indexKey_of_means (hfs : s.fs.WellFormed) (h : Means args s p) :
    ∃ key, indexKey s p = .ok key := by
  obtain ⟨name, top, -, htop, hfind⟩ := h
  obtain ⟨hnormal, loc, hloc⟩ :=
    (Package.isListed_of_find? hfind).isNormal_directory hfs (isNormal_of_rootOf htop)
  have hfull : s.here.absolute p.directory = .ok (Path.normalize p.directory) := by
    rw [Standpoint.absolute, if_pos hnormal.isAbsolute_eq]
  obtain ⟨-, hclean⟩ := FileSystem.ne_empty_of_find? (FileSystem.settled_of_absolute hfull) hloc
  exact ⟨_, FileSystem.canonical_eq_ok_iff.mpr ⟨hclean, ⟨_, hfull⟩, rfl⟩⟩

/-- The name of a tool is none of its arguments. -/
theorem Name.not_isSome_lookup_toolParameter (h : t.admits args s = true) :
    (args.lookup toolParameter).isSome = false := by
  by_contra hsome
  rw [Bool.not_eq_false, List.lookup_isSome_iff] at hsome
  obtain ⟨⟨name, a⟩, ha, hname⟩ := hsome
  obtain rfl : toolParameter = name := eq_of_beq hname
  -- No signature has such a parameter, and a call with an unknown one is refused.
  have hunknown : t.signature.has toolParameter = false := by
    cases t <;> decide
  have hok : (t.signature.check (args.map Prod.fst)).isOk = true := by
    unfold admits at h
    exact (Bool.and_eq_true_iff.mp h).1
  unfold Signature.check at hok
  split at hok
  · simp [Except.isOk, Except.toBool] at hok
  · rename_i hnone
    have hknown := List.find?_eq_none.mp hnone _ (List.mem_map_of_mem (f := Prod.fst) ha)
    simp [hunknown] at hknown

/-- Calls by name are calls of tools; a call that cannot be made changes nothing. -/
theorem behind_tool (name : String) (args : Arguments) (s : Session) :
    Operation.behind (.tool name args) s =
      if (args.lookup toolParameter).isSome then s
      else match Name.ofText? name with
        | some t => (t.invoke args s).2
        | none => s := by
  rw [Operation.behind, call]
  by_cases hrepeated : (args.lookup toolParameter).isSome = true
  · rw [if_pos hrepeated, if_pos hrepeated]
  · rw [if_neg hrepeated, if_neg hrepeated]
    rcases Name.ofText? name with _ | t <;> rfl

/-- The package whose declarations a call by name asks for. -/
def askedBy? (name : String) (args : Arguments) (s : Session) : Option Package :=
  (Name.ofText? name).bind (·.asked? args s)

/-- **One call by name.** -/
theorem holdings_behind_tool (name : String) (args : Arguments) (s : Session) :
    (Operation.behind (.tool name args) s).holdings =
      (s.afterAsking (askedBy? name args s)).holdings := by
  rw [behind_tool]
  unfold askedBy?
  rcases Name.ofText? name with _ | t
  · simp only [ite_self]
    rfl
  simp only [Option.bind_some]
  rcases hp : t.asked? args s with _ | p
  · split
    · rfl
    · rw [holdings_invoke, hp]
  · -- A call that asks for a package can be made.
    rw [Name.not_isSome_lookup_toolParameter (Name.asked?_eq_some_iff.mp hp).1]
    simp only [Bool.false_eq_true, if_false]
    rw [holdings_invoke, hp]

theorem askedBy?_eq_some_iff {name : String} :
    askedBy? name args s = some p ↔ ∃ t, Name.ofText? name = some t ∧ t.admits args s = true ∧
      (args.get indexParameter .nothing).holds = false ∧ Means args s p := by
  unfold askedBy?
  simp only [Option.bind_eq_some_iff, Name.asked?_eq_some_iff]

/-- Calls that come to no package leave the indexes as they are. -/
theorem holdings_behind_tool_of_none {name : String} (h : ∀ p, askedBy? name args s ≠ some p) :
    (Operation.behind (.tool name args) s).holdings = s.holdings := by
  rw [holdings_behind_tool, Option.eq_none_iff_forall_ne_some.mpr h]
  rfl

/-- Indexes that are kept stay. -/
theorem entries_prefix_afterAsking (s : Session) (asked : Option Package) :
    s.index.entries <+: (s.afterAsking asked).index.entries := by
  rcases asked with _ | p
  · exact List.prefix_rfl
  rcases hkey : indexKey s p with e | key
  · exact (Session.holdings_eq_iff.mp (holdings_of_no_key hkey none)).1 ▸ List.prefix_rfl
  · obtain ⟨given, hasked⟩ : ∃ given, Requested s key given (s.after (indexOf p)) :=
      ⟨_, requested_of_indexKey hkey none⟩
    cases hasked with
    | hit _ hleft => exact (Prod.mk.inj hleft).1 ▸ List.prefix_rfl
    | failed _ hleft => exact (Prod.mk.inj hleft).1 ▸ List.prefix_rfl
    | made _ hleft => exact (Prod.mk.inj hleft).1 ▸ List.prefix_append _ _

/-- **Calls ask once at most.** A call by name leaves what is known to be copied as it is, and all
    indexes that are kept. It does nothing to them if it is for another tool, if it is refused before
    a package is looked for, if it means no package, or if something is given in the place of the
    indexes. Otherwise it is counted once, as a hit or as a miss, whether it fails or not, and leaves
    one more index at most, under the key of its package. -/
theorem calls_ask_once_at_most {s : Session} (hfs : s.fs.WellFormed) (name : String)
    (args : Arguments) :
    let s' := Operation.behind (.tool name args) s
    s'.copied = s.copied ∧ s.index.entries <+: s'.index.entries ∧
    (name ∉ [Name.listSymbols.text, Name.getSymbol.text] ∨
        (∀ t, Name.ofText? name = some t → t.admits args s = false) ∨ (∀ p, ¬ Means args s p) ∨
        (args.get indexParameter .nothing).holds = true →
      s'.index.entries = s.index.entries ∧ s'.index.hits = s.index.hits ∧
        s'.index.misses = s.index.misses) ∧
    ∀ t p, Name.ofText? name = some t → t.admits args s = true → Means args s p →
      (args.get indexParameter .nothing).holds = false →
      ∃ key, indexKey s p = .ok key ∧
        (((s.index.lookup? key).isSome = true ∧ s'.index.hits = s.index.hits + 1 ∧
            s'.index.misses = s.index.misses ∧ s'.index.entries = s.index.entries) ∨
          (s.index.lookup? key = none ∧ s'.index.hits = s.index.hits ∧
            s'.index.misses = s.index.misses + 1 ∧ (s'.index.entries = s.index.entries ∨
              ∃ index, s'.index.entries = s.index.entries ++ [(key, index)]))) := by
  intro s'
  have hs' : s'.holdings = (s.afterAsking (askedBy? name args s)).holdings :=
    holdings_behind_tool name args s
  refine ⟨overlooks_copied.behind_tool name args s, ?_, fun h => ?_,
    fun t p ht hadmits hmeans hnone => ?_⟩
  · rw [(Session.holdings_eq_iff.mp hs').1]
    exact entries_prefix_afterAsking s _
  · refine Session.holdings_eq_iff.mp (holdings_behind_tool_of_none (fun p hp => ?_))
    obtain ⟨t, ht, hadmits, hnone, hmeans⟩ := askedBy?_eq_some_iff.mp hp
    rcases h with hname | hrefused | habsent | hgiven
    · have htext : t.text = name := by simpa using List.find?_some ht
      cases t <;> simp_all [Name.admits]
    · rw [hrefused t ht] at hadmits
      simp at hadmits
    · exact habsent p hmeans
    · rw [hgiven] at hnone
      simp at hnone
  · obtain ⟨key, hkey⟩ := exists_indexKey_of_means hfs hmeans
    rw [askedBy?_eq_some_iff.mpr ⟨t, ht, hadmits, hnone, hmeans⟩] at hs'
    obtain ⟨given, hasked⟩ : ∃ given, Requested s key given (s.after (indexOf p)) :=
      ⟨_, requested_of_indexKey hkey none⟩
    refine ⟨key, hkey, ?_⟩
    cases hasked with
    | hit hlook hleft =>
      obtain ⟨hentries, hhits, hmisses⟩ := Session.holdings_eq_iff.mp (hs'.trans hleft)
      exact Or.inl ⟨by rw [hlook]; rfl, hhits, hmisses, hentries⟩
    | failed hlook hleft =>
      obtain ⟨hentries, hhits, hmisses⟩ := Session.holdings_eq_iff.mp (hs'.trans hleft)
      exact Or.inr ⟨hlook, hhits, hmisses, Or.inl hentries⟩
    | made hlook hleft =>
      obtain ⟨hentries, hhits, hmisses⟩ := Session.holdings_eq_iff.mp (hs'.trans hleft)
      exact Or.inr ⟨hlook, hhits, hmisses, Or.inr ⟨_, hentries⟩⟩

/-! ### Calls in the small project -/

/-- The declaration in the small project is asked for. -/
def askingArguments : Arguments :=
  [("module", .text "a"), ("file", .text "x.ts"), ("name", .text "A")]

/-- All declarations are asked for, with something else in the place of the indexes. -/
def strayArguments : Arguments := [("module", .text "a"), ("cache", .text "x")]

theorem means_smallPackage (h : args.get "module" .nothing = .text "a")
    (hroot : args.get "root" .nothing = .nothing) : Means args smallSession (smallPackage "a") := by
  refine means_of_yields ((looksOnly_findPackage _ _).yields_of_fst (s := smallSession) ?_)
  rw [h, hroot]
  decide +kernel

/-- The first call in the small project is a miss. -/
theorem calls_ask_once_at_most_small :
    smallSession.fs.WellFormed ∧ Name.getSymbol.admits askingArguments smallSession = true ∧
    Means askingArguments smallSession (smallPackage "a") ∧
    (Operation.behind (.tool "get_symbol" askingArguments) smallSession).index.misses = 1 := by
  have hfs : smallSession.fs.WellFormed := by decide +kernel
  have hadmits : Name.getSymbol.admits askingArguments smallSession = true := by decide +kernel
  have hmeans : Means askingArguments smallSession (smallPackage "a") := means_smallPackage rfl rfl
  refine ⟨hfs, hadmits, hmeans, ?_⟩
  obtain ⟨-, -, -, hcall⟩ := calls_ask_once_at_most hfs "get_symbol" askingArguments
  obtain ⟨key, -, ⟨hlook, -⟩ | ⟨-, -, hmisses, -⟩⟩ :=
    hcall .getSymbol _ (by decide) hadmits hmeans rfl
  · simp [smallSession, Session.new, IndexCache.new, IndexCache.lookup?] at hlook
  · exact hmisses

/-- **A call that is not counted.** It is not refused and means a package, but something else is given
    in the place of the indexes. -/
theorem call_not_counted :
    Name.ofText? "list_symbols" = some .listSymbols ∧
    Name.listSymbols.admits strayArguments smallSession = true ∧
    Means strayArguments smallSession (smallPackage "a") ∧
    (Operation.behind (.tool "list_symbols" strayArguments) smallSession).index.hits =
      smallSession.index.hits ∧
    (Operation.behind (.tool "list_symbols" strayArguments) smallSession).index.misses =
      smallSession.index.misses :=
  ⟨by decide, by decide +kernel, means_smallPackage rfl rfl, by decide +kernel, by decide +kernel⟩

end PackageAtlas.Tool
