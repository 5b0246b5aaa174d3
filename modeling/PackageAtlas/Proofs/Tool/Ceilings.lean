import PackageAtlas.Proofs.Search.Hits
import PackageAtlas.Proofs.Settings
import PackageAtlas.Proofs.Text.Lines
import PackageAtlas.Proofs.Tool.Listing
import PackageAtlas.Proofs.Tool.Overlooks

namespace PackageAtlas.Tool

/-!
# Ceilings

No answer holds more than the settings allow, whatever is asked:

* `Gives`: what an action gives where a session goes by given settings, with one rule for each way
  to put actions together;
* `count_excerpt_lt`: an excerpt has no more lines than its window;
* `gives_readRange`, `gives_searchPackage` and others: what tools give;
* `answers_stay_below_ceilings`: the lines, hits and declarations in an answer.
-/

variable {α β ε : Type} {c : Settings} {P : α → Prop} {Q : β → Prop}

/-! ### What actions give -/

/-- Where a session goes by the settings `c`, an action gives only what `P` says, and the session
    behind it goes by them as well. -/
def Gives (c : Settings) (P : α → Prop) (x : Action α) : Prop :=
  ∀ s a s', s.config = .ok c → Yields x s a s' → P a ∧ s'.config = .ok c

theorem gives_pure {a : α} (h : P a) : Gives c P (pure a) := by
  intro s b s' hs hb
  obtain ⟨rfl, rfl⟩ := yields_pure.mp hb
  exact ⟨h, hs⟩

theorem gives_throw (e : Fault) : Gives c P (throw e) :=
  fun _ _ _ _ h => absurd h yields_throw

theorem gives_orFault (fault : ε → Fault) (r : Except ε α) :
    Gives c (fun a => r = .ok a) (orFault fault r) := by
  intro s a s' hs ha
  obtain ⟨hr, rfl⟩ := yields_orFault.mp ha
  exact ⟨hr, hs⟩

/-- What one action gives may be used by the next. -/
theorem Gives.bind {x : Action α} {f : α → Action β} (hx : Gives c P x)
    (hf : ∀ a, P a → Gives c Q (f a)) : Gives c Q (x >>= f) := by
  intro s b s' hs hb
  obtain ⟨a, t, ha, hb⟩ := yields_bind.mp hb
  obtain ⟨hP, ht⟩ := hx s a t hs ha
  exact hf a hP t b s' ht hb

/-- An action that leaves the settings as they are gives something. -/
theorem Keeps.gives {x : Action α} (h : Keeps Session.config x) : Gives c (fun _ => True) x :=
  fun _ _ _ hs ha => ⟨trivial, (h.of_yields ha).trans hs⟩

theorem gives_get : Gives c (fun _ => True) (get : Action Session) :=
  Keeps.gives (fun _ => rfl)

theorem gives_currentSettings : Gives c (fun settings => settings = c) currentSettings := by
  intro s settings s' hs h
  obtain ⟨hconfig, rfl⟩ := yields_currentSettings.mp h
  rw [hs, Except.ok.injEq] at hconfig
  subst hconfig
  exact ⟨rfl, rfl⟩

theorem inRange_iff {least n : Int} {most : Option Int} :
    inRange least most n = true ↔ least ≤ n ∧ ∀ m, most = some m → n ≤ m := by
  cases most <;> simp [inRange]

theorem gives_requireRange (label : String) (least : Int) (most : Option Int) (value : Argument) :
    Gives c (fun n => value.number? = some n ∧ least ≤ n ∧ ∀ m, most = some m → n ≤ m)
      (requireRange label least most value) := by
  intro s n s' hs h
  obtain ⟨hnumber, hrange, rfl⟩ := yields_requireRange.mp h
  exact ⟨⟨hnumber, inRange_iff.mp hrange⟩, hs⟩

/-- A number is in its range if it is given. -/
theorem gives_rangeIfGiven {most : Action (Option Int)} {ceiling : Option Int}
    (hmost : Gives c (fun m => m = ceiling) most) (label : String) (least : Int)
    (value : Argument) :
    Gives c (fun n => (value ≠ .nothing → n.isSome = true) ∧
      ∀ k m, n = some k → ceiling = some m → k ≤ m) (rangeIfGiven label least most value) := by
  unfold rangeIfGiven
  split
  · exact gives_pure ⟨fun h => absurd rfl h, by simp⟩
  · refine hmost.bind (fun m hm => ?_)
    subst hm
    refine (gives_requireRange label least m value).bind (fun k hk => gives_pure ?_)
    refine ⟨fun _ => rfl, fun k' m' hk' hm' => ?_⟩
    obtain rfl := Option.some.inj hk'
    exact hk.2.2 m' hm'

/-! ### Lines -/

/-- An excerpt has no more lines than its window, so it has fewer line feeds. -/
theorem count_excerpt_lt (text : String) {w : Source.Window} {most : Int} (hpos : 0 < most)
    (hcount : w.count ≤ most) : ((Source.excerpt text w).toList.count '\n' : Int) < most := by
  have hlines : ∀ line ∈ w.lines (Text.lines text), '\n' ∉ line.toList := by
    intro line hline
    exact Text.not_mem_of_mem_lines (List.mem_of_mem_drop (List.mem_of_mem_take hline))
  have hlength : (w.lines (Text.lines text)).length ≤ w.count.toNat := by
    rw [Source.Window.lines, List.length_take]
    exact Nat.min_le_left _ _
  rw [Source.excerpt, Text.count_joinLines hlines]
  omega

/-- Where a line or a number of lines is given, no more is read than may be asked for. -/
theorem gives_readRange (hc : c.Sound) (path : String) {start count : Option Int}
    (hgiven : start.isSome = true ∨ count.isSome = true)
    (hcount : ∀ n, count = some n → n ≤ c.maxReadLines) :
    Gives c (fun text => (text.toList.count '\n' : Int) < c.maxReadLines)
      (readRange path start count) := by
  have hpos := hc.maxReadLines
  refine (looksOnly_readText path).keepsView.gives.bind (fun text _ => ?_)
  split
  · simp at hgiven
  · exact gives_pure (count_excerpt_lt text hpos (hcount _ rfl))
  · -- Only the first line is given: the number is that of the settings, which is small enough.
    refine gives_currentSettings.bind (fun settings hsettings => gives_pure ?_)
    subst hsettings
    exact count_excerpt_lt text hpos hc.default_le_max

theorem gives_readFile (hc : c.Sound) (package file root copies : Argument) {start count : Argument}
    (hgiven : start ≠ .nothing ∨ count ≠ .nothing) :
    Gives c (fun a => (∃ what, a = .absent what) ∨ ∃ p name text, a = .file p name text ∧
      (text.toList.count '\n' : Int) < c.maxReadLines)
      (readFile package file root start count copies) := by
  -- A count that is not given is the ceiling, so that the number of lines has a bound either way.
  have hmost : Gives c (fun m => m = some c.maxReadLines)
      (do return some (← currentSettings).maxReadLines) :=
    gives_currentSettings.bind (fun settings hsettings => gives_pure (by rw [hsettings]))
  refine (gives_rangeIfGiven (gives_pure rfl) _ _ _).bind (fun first hfirst => ?_)
  refine (gives_rangeIfGiven hmost _ _ _).bind (fun number hnumber => ?_)
  refine (looksOnly_findPackage package root).keepsView.gives.bind (fun found _ => ?_)
  rcases found with _ | p
  · exact gives_pure (Or.inl ⟨_, rfl⟩)
  refine (looksOnly_requireText _ _).keepsView.gives.bind (fun text _ => ?_)
  refine (looksOnly_pathInside _ _).keepsView.gives.bind (fun inside _ => ?_)
  refine (overlooks_config.keeps_replicated? _ _ _).gives.bind (fun copy _ => ?_)
  refine (looksOnly_isFile _).keepsView.gives.bind (fun there _ => ?_)
  split
  · have hsome : first.isSome = true ∨ number.isSome = true := hgiven.imp hfirst.1 hnumber.1
    refine (gives_readRange hc _ hsome (fun n hn => hnumber.2 n _ hn rfl)).bind
      (fun shown hshown => gives_pure ?_)
    exact Or.inr ⟨p, _, shown, rfl, hshown⟩
  · exact gives_pure (Or.inl ⟨_, rfl⟩)

/-! ### Hits and declarations -/

/-- A list is no longer than is asked for, which is no more than `most`. -/
def FitsLimit (limit : Argument) (most : Int) (found : List α) : Prop :=
  ∃ n, limit.number? = some n ∧ n ≤ most ∧ (found.length : Int) ≤ n

theorem gives_searchPackage (package pattern root flags context limit copies : Argument) :
    Gives c (fun a => (∃ what, a = .absent what) ∨ ∃ p found, a = .hits p found ∧
      FitsLimit limit c.maxSearchResults found)
      (searchPackage package pattern root flags context limit copies) := by
  refine (gives_requireRange _ _ _ context).bind (fun context' _ => ?_)
  refine gives_currentSettings.bind (fun settings hsettings => ?_)
  subst hsettings
  refine (gives_requireRange _ _ _ limit).bind (fun n hn => ?_)
  refine (looksOnly_findPackage package root).keepsView.gives.bind (fun found _ => ?_)
  rcases found with _ | p
  · exact gives_pure (Or.inl ⟨_, rfl⟩)
  simp only
  split
  · exact gives_throw _
  · split
    · exact gives_pure (Or.inl ⟨_, rfl⟩)
    · exact gives_throw _
  · rename_i regex _
    have hsearch : Gives settings
        (fun a => (∃ what, a = .absent what) ∨ ∃ q found, a = .hits q found ∧
          FitsLimit limit settings.maxSearchResults found)
        (do
          let replica ← currentReplica
          let s ← get
          let hits ← orFault searchFault
            (Search.firstHits s.fs s.here (some replica) p regex context' n)
          return Answer.hits p hits) := by
      refine overlooks_config.keeps_currentReplica.gives.bind (fun replica _ => ?_)
      refine gives_get.bind (fun s _ => (gives_orFault _ _).bind (fun hits hhits => gives_pure ?_))
      have hlength := Search.length_of_firstHits hhits
      obtain ⟨hnumber, hleast, hmost⟩ := hn
      exact Or.inr ⟨p, hits, rfl, n, hnumber, hmost _ rfl, by omega⟩
    split
    · exact (gives_throw _).bind (P := fun _ => True) (fun _ _ => hsearch)
    · exact hsearch

theorem gives_listDeclarations (package root kind name limit indexes : Argument) :
    Gives c (fun a => (∃ what, a = .absent what) ∨ ∃ p found, a = .declarations p found ∧
      FitsLimit limit c.maxSymbolResults found)
      (listDeclarations package root kind name limit indexes) := by
  refine gives_currentSettings.bind (fun settings hsettings => ?_)
  subst hsettings
  refine (gives_requireRange _ _ _ limit).bind (fun n hn => ?_)
  refine (gives_orFault _ _).bind (fun wanted hwanted => ?_)
  refine (overlooks_config.keeps_findIndexed package root indexes).gives.bind (fun found _ => ?_)
  rcases found with _ | ⟨p, index⟩
  · exact gives_pure (Or.inl ⟨_, rfl⟩)
  refine (gives_orFault _ _).bind (fun chosen hpick => gives_pure ?_)
  obtain ⟨hnumber, hleast, hmost⟩ := hn
  obtain ⟨-, rfl⟩ := (pickFrom_eq_ok_iff hwanted hleast).mp hpick
  refine Or.inr ⟨p, _, rfl, n, hnumber, hmost _ rfl, ?_⟩
  rw [List.length_take]
  omega

/-! ### Answers -/

/-- **Answers stay below ceilings.** Where a session goes by the settings of an environment, a part
    of a file has no more lines than may be asked for, and so do lists of hits and of declarations,
    which are no longer than was asked for and say how long they are. -/
theorem answers_stay_below_ceilings {s : Session} {env : Environment} {c : Settings}
    (henv : Settings.ofEnvironment env = .ok c) (hs : s.config = .ok c) (args : Arguments) :
    ((Name.readFile.invoke args s).1.error? = none →
      args.get "start_line" .nothing ≠ .nothing ∨ args.get "count" .nothing ≠ .nothing →
      ∃ p file text, (Name.readFile.invoke args s).1 = .done (.file p file text) ∧
        ((Text.lines text).length : Int) ≤ c.maxReadLines ∧
        (text.toList.count '\n' : Int) < c.maxReadLines) ∧
    ((Name.search.invoke args s).1.error? = none →
      ∃ p found, (Name.search.invoke args s).1 = .done (.hits p found) ∧
        (Answer.hits p found).total? = some found.length ∧
        ∃ limit : Int, (args.get "limit" (.number 20)).number? = some limit ∧
          limit ≤ c.maxSearchResults ∧ (found.length : Int) ≤ limit) ∧
    ((Name.listSymbols.invoke args s).1.error? = none →
      ∃ p found, (Name.listSymbols.invoke args s).1 = .done (.declarations p found) ∧
        (Answer.declarations p found).total? = some found.length ∧
        ∃ limit : Int, (args.get "limit" (.number 100)).number? = some limit ∧
          limit ≤ c.maxSymbolResults ∧ (found.length : Int) ≤ limit) := by
  have hsound := Settings.sound_of_ofEnvironment henv
  -- What a tool gives follows from what its request gives.
  have hanswer : ∀ (t : Name) (P : Answer → Prop),
      Gives c (fun a => (∃ what, a = .absent what) ∨ P a) (t.request args).run →
      (t.invoke args s).1.error? = none → ∃ a, (t.invoke args s).1 = .done a ∧ P a := by
    intro t P hgives hnone
    obtain ⟨a, s', hdone, habsent⟩ := exists_answer_of_error?_eq_none hnone
    rcases (hgives s a s' hs (invoke_eq_done_iff.mp hdone).2).1 with ⟨what, rfl⟩ | hP
    · exact absurd rfl (habsent what)
    · exact ⟨a, congrArg Prod.fst hdone, hP⟩
  refine ⟨fun hnone hgiven => ?_, fun hnone => ?_, fun hnone => ?_⟩
  · obtain ⟨_, hdone, p, file, text, rfl, hfeeds⟩ :=
      hanswer .readFile _ (gives_readFile hsound _ _ _ _ hgiven) hnone
    refine ⟨p, file, text, hdone, ?_, hfeeds⟩
    rw [Text.length_lines]
    omega
  · obtain ⟨_, hdone, p, found, rfl, hfits⟩ :=
      hanswer .search _ (gives_searchPackage _ _ _ _ _ _ _) hnone
    exact ⟨p, found, hdone, rfl, hfits⟩
  · obtain ⟨_, hdone, p, found, rfl, hfits⟩ :=
      hanswer .listSymbols _ (gives_listDeclarations _ _ _ _ _ _) hnone
    exact ⟨p, found, hdone, rfl, hfits⟩

/-! ### Ceilings in the small project -/

/-- The settings of an environment without variables. -/
def defaultSettings : Settings :=
  ⟨3000, 500, 2000, 100, 500, "/tmp/mcp-node-modules-docs", true, .info⟩

/-- Lines of its file are asked for by the first of them, and then one hit, or one declaration. -/
def limitedArguments : Arguments × Arguments × Arguments :=
  ([("module", .text "a"), ("file", .text "x.ts"), ("start_line", .number 1)],
    [("module", .text "a"), ("pattern", .text "[A-Z]"), ("limit", .number 1)],
    [("module", .text "a"), ("limit", .number 1)])

/-- In the small project there are lines, a hit and a declaration to be told of. -/
theorem answers_stay_below_ceilings_small :
    Settings.ofEnvironment ⟨[], "/tmp"⟩ = .ok defaultSettings ∧
    ∃ p file text found declarations,
      (Name.readFile.invoke limitedArguments.1 smallSessionLater).1 = .done (.file p file text) ∧
      (Name.search.invoke limitedArguments.2.1 smallSessionLater).1 = .done (.hits p found) ∧
      (Name.listSymbols.invoke limitedArguments.2.2 smallSessionLater).1 =
        .done (.declarations p declarations) ∧
      (text.toList.count '\n' : Int) < 2000 ∧ (found.length : Int) ≤ 1 ∧
      (declarations.length : Int) ≤ 1 := by
  have henv : Settings.ofEnvironment ⟨[], "/tmp"⟩ = .ok defaultSettings := by decide +kernel
  have hs : smallSessionLater.config = .ok defaultSettings := henv
  have hread : (Name.readFile.invoke limitedArguments.1 smallSessionLater).1 =
      .done (.file (smallPackage "a") "x.ts" "enum A \x7b\x7d\n") := by decide +kernel
  have hsearch : (Name.search.invoke limitedArguments.2.1 smallSessionLater).1 =
      .done (.hits (smallPackage "a") [⟨"x.ts", 1, "A", "enum A \x7b\x7d\n"⟩]) := by decide +kernel
  have hlist : (Name.listSymbols.invoke limitedArguments.2.2 smallSessionLater).1 =
      .done (.declarations (smallPackage "a") [smallRecord]) := by decide +kernel
  have hstart : limitedArguments.1.get "start_line" .nothing = .number 1 := rfl
  obtain ⟨p, file, text, hfile, -, hfeeds⟩ :=
    (answers_stay_below_ceilings henv hs limitedArguments.1).1 (by rw [hread]; rfl)
      (Or.inl (by rw [hstart]; simp))
  obtain ⟨q, found, hfound, -, limit, hlimit, -, hlength⟩ :=
    (answers_stay_below_ceilings henv hs limitedArguments.2.1).2.1 (by rw [hsearch]; rfl)
  obtain ⟨q', declarations, hdeclarations, -, limit', hlimit', -, hlength'⟩ :=
    (answers_stay_below_ceilings henv hs limitedArguments.2.2).2.2 (by rw [hlist]; rfl)
  -- All answers are about the one package that there is.
  obtain ⟨rfl, -⟩ := Answer.file.inj (Response.done.inj (hread.symm.trans hfile))
  obtain ⟨rfl, -⟩ := Answer.hits.inj (Response.done.inj (hsearch.symm.trans hfound))
  obtain ⟨rfl, -⟩ := Answer.declarations.inj (Response.done.inj (hlist.symm.trans hdeclarations))
  obtain rfl : (1 : Int) = limit := Option.some.inj hlimit
  obtain rfl : (1 : Int) = limit' := Option.some.inj hlimit'
  exact ⟨henv, _, file, text, found, declarations, hfile, hfound, hdeclarations, hfeeds, hlength,
    hlength'⟩

end PackageAtlas.Tool
