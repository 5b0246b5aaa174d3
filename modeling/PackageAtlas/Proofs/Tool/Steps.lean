import PackageAtlas.Proofs.Tool.Action

namespace PackageAtlas.Tool

open Declaration (IndexCache Indexer Record)

/-!
# The steps that tools are made of

What each step of a tool gives and what it changes:

* `LooksOnly`: steps that change nothing and depend on the files alone, such as `findPackage`;
* `Session.config`, `outcome_currentSettings`: the settings, and that they are remembered;
* `outcome_currentReplica_eq`: the copies of documentation, and that they are remembered;
* `Session.indexerFor`, `outcome_builder_fst`: what makes indexes;
* `yields_indexBy`: an index is taken from the cache, or made and kept;
* `Means`: the package that the arguments of a call mean;
* `invoke_eq_done_iff`: the answers of a tool are those of its request.
-/

variable {α β ε : Type} {s s' : Session}

/-! ### Steps that look at the files only -/

/-- An action that changes nothing, and that gives the same wherever the files are the same. -/
structure LooksOnly (x : Action α) : Prop where
  keeps : ∀ s, (outcome x s).2 = s
  same : ∀ s t : Session, s.fs = t.fs → s.here = t.here → (outcome x s).1 = (outcome x t).1

namespace LooksOnly

theorem of_yields {x : Action α} (h : LooksOnly x) {a : α} (hy : Yields x s a s') : s' = s := by
  have hs := h.keeps s
  rw [hy] at hs
  exact hs

theorem yields_of_fst {x : Action α} (h : LooksOnly x) {a : α} (hx : (outcome x s).1 = .ok a) :
    Yields x s a s := Prod.ext hx (h.keeps s)

/-- What an action gives in one session it gives in every session with the same files. -/
theorem yields_of_same {x : Action α} (h : LooksOnly x) {a : α} (hy : Yields x s a s')
    {t : Session} (hfs : t.fs = s.fs) (hhere : t.here = s.here) : Yields x t a t := by
  have hsame := h.same t s hfs hhere
  rw [hy] at hsame
  exact h.yields_of_fst hsame

/-- Behind an action that only looks, the session is the same. -/
theorem yields_bind_iff {x : Action α} (h : LooksOnly x) {f : α → Action β} {b : β} :
    Yields (x >>= f) s b s' ↔ ∃ a, Yields x s a s ∧ Yields (f a) s b s' := by
  rw [yields_bind]
  constructor
  · rintro ⟨a, t, hx, hf⟩
    obtain rfl := h.of_yields hx
    exact ⟨a, hx, hf⟩
  · rintro ⟨a, hx, hf⟩
    exact ⟨a, s, hx, hf⟩

theorem pure (a : α) : LooksOnly (Pure.pure a) := ⟨fun _ => rfl, fun _ _ _ _ => rfl⟩

theorem throw (e : Fault) : LooksOnly (MonadExcept.throw e : Action α) :=
  ⟨fun _ => rfl, fun _ _ _ _ => rfl⟩

theorem orFault (fault : ε → Fault) (r : Except ε α) : LooksOnly (orFault fault r) :=
  ⟨fun s => by rw [outcome_orFault], fun s t _ _ => by rw [outcome_orFault, outcome_orFault]⟩

theorem bind {x : Action α} {f : α → Action β} (hx : LooksOnly x) (hf : ∀ a, LooksOnly (f a)) :
    LooksOnly (x >>= f) := by
  constructor
  · intro s
    have hs := hx.keeps s
    rw [outcome_bind]
    rcases hr : outcome x s with ⟨e | a, u⟩
    · rw [hr] at hs
      exact hs
    · rw [hr] at hs
      exact ((hf a).keeps u).trans hs
  · intro s t hfs hhere
    have hs := hx.keeps s
    have ht := hx.keeps t
    have hst := hx.same s t hfs hhere
    -- The first action fails in both sessions or in none, and leaves both as they are.
    rw [outcome_bind, outcome_bind]
    rcases hr : outcome x s with ⟨e | a, u⟩ <;> rcases hr' : outcome x t with ⟨e' | a', u'⟩ <;>
      rw [hr] at hs hst <;> rw [hr'] at ht hst <;> simp only at hs ht hst <;> subst hs ht
    · rw [Except.error.injEq] at hst
      rw [hst]
    · simp at hst
    · simp at hst
    · rw [Except.ok.injEq] at hst
      subst hst
      exact (hf a).same u u' hfs hhere

/-- Behind an action that only looks, the next one is done if there is something to go on with. -/
theorem after_bind {x : Action α} (h : LooksOnly x) (f : α → Action β) (s : Session) :
    s.after (x >>= f) = match (outcome x s).1 with
      | .ok a => s.after (f a)
      | .error _ => s := by
  have hs := h.keeps s
  unfold Session.after
  rw [outcome_bind]
  rcases hr : outcome x s with ⟨e | a, t⟩ <;> rw [hr] at hs <;> obtain rfl : t = s := hs <;> rfl

/-- Looking leaves the session that was there before. -/
theorem after_bind_eq {f : α → Action β} (hf : ∀ a, LooksOnly (f a)) (x : Action α)
    (s : Session) : s.after (x >>= f) = s.after x := by
  unfold Session.after
  rw [outcome_bind]
  rcases outcome x s with ⟨e | a, t⟩
  · rfl
  · exact (hf a).keeps t

/-- An action that looks at the session first may use the files of it. -/
theorem get_bind {f : Session → Action α} (hf : ∀ s, LooksOnly (f s))
    (hsame : ∀ s t : Session, s.fs = t.fs → s.here = t.here → f s = f t) :
    LooksOnly (get >>= f) := by
  constructor
  · intro s
    rw [outcome_bind]
    exact (hf s).keeps s
  · intro s t hfs hhere
    rw [outcome_bind, outcome_bind, outcome_get, outcome_get]
    simp only
    rw [hsame s t hfs hhere]
    exact (hf t).same s t hfs hhere

end LooksOnly

theorem looksOnly_requireText (operation : String) (a : Argument) :
    LooksOnly (requireText operation a) := by
  unfold requireText
  split
  · exact .pure _
  · exact .throw _

theorem looksOnly_rootOf (root : Argument) : LooksOnly (rootOf root) := by
  unfold rootOf
  apply LooksOnly.get_bind
  · intro s
    split
    · exact .orFault _ _
    · split
      · exact .throw _
      · exact .orFault _ _
  · intro s t hfs hhere
    rw [hfs, hhere]

theorem looksOnly_findPackage (name root : Argument) : LooksOnly (findPackage name root) := by
  refine .bind (looksOnly_rootOf root) (fun top => ?_)
  apply LooksOnly.get_bind
  · intro s
    split
    · exact .orFault _ _
    · refine .bind (.orFault _ _) (fun all => ?_)
      split
      · exact .pure _
      · exact .throw _
  · intro s t hfs hhere
    rw [hfs, hhere]

theorem looksOnly_pathInside (dir file : String) : LooksOnly (pathInside dir file) :=
  .orFault _ _

theorem looksOnly_isFile (path : String) : LooksOnly (isFile path) := by
  apply LooksOnly.get_bind
  · intro s
    exact .pure _
  · intro s t hfs hhere
    rw [hfs, hhere]

theorem looksOnly_readText (path : String) : LooksOnly (readText path) := by
  apply LooksOnly.get_bind
  · intro s
    exact .bind (.orFault _ _) (fun _ => .pure _)
  · intro s t hfs hhere
    rw [hfs, hhere]

theorem looksOnly_requireRange (label : String) (least : Int) (most : Option Int)
    (value : Argument) : LooksOnly (requireRange label least most value) := by
  unfold requireRange
  split
  · exact .bind (.orFault _ _) (fun _ => .pure _)
  · exact .throw _

theorem looksOnly_readAround (path : String) (first last padding : Int) :
    LooksOnly (readAround path first last padding) :=
  .bind (looksOnly_readText path) (fun _ => .pure _)

/-- The package that a call means is one that its name means in its project. -/
theorem yields_findPackage_some {name root : Argument} {p : Package} :
    Yields (findPackage name root) s (some p) s' ↔
      ∃ text top, name = .text text ∧ Yields (rootOf root) s top s ∧
        Package.find? s.fs s.here text top = .ok (some p) ∧ s' = s := by
  unfold findPackage
  rw [(looksOnly_rootOf root).yields_bind_iff]
  constructor
  · rintro ⟨top, hroot, h⟩
    rw [yields_get_bind] at h
    cases name with
    | text text =>
      obtain ⟨hfind, rfl⟩ := yields_orFault.mp h
      exact ⟨text, top, rfl, hroot, hfind, rfl⟩
    | _ =>
      obtain ⟨all, -, h⟩ := yields_orFault_bind.mp h
      split at h <;> simp at h
  · rintro ⟨text, top, rfl, hroot, hfind, rfl⟩
    exact ⟨top, hroot, yields_get_bind.mpr (yields_orFault.mpr ⟨hfind, rfl⟩)⟩

theorem yields_isFile {path : String} {b : Bool} :
    Yields (isFile path) s b s' ↔ b = s.fs.isFile s.here path ∧ s' = s := by
  unfold isFile
  rw [yields_get_bind, yields_pure]

theorem yields_isFile_bind {path : String} {f : Bool → Action β} {b : β} :
    Yields (isFile path >>= f) s b s' ↔ Yields (f (s.fs.isFile s.here path)) s b s' := by
  simp [yields_bind, yields_isFile, and_assoc]

theorem yields_pathInside_bind {dir file : String} {f : String → Action β} {b : β} :
    Yields (pathInside dir file >>= f) s b s' ↔
      ∃ path, Package.insidePath dir file = .ok path ∧ Yields (f path) s b s' := by
  unfold pathInside
  exact yields_orFault_bind

theorem yields_readText {path text : String} :
    Yields (readText path) s text s' ↔
      ∃ bytes, s.fs.read s.here path = .ok bytes ∧ text = Text.Utf8.decodeBytes bytes ∧ s' = s := by
  unfold readText
  rw [yields_get_bind, yields_orFault_bind]
  simp only [yields_pure]

theorem yields_requireText {operation : String} {a : Argument} {text : String} :
    Yields (requireText operation a) s text s' ↔ a = .text text ∧ s' = s := by
  unfold requireText
  cases a <;> simp [eq_comm]

theorem yields_requireText_bind {operation : String} {a : Argument} {f : String → Action β}
    {b : β} :
    Yields (requireText operation a >>= f) s b s' ↔
      ∃ text, a = .text text ∧ Yields (f text) s b s' := by
  simp [yields_bind, yields_requireText, and_assoc]

/-- A number is given if the argument holds one that is in the range. -/
theorem yields_requireRange {label : String} {least n : Int} {most : Option Int}
    {value : Argument} :
    Yields (requireRange label least most value) s n s' ↔
      value.number? = some n ∧ inRange least most n = true ∧ s' = s := by
  unfold requireRange
  rcases value.number? with _ | m
  · simp
  simp only [yields_orFault_bind, yields_pure, Option.some.injEq]
  constructor
  · rintro ⟨⟨⟩, hcheck, rfl, rfl⟩
    by_cases hin : inRange least most n = true
    · exact ⟨rfl, hin, rfl⟩
    · rw [checkRange, if_neg hin] at hcheck
      simp at hcheck
  · rintro ⟨rfl, hin, rfl⟩
    exact ⟨(), if_pos hin, rfl, rfl⟩

theorem yields_requireRange_bind {label : String} {least : Int} {most : Option Int}
    {value : Argument} {f : Int → Action β} {b : β} :
    Yields (requireRange label least most value >>= f) s b s' ↔
      ∃ n, value.number? = some n ∧ inRange least most n = true ∧ Yields (f n) s b s' := by
  simp [yields_bind, yields_requireRange, and_assoc]

/-! ### Settings and indexers -/

/-- The settings that a session goes by. -/
def Session.config (s : Session) : Except SettingsError Settings :=
  match s.settings with
  | some settings => .ok settings
  | none => Settings.ofEnvironment s.env

theorem outcome_currentSettings (s : Session) :
    outcome currentSettings s = match s.config with
      | .ok settings => (.ok settings, { s with settings := some settings })
      | .error e => (.error (.settings e), s) := by
  unfold currentSettings Session.config
  rw [outcome_bind, outcome_get]
  simp only
  rcases hs : s.settings with _ | settings
  · simp only [outcome_bind, outcome_orFault, outcome_set, outcome_pure]
    rcases Settings.ofEnvironment s.env with e | settings <;> rfl
  · simp only [outcome_pure]
    rw [← hs]

theorem yields_currentSettings {settings : Settings} :
    Yields currentSettings s settings s' ↔
      s.config = .ok settings ∧ s' = { s with settings := some settings } := by
  unfold Yields
  rw [outcome_currentSettings]
  rcases s.config with e | found
  · simp
  · simp only [Prod.mk.injEq, Except.ok.injEq]
    constructor
    · rintro ⟨rfl, rfl⟩
      exact ⟨rfl, rfl⟩
    · rintro ⟨rfl, rfl⟩
      exact ⟨rfl, rfl⟩

theorem yields_currentSettings_bind {f : Settings → Action β} {b : β} :
    Yields (currentSettings >>= f) s b s' ↔ ∃ settings, s.config = .ok settings ∧
      Yields (f settings) { s with settings := some settings } b s' := by
  simp [yields_bind, yields_currentSettings, and_assoc]

/-- What makes the index of a package: the indexer that is given, that of the indexes, or that of
    the settings. -/
def Session.indexerFor (s : Session) (given : Option Indexer) : Except SettingsError Indexer :=
  match given.or s.index.indexer with
  | some indexer => .ok indexer
  | none => s.config.map (fun settings => ⟨settings.maxIndexFiles, .declarations⟩)

theorem outcome_currentIndexer (s : Session) :
    outcome currentIndexer s = match s.index.indexer, s.config with
      | some indexer, _ => (.ok indexer, s)
      | none, .ok settings =>
        let indexer := ⟨settings.maxIndexFiles, .declarations⟩
        (.ok indexer, { s with
          settings := some settings, index := { s.index with indexer := some indexer } })
      | none, .error e => (.error (.settings e), s) := by
  unfold currentIndexer makeIndexer
  rw [outcome_bind, outcome_get]
  simp only
  rcases hi : s.index.indexer with _ | indexer
  · simp only [outcome_bind, outcome_currentSettings]
    rcases s.config with e | settings <;> rfl
  · rfl

theorem outcome_currentReplica_eq (s : Session) :
    outcome currentReplica s = match s.replica, s.config with
      | some replica, _ => (.ok replica, s)
      | none, .ok settings =>
        let replica := Docs.Replica.new settings.docsDirectory
        (.ok replica, { s with settings := some settings, replica := some replica })
      | none, .error e => (.error (.settings e), s) := by
  unfold currentReplica
  rw [outcome_bind, outcome_get]
  simp only
  rcases hr : s.replica with _ | replica
  · simp only [outcome_bind, outcome_currentSettings]
    rcases s.config with e | settings <;> rfl
  · rfl

theorem outcome_builder_fst (given : Option Indexer) (s : Session) :
    (outcome (builder given) s).1 = (s.indexerFor given).mapError .settings := by
  unfold builder Session.indexerFor
  rcases given with _ | indexer
  · simp only [Option.none_or]
    rw [outcome_currentIndexer]
    rcases s.index.indexer with _ | indexer
    · rcases s.config with e | settings <;> rfl
    · rfl
  · rfl

section Keeps

variable {γ : Type} {view : Session → γ}

/-- Remembering the settings is all that asking for them changes. -/
theorem keeps_currentSettings (h : ∀ s settings, s.config = .ok settings →
    view { s with settings := some settings } = view s) : Keeps view currentSettings := by
  intro s
  rw [outcome_currentSettings]
  rcases hc : s.config with e | settings
  · rfl
  · exact h s settings hc

/-- Remembering the settings and the indexer is all that asking for the indexer changes. -/
theorem keeps_builder (given : Option Indexer)
    (h : ∀ s settings, s.config = .ok settings → s.index.indexer = none →
      view { s with
        settings := some settings
        index := { s.index with indexer := some ⟨settings.maxIndexFiles, .declarations⟩ } }
        = view s) : Keeps view (builder given) := by
  rcases given with _ | indexer
  · intro s
    unfold builder
    simp only
    rw [outcome_currentIndexer]
    rcases hi : s.index.indexer with _ | indexer
    · rcases hc : s.config with e | settings
      · rfl
      · exact h s settings hc hi
    · rfl
  · exact keeps_pure indexer

theorem LooksOnly.keepsView {α : Type} {x : Action α} (h : LooksOnly x) : Keeps view x := by
  intro s
  rw [h.keeps s]

theorem keeps_rangeIfGiven {most : Action (Option Int)} (hmost : Keeps view most) (label : String)
    (least : Int) (value : Argument) : Keeps view (rangeIfGiven label least most value) := by
  unfold rangeIfGiven
  split
  · exact keeps_pure _
  · exact hmost.bind (fun m =>
      (looksOnly_requireRange label least m value).keepsView.bind (fun n => keeps_pure _))

theorem keeps_readRange (h : Keeps view currentSettings) (path : String)
    (start count : Option Int) : Keeps view (readRange path start count) := by
  refine (looksOnly_readText path).keepsView.bind (fun text => ?_)
  split
  · exact keeps_pure _
  · exact keeps_pure _
  · exact h.bind (fun _ => keeps_pure _)

end Keeps

/-! ### Indexes -/

/-- An index is taken from the cache, or else it is made and kept. -/
theorem outcome_indexBy (given : Option Indexer) (p : Package) (s : Session) :
    outcome (indexBy given p) s = match indexKey s p with
      | .error e => (.error (.file e), s)
      | .ok key => match s.index.lookup? key with
        | some index => (.ok index, { s with index := s.index.hit })
        | none => match outcome (builder given) { s with index := s.index.miss } with
          | (.error e, t) => (.error e, t)
          | (.ok indexer, t) => match indexer.index s.fs s.here p.directory s.parse with
            | .error e => (.error (.file e), t)
            | .ok index => (.ok index, { t with index := t.index.store key index }) := by
  unfold indexBy
  simp only [outcome_bind, outcome_get, outcome_orFault]
  rcases indexKey s p with e | key
  · rfl
  simp only [mapError_ok]
  rcases s.index.lookup? key with _ | found
  · simp only [outcome_bind, outcome_set]
    rcases outcome (builder given) { s with index := s.index.miss } with ⟨e | indexer, t⟩
    · rfl
    simp only [outcome_orFault]
    rcases indexer.index s.fs s.here p.directory s.parse with e | made <;> rfl
  · rfl

theorem yields_indexBy {given : Option Indexer} {p : Package} {index : List Record} :
    Yields (indexBy given p) s index s' ↔
      ∃ key, indexKey s p = .ok key ∧
        ((s.index.lookup? key = some index ∧ s' = { s with index := s.index.hit }) ∨
          (s.index.lookup? key = none ∧ ∃ indexer t,
            Yields (builder given) { s with index := s.index.miss } indexer t ∧
            indexer.index s.fs s.here p.directory s.parse = .ok index ∧
            s' = { t with index := t.index.store key index })) := by
  unfold indexBy
  rw [yields_get_bind, yields_orFault_bind]
  refine exists_congr (fun key => and_congr_right (fun _ => ?_))
  rcases s.index.lookup? key with _ | found
  · -- Nothing is kept for the key, so the index has to be made.
    rw [yields_set_bind, yields_bind]
    simp only [yields_orFault_bind, yields_modify_bind, yields_pure]
    constructor
    · rintro ⟨indexer, t, hb, made, hmade, rfl, rfl⟩
      exact Or.inr ⟨trivial, indexer, t, hb, hmade, rfl⟩
    · rintro (⟨hnone, -⟩ | ⟨-, indexer, t, hb, hmade, rfl⟩)
      · simp at hnone
      · exact ⟨indexer, t, hb, index, hmade, rfl, rfl⟩
  · rw [yields_set_bind, yields_pure]
    constructor
    · rintro ⟨rfl, rfl⟩
      exact Or.inl ⟨rfl, rfl⟩
    · rintro (⟨hsome, rfl⟩ | ⟨hsome, -⟩)
      · exact ⟨(Option.some.inj hsome).symm, rfl⟩
      · simp at hsome

/-- A look for the declarations of a package changes the indexes, and what the indexer is made
    of. -/
theorem keeps_indexBy {γ : Type} {view : Session → γ} {given : Option Indexer} {p : Package}
    (hindex : ∀ s cache, cache.indexer = s.index.indexer →
      view { s with index := cache } = view s)
    (hbuilder : Keeps view (builder given)) : Keeps view (indexBy given p) := by
  intro s
  rw [outcome_indexBy]
  rcases indexKey s p with e | key
  · rfl
  simp only
  rcases s.index.lookup? key with _ | found
  · -- The miss is counted before the indexer is made, and stays if that fails.
    have hmiss : view { s with index := s.index.miss } = view s := hindex s _ rfl
    have hkeeps := hbuilder { s with index := s.index.miss }
    rcases hb : outcome (builder given) { s with index := s.index.miss } with ⟨e | indexer, t⟩
    · rw [hb] at hkeeps
      exact hkeeps.trans hmiss
    · rw [hb] at hkeeps
      simp only
      rcases indexer.index s.fs s.here p.directory s.parse with e | made
      · exact hkeeps.trans hmiss
      · exact (hindex t (t.index.store key made) rfl).trans (hkeeps.trans hmiss)
  · exact hindex s _ rfl

/-- What a look for the declarations of a package gives is kept. -/
theorem lookup?_of_yields_indexBy {given : Option Indexer} {p : Package} {index : List Record}
    (h : Yields (indexBy given p) s index s') :
    ∃ key, indexKey s p = .ok key ∧ s'.index.lookup? key = some index := by
  obtain ⟨key, hkey, ⟨hlook, rfl⟩ | ⟨hlook, indexer, t, hbuilder, -, rfl⟩⟩ := yields_indexBy.mp h
  · exact ⟨key, hkey, hlook⟩
  · refine ⟨key, hkey, ?_⟩
    have hkept : Keeps (fun s => s.index.lookup? key) (builder given) :=
      keeps_builder given (fun _ _ _ _ => rfl)
    have hnone : t.index.lookup? key = none := (hkept.of_yields hbuilder).trans hlook
    simp [IndexCache.lookup?_store, hnone]

/-- What is kept once an index is stored was kept before, or is this index. -/
theorem lookup?_of_store {c : IndexCache} {key own : String} {index made : List Record}
    (h : (c.store own made).lookup? key = some index) :
    c.lookup? key = some index ∨ own = key ∧ made = index := by
  rw [IndexCache.lookup?_store] at h
  rcases hold : c.lookup? key with _ | old
  · rw [hold, Option.none_or] at h
    split at h
    · rename_i heq
      exact Or.inr ⟨heq.symm, Option.some.inj h⟩
    · simp at h
  · rw [hold, Option.some_or] at h
    exact Or.inl h

/-- What is kept behind a look for the declarations of a package was kept before, or is what was
    found. -/
theorem lookup?_indexBy {given : Option Indexer} {p : Package} {key : String}
    {index : List Record}
    (h : (outcome (indexBy given p) s).2.index.lookup? key = some index) :
    s.index.lookup? key = some index ∨
      indexKey s p = .ok key ∧ (outcome (indexBy given p) s).1 = .ok index := by
  rw [outcome_indexBy] at h ⊢
  rcases hkey : indexKey s p with e | own
  · rw [hkey] at h
    exact Or.inl h
  rw [hkey] at h
  simp only at h ⊢
  rcases hlook : s.index.lookup? own with _ | found
  · -- Making an index keeps the others, and only one that was made is stored.
    have hkept : Keeps (fun s => s.index.lookup?) (builder given) :=
      keeps_builder given (fun _ _ _ _ => rfl)
    have hsame := hkept { s with index := s.index.miss }
    rw [hlook] at h
    simp only at h ⊢
    rcases hb : outcome (builder given) { s with index := s.index.miss } with ⟨e | indexer, t⟩
    · rw [hb] at h hsame
      exact Or.inl ((congrFun hsame key).symm.trans h)
    rw [hb] at h hsame
    simp only at h ⊢
    rcases hmade : indexer.index s.fs s.here p.directory s.parse with e | made
    · rw [hmade] at h
      exact Or.inl ((congrFun hsame key).symm.trans h)
    · rw [hmade] at h
      rcases lookup?_of_store h with hold | ⟨rfl, rfl⟩
      · exact Or.inl ((congrFun hsame key).symm.trans hold)
      · exact Or.inr ⟨rfl, rfl⟩
  · rw [hlook] at h
    exact Or.inl h

/-- A package is given with its declarations if it is found and they are. -/
theorem yields_findIndexed_some {name root indexes : Argument} {p : Package}
    {index : List Record} :
    Yields (findIndexed name root indexes) s (some (p, index)) s' ↔
      Yields (findPackage name root) s (some p) s ∧ indexes.holds = false ∧
        Yields (indexOf p) s index s' := by
  unfold findIndexed
  rw [(looksOnly_findPackage name root).yields_bind_iff]
  constructor
  · rintro ⟨found, hfound, h⟩
    rcases found with _ | q
    · simp at h
    simp only at h
    split at h
    · exact absurd h yields_throw_bind
    · rename_i hholds
      rw [yields_bind] at h
      obtain ⟨made, u, hmade, h⟩ := h
      obtain ⟨heq, rfl⟩ := yields_pure.mp h
      obtain ⟨rfl, rfl⟩ := Prod.mk.inj (Option.some.inj heq)
      exact ⟨hfound, Bool.eq_false_iff.mpr hholds, hmade⟩
  · rintro ⟨hfound, hholds, hmade⟩
    refine ⟨some p, hfound, ?_⟩
    simp only [hholds]
    exact yields_bind.mpr ⟨index, s', hmade, yields_pure.mpr ⟨rfl, rfl⟩⟩

/-! ### Calls -/

/-- The package that the arguments of a call mean. -/
def Means (args : Arguments) (s : Session) (p : Package) : Prop :=
  ∃ name top, args.get "module" .nothing = .text name ∧
    Yields (rootOf (args.get "root" .nothing)) s top s ∧
    Package.find? s.fs s.here name top = .ok (some p)

theorem means_of_yields {args : Arguments} {p : Package}
    (h : Yields (findPackage (args.get "module" .nothing) (args.get "root" .nothing)) s (some p)
      s') : Means args s p := by
  obtain ⟨name, top, hname, htop, hfind, -⟩ := yields_findPackage_some.mp h
  exact ⟨name, top, hname, htop, hfind⟩

/-- A tool answers as its request does, if its arguments fit. -/
theorem invoke_eq (t : Name) (args : Arguments) (s : Session) :
    t.invoke args s = match t.signature.check (args.map Prod.fst) with
      | .error e => (.failed t.signature.function (.other e.message), s)
      | .ok () => match outcome (t.request args).run s with
        | (.ok answer, s') => (.done answer, s')
        | (.error fault, s') => (.failed t.signature.function fault.failure, s') := rfl

theorem invoke_eq_done_iff {t : Name} {args : Arguments} {a : Answer} :
    t.invoke args s = (.done a, s') ↔
      t.signature.check (args.map Prod.fst) = .ok () ∧ Yields (t.request args).run s a s' := by
  rw [invoke_eq]
  rcases t.signature.check (args.map Prod.fst) with e | ⟨⟩
  · simp
  · unfold Yields
    simp only
    rcases outcome (t.request args).run s with ⟨e | a', u⟩ <;> simp

/-- The session behind a call. -/
def Session.afterCall (s : Session) (t : Name) (args : Arguments) : Session := (t.invoke args s).2

theorem invoke_eq_afterCall {t : Name} {args : Arguments} {a : Answer}
    (h : (t.invoke args s).1 = .done a) : t.invoke args s = (.done a, s.afterCall t args) :=
  Prod.ext h rfl

/-- Callers are told the same where a request gives the same. -/
theorem fst_invoke_congr {t : Name} {args : Arguments}
    (h : (outcome (t.request args).run s).1 = (outcome (t.request args).run s').1) :
    (t.invoke args s).1 = (t.invoke args s').1 := by
  rw [invoke_eq, invoke_eq]
  rcases t.signature.check (args.map Prod.fst) with e | ⟨⟩
  · rfl
  · rcases hr : outcome (t.request args).run s with ⟨r, u⟩
    rcases hr' : outcome (t.request args).run s' with ⟨r', u'⟩
    rw [hr, hr'] at h
    obtain rfl : r = r' := h
    rcases r with e | a <;> rfl

/-- A caller who is told of no error has an answer. -/
theorem exists_answer_of_error?_eq_none {t : Name} {args : Arguments}
    (h : (t.invoke args s).1.error? = none) :
    ∃ a s', t.invoke args s = (.done a, s') ∧ ∀ what, a ≠ .absent what := by
  rcases hr : t.invoke args s with ⟨response, s'⟩
  rw [hr] at h
  cases response with
  | done a =>
    refine ⟨a, s', rfl, ?_⟩
    rintro what rfl
    simp [Response.error?] at h
  | unknownTool name => simp [Response.error?] at h
  | failed function failure => simp [Response.error?] at h

/-! ### A small project -/

/-- The source in the small project. -/
def smallSource : ByteArray := "enum A \x7b\x7d\n".toUTF8

/-- A project with one package, which is installed under two names and holds one declaration. -/
def smallFiles : FileSystem :=
  ⟨[(["W"], .directory),
    (["W", "package.json"], .file "\x7b\x7d".toUTF8),
    (["W", "node_modules"], .directory),
    (["W", "node_modules", "a"], .directory),
    (["W", "node_modules", "a", "package.json"], .file "\x7b\x7d".toUTF8),
    (["W", "node_modules", "a", "x.ts"], .file smallSource),
    (["W", "node_modules", "b"], .link "a")]⟩

/-- The declaration in the source. -/
def smallNode : Syntax.Node :=
  let token := fun kind column size =>
    Syntax.Node.mk kind none false ⟨⟨0, column⟩, ⟨0, column + size⟩, column, column + size⟩ []
  .mk "enum_declaration" none true ⟨⟨0, 0⟩, ⟨0, 9⟩, 0, 9⟩
    [token "enum" 0 4,
      .mk "identifier" (some "name") true ⟨⟨0, 5⟩, ⟨0, 6⟩, 5, 6⟩ [],
      .mk "enum_body" (some "body") true ⟨⟨0, 7⟩, ⟨0, 9⟩, 7, 9⟩
        [token "\x7b" 7 1, token "\x7d" 8 1]]

/-- The syntax tree of the source. -/
def smallTree : Syntax.Node := .mk "program" none true ⟨⟨0, 0⟩, ⟨1, 0⟩, 0, 10⟩ [smallNode]

/-- A session in the small project. -/
def smallSession : Session :=
  { Session.new smallFiles (FileSystem.standing ["W"]) ⟨[], "/tmp"⟩ with
    parse := fun _ _ => smallTree }

/-- The package of the small project under one of its names. -/
def smallPackage (name : String) : Package :=
  ⟨.ofString name, Package.unknownVersion, "/W/node_modules/" ++ name⟩

/-- The record of the declaration in the small project. -/
def smallRecord : Record := ⟨.enum, "A", "x.ts", 1, 1, "enum A \x7b\x7d"⟩

/-- A session in the small project in which the declaration has been looked for. -/
def smallSessionLater : Session :=
  { smallSession with index := ⟨[("/W/node_modules/a", [smallRecord])], 0, 1, none⟩ }

end PackageAtlas.Tool
