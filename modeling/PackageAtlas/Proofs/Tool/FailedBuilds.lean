import PackageAtlas.Proofs.Tool.IndexEffects

namespace PackageAtlas.Tool

open Declaration (IndexCache Indexer)

/-!
# Indexes that cannot be made

A request for an index that has to be made is counted before that is tried:

* `holdings_of_error`: what a request leaves that fails;
* `Happening`, `Session.afterEach`: what can happen to a session, one thing after another;
* `failsToBuild`, `Session.failedBuilds`: the calls for which no index could be made;
* `misses_behind`, `misses_afterEach`: misses are indexes that are kept, and such calls;
* `failed_builds_are_misses`: what a request that fails does, and what is told of the counts.
-/

variable {s t : Session} {p : Package}

/-! ### Requests that fail -/

/-- A request that fails leaves a miss, if there is a key to miss. -/
theorem holdings_of_error {given : Option Indexer} {fault : Fault}
    (h : outcome (indexBy given p) s = (.error fault, t)) :
    t.index.entries = s.index.entries ∧ t.index.hits = s.index.hits ∧
      t.index.misses = s.index.misses + if (indexKey s p).isOk then 1 else 0 := by
  obtain rfl : s.after (indexBy given p) = t := congrArg Prod.snd h
  rcases hkey : indexKey s p with e | key
  · exact Session.holdings_eq_iff.mp (holdings_of_no_key hkey given)
  · have hasked := requested_of_indexKey hkey given
    rw [h] at hasked
    cases hasked with
    | failed _ hleft => exact Session.holdings_eq_iff.mp hleft

/-! ### Runs -/

/-- What can happen to a session. -/
inductive Happening where
  /-- A tool is called by its name. -/
  | call (name : String) (args : Arguments)
  /-- The environment becomes another one. -/
  | environment (env : Environment)
  /-- The settings are forgotten. -/
  | forget
  /-- The files change, and maybe the place where one stands. -/
  | change (fs : FileSystem) (here : Standpoint)

/-- The session behind something that happens. -/
def Happening.behind : Happening → Session → Session
  | .call name args, s => Operation.behind (.tool name args) s
  | .environment env, s => { s with env := env }
  | .forget, s => { s with settings := none }
  | .change fs here, s => { s with fs := fs, here := here }

/-- Whether the index of a package is asked for, but is not kept and cannot be made. -/
def Session.failsToBuild (s : Session) (p : Package) : Bool :=
  (indexKey s p).isOk && !(outcome (indexOf p) s).1.isOk

/-- How many calls ask for an index that cannot be made: one or none. -/
def Happening.failures : Happening → Session → Nat
  | .call name args, s => ((askedBy? name args s).any s.failsToBuild).toNat
  | _, _ => 0

/-- The session after some things have happened. -/
def Session.afterEach (s : Session) : List Happening → Session
  | [] => s
  | h :: rest => (h.behind s).afterEach rest

/-- How many calls asked for an index that could not be made. -/
def Session.failedBuilds (s : Session) : List Happening → Nat
  | [] => 0
  | h :: rest => h.failures s + (h.behind s).failedBuilds rest

/-- A request makes as many misses as indexes, unless an index cannot be made. -/
theorem misses_afterAsking {n : Nat} (p : Package)
    (hs : s.index.misses = s.index.entries.length + n) :
    (s.after (indexOf p)).index.misses =
      (s.after (indexOf p)).index.entries.length + (n + (s.failsToBuild p).toNat) := by
  unfold Session.failsToBuild indexOf
  -- Without a key nothing is counted; else the request is a hit, a failure or a new index.
  rcases hkey : indexKey s p with e | key
  · obtain ⟨hentries, -, hmisses⟩ := Session.holdings_eq_iff.mp (holdings_of_no_key hkey none)
    rw [hentries, hmisses]
    exact hs
  have hasked := requested_of_indexKey hkey none
  rcases hr : (outcome (indexBy none p) s).1 with fault | index <;> rw [hr] at hasked
  · cases hasked with
    | failed _ hleft =>
      obtain ⟨hentries, -, hmisses⟩ := Session.holdings_eq_iff.mp hleft
      rw [hentries, hmisses, hs]
      rfl
  · cases hasked with
    | hit _ hleft =>
      obtain ⟨hentries, -, hmisses⟩ := Session.holdings_eq_iff.mp hleft
      rw [hentries, hmisses]
      exact hs
    | made _ hleft =>
      obtain ⟨hentries, -, hmisses⟩ := Session.holdings_eq_iff.mp hleft
      rw [hentries, hmisses, List.length_append, hs]
      exact Nat.add_right_comm _ _ _

/-- **One thing that happens.** Misses become more as indexes do, or as indexes cannot be made. -/
theorem misses_behind {n : Nat} (h : Happening) (hs : s.index.misses = s.index.entries.length + n) :
    (h.behind s).index.misses = (h.behind s).index.entries.length + (n + h.failures s) := by
  cases h with
  | environment env => exact hs
  | forget => exact hs
  | change fs here => exact hs
  | call name args =>
    obtain ⟨hentries, -, hmisses⟩ := Session.holdings_eq_iff.mp (holdings_behind_tool name args s)
    simp only [Happening.behind, Happening.failures]
    rw [hentries, hmisses]
    rcases askedBy? name args s with _ | p
    · exact hs
    · exact misses_afterAsking p hs

/-- **A run.** -/
theorem misses_afterEach {n : Nat} (happenings : List Happening)
    (hs : s.index.misses = s.index.entries.length + n) :
    (s.afterEach happenings).index.misses =
      (s.afterEach happenings).index.entries.length + (n + s.failedBuilds happenings) := by
  induction happenings generalizing s n with
  | nil => exact hs
  | cons h rest ih =>
    rw [Session.afterEach, Session.failedBuilds, ih (misses_behind h hs), Nat.add_assoc n]

/-! ### What is told -/

/-- **Failed builds are misses.** A request that fails leaves the indexes and the hits as they are,
    and one more miss, unless there is not even a key. So where there were no indexes at first, the
    counts that are told are one miss for each package and one for each call for which no index could
    be made, whatever has happened. -/
theorem failed_builds_are_misses :
    (∀ (s t : Session) (given : Option Indexer) (p : Package) (fault : Fault),
      outcome (indexBy given p) s = (.error fault, t) →
      t.index.entries = s.index.entries ∧ t.index.hits = s.index.hits ∧
        t.index.misses = s.index.misses + if (indexKey s p).isOk then 1 else 0) ∧
    ∀ (s : Session) (indexer : Option Indexer) (happenings : List Happening),
      s.index = IndexCache.new indexer →
      ∃ stats, (Name.getIndexStats.invoke [] (s.afterEach happenings)).1 = .done (.stats stats) ∧
        stats.misses = stats.packages + s.failedBuilds happenings := by
  refine ⟨fun s t given p fault h => holdings_of_error h, fun s indexer happenings hnew => ?_⟩
  have hstart : s.index.misses = s.index.entries.length + 0 := by
    rw [hnew]
    rfl
  have hmisses := misses_afterEach happenings hstart
  rw [Nat.zero_add] at hmisses
  exact ⟨(s.afterEach happenings).index.stats, rfl, hmisses⟩

/-- A session in the small project, the environment of which gives no settings. -/
def loudSession : Session :=
  { smallSession with env := ⟨[("NODE_MODULES_MCP_LOG_LEVEL", "LOUD")], "/tmp"⟩ }

/-- The declaration in the small project is asked for, once more when the environment gives
    settings, and once more behind that. -/
def loudHappenings : List Happening :=
  [.call "get_symbol" askingArguments, .environment ⟨[], "/tmp"⟩,
    .call "get_symbol" askingArguments, .forget,
    .environment ⟨[("NODE_MODULES_MCP_LOG_LEVEL", "LOUD")], "/tmp"⟩,
    .call "get_symbol" askingArguments]

/-- A request fails where there are no settings, and of two misses that are told of in the end one
    is that of the package. -/
theorem failed_builds_are_misses_loud :
    (∃ fault t, outcome (indexBy none (smallPackage "a")) loudSession = (.error fault, t) ∧
      t.index.misses = 1) ∧
    loudSession.index = IndexCache.new none ∧ loudSession.failedBuilds loudHappenings = 1 ∧
    ∃ stats, (Name.getIndexStats.invoke [] (loudSession.afterEach loudHappenings)).1 =
        .done (.stats stats) ∧ stats.misses = stats.packages + 1 := by
  have hfailed : loudSession.failedBuilds loudHappenings = 1 := by decide +kernel
  have hkey : (indexKey loudSession (smallPackage "a")).isOk = true := by decide +kernel
  have herror : (outcome (indexBy none (smallPackage "a")) loudSession).1 =
      .error (.settings (.unknownLevel "LOUD")) := by decide +kernel
  refine ⟨⟨_, _, Prod.ext herror rfl, ?_⟩, rfl, hfailed, ?_⟩
  · have hmisses := (failed_builds_are_misses.1 _ _ _ _ _ (Prod.ext herror rfl)).2.2
    rw [hkey] at hmisses
    exact hmisses
  · have htold := failed_builds_are_misses.2 loudSession none loudHappenings rfl
    rw [hfailed] at htold
    exact htold

/-- **A failed build that is counted.** The settings are no good, so no index can be made, and a miss
    is told of without a package. -/
theorem failed_build_counted :
    (outcome (indexBy none (smallPackage "a")) loudSession).1.isOk = false ∧
    (loudSession.after (indexBy none (smallPackage "a"))).index.misses =
      loudSession.index.misses + 1 ∧
    (Name.getIndexStats.invoke []
      (loudSession.afterEach [.call "get_symbol" askingArguments])).1 =
        .done (.stats ⟨0, 0, 0, 1, 0⟩) :=
  ⟨by decide +kernel, by decide +kernel, by decide +kernel⟩

end PackageAtlas.Tool
