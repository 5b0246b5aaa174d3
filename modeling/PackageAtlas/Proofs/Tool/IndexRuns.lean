import Mathlib.Algebra.BigOperators.Group.Finset.Basic
import PackageAtlas.Proofs.Tool.Steps

namespace PackageAtlas.Tool

open Declaration (CacheStats IndexCache Indexer Record)

/-!
# Runs of the indexes

What a session tells of its indexes follows from what was asked of it before, whatever happens to
the files in between:

* `Event`, `Reply`, `Moment`: what happens, what is told, and both with the session before;
* `moments`: a run; `sinceClear`: the part of it that counts;
* `Moment.key?`, `Moment.built`: the key of a request, and the index that it would make;
* `Remembers`: what a session knows of its past, with `Remembers.step` for one event;
* `indexes_follow_history`: every reply of every run.
-/

/-! ### Runs -/

/-- What can happen to the indexes of a session. -/
inductive Event where
  /-- The files change, and maybe the place where one stands. -/
  | change (fs : FileSystem) (here : Standpoint)
  /-- The declarations of a package are asked for. -/
  | request (p : Package) (given : Option Indexer)
  /-- It is asked whether the declarations of a package are kept. -/
  | ask (p : Package)
  | count
  | clear

/-- What is told. -/
inductive Reply where
  | nothing
  | index (found : List Record)
  | kept (answer : Bool)
  | counts (stats : CacheStats)

/-- What an event does. -/
def Event.action : Event → Action Reply
  | .change fs here => do
    modify (fun s => { s with fs := fs, here := here })
    return .nothing
  | .request p given => return .index (← indexBy given p)
  | .ask p => return .kept (← isIndexed p)
  | .count => return .counts (← get).index.stats
  | .clear => do
    clearIndexes
    return .nothing

/-- An event, with the session before it and what is told behind it. -/
structure Moment where
  before : Session
  event : Event
  reply : Except Fault Reply

/-- What happens in a session, event after event. -/
def moments (s : Session) : List Event → List Moment
  | [] => []
  | e :: events =>
    ⟨s, e, (outcome e.action s).1⟩ :: moments (outcome e.action s).2 events

theorem moments_eq_trace (s : Session) (events : List Event) :
    moments s events =
      trace (fun s e => s.after e.action) (fun s e => ⟨s, e, (outcome e.action s).1⟩) s events := by
  induction events generalizing s with
  | nil => rfl
  | cons e events ih => exact congrArg _ (ih _)

namespace Moment

/-- Whether the indexes are dropped. -/
def isClear (m : Moment) : Bool :=
  match m.event with
  | .clear => true
  | _ => false

/-- Whether declarations are asked for. -/
def isRequest (m : Moment) : Bool :=
  match m.event with
  | .request _ _ => true
  | _ => false

/-- Whether declarations are asked for and cannot be given. -/
def isFailure (m : Moment) : Bool :=
  match m.event, m.reply with
  | .request _ _, .error _ => true
  | _, _ => false

/-- The key of the package whose declarations are asked for, in the files of the moment. -/
def key? (m : Moment) : Option String :=
  match m.event with
  | .request p _ => (indexKey m.before p).toOption
  | _ => none

/-- The index that a request would make of the files of the moment. -/
def built (m : Moment) : Except Fault (List Record) :=
  match m.event with
  | .request p given => do
    let indexer ← (m.before.indexerFor given).mapError Fault.settings
    (indexer.index m.before.fs m.before.here p.directory m.before.parse).mapError Fault.file
  | _ => .ok []

end Moment

/-- The moments since the indexes were dropped last. -/
def sinceClear (past : List Moment) : List Moment :=
  (past.reverse.takeWhile (fun m => !m.isClear)).reverse

/-- The first of some moments in which the index of a key was asked for. -/
def firstRequest (past : List Moment) (key : String) : Option Moment :=
  past.find? (fun m => m.key? == some key)

/-- The keys that were asked for. -/
def requestedKeys (past : List Moment) : Finset String := (past.filterMap Moment.key?).toFinset

/-- The index that was made for a key when it was asked for first. -/
def storedIndex (past : List Moment) (key : String) : List Record :=
  match firstRequest past key with
  | some first => first.built.toOption.getD []
  | none => []

theorem sinceClear_concat (past : List Moment) (m : Moment) :
    sinceClear (past ++ [m]) = if m.isClear then [] else sinceClear past ++ [m] := by
  unfold sinceClear
  rw [List.reverse_append, List.reverse_singleton, List.singleton_append, List.takeWhile_cons]
  cases m.isClear <;> simp

theorem firstRequest_concat (past : List Moment) (m : Moment) (key : String) :
    firstRequest (past ++ [m]) key =
      (firstRequest past key).or (if m.key? = some key then some m else none) := by
  unfold firstRequest
  rw [List.find?_append]
  congr 1
  rw [List.find?_singleton]
  simp

theorem mem_requestedKeys {past : List Moment} {key : String} :
    key ∈ requestedKeys past ↔ (firstRequest past key).isSome = true := by
  unfold requestedKeys firstRequest
  simp

/-! ### What events do -/

theorem outcome_request (p : Package) (given : Option Indexer) (s : Session) :
    outcome (Event.request p given).action s =
      ((outcome (indexBy given p) s).1.map .index, (outcome (indexBy given p) s).2) := by
  unfold Event.action
  rw [outcome_bind]
  rcases outcome (indexBy given p) s with ⟨e | index, t⟩ <;> rfl

theorem outcome_ask (p : Package) (s : Session) :
    outcome (Event.ask p).action s =
      (((indexKey s p).mapError Fault.file).map (fun key =>
        .kept (s.index.lookup? key).isSome), s) := by
  unfold Event.action isIndexed
  simp only [outcome_bind, outcome_get, outcome_orFault]
  rcases indexKey s p with e | key <;> rfl

/-- The counts and the indexes of a session do not change where the indexer is made. -/
theorem keeps_counts_builder {given : Option Indexer} :
    Keeps (fun s => (s.index.entries, s.index.hits, s.index.misses)) (builder given) :=
  keeps_builder given (fun _ _ _ _ => rfl)

theorem isSome_lookup?_iff {c : IndexCache} {key : String} :
    (c.lookup? key).isSome = true ↔ key ∈ c.entries.map Prod.fst := by
  rw [IndexCache.lookup?, List.lookup_isSome_iff, List.mem_map]
  refine exists_congr (fun e => and_congr_right (fun _ => ?_))
  rw [beq_iff_eq]
  exact eq_comm

/-- Where keys are different, each of them finds its own index. -/
theorem lookup?_of_mem {c : IndexCache} (h : (c.entries.map Prod.fst).Nodup)
    {e : String × List Record} (he : e ∈ c.entries) : c.lookup? e.1 = some e.2 := by
  obtain ⟨index, hindex⟩ := Option.isSome_iff_exists.mp
    (isSome_lookup?_iff.mpr (List.mem_map_of_mem he))
  obtain ⟨before, after, hentries, -⟩ := List.lookup_eq_some_iff.mp hindex
  have hmem : (e.1, index) ∈ c.entries := by
    rw [hentries]
    simp
  have heq : (e.1, index) = e := List.inj_on_of_nodup_map h hmem he rfl
  rw [hindex, ← heq]

/-! ### What a session remembers -/

variable {s s' : Session} {past : List Moment} {m : Moment} {p : Package} {key : String}
  {index : List Record}

/-- The indexes of a session are those that were made when their keys were asked for first, and its
    counts are those of the requests. -/
structure Remembers (s : Session) (past : List Moment) : Prop where
  lookup : ∀ key, (firstRequest past key).map Moment.built = (s.index.lookup? key).map Except.ok
  nodup : (s.index.entries.map Prod.fst).Nodup
  requests : s.index.hits + s.index.misses = past.countP Moment.isRequest
  misses : s.index.misses = s.index.entries.length

namespace Remembers

/-- Without a past there are no indexes. -/
theorem nil (hentries : s.index.entries = []) (hhits : s.index.hits = 0)
    (hmisses : s.index.misses = 0) : Remembers s [] := by
  refine ⟨fun key => ?_, ?_, ?_, ?_⟩
  · simp [firstRequest, IndexCache.lookup?, hentries]
  · simp [hentries]
  · simp [hhits, hmisses]
  · simp [hentries, hmisses]

/-- A key was asked for if and only if its index is kept. -/
theorem isSome_firstRequest (h : Remembers s past) (key : String) :
    (firstRequest past key).isSome = (s.index.lookup? key).isSome := by
  have hlook := congrArg Option.isSome (h.lookup key)
  rw [Option.isSome_map, Option.isSome_map] at hlook
  exact hlook

/-- An event without a request leaves what is remembered. -/
theorem concat_other (h : Remembers s past) (hindex : s'.index = s.index) (hkey : m.key? = none)
    (hrequest : m.isRequest = false) : Remembers s' (past ++ [m]) := by
  refine ⟨fun key => ?_, ?_, ?_, ?_⟩
  · rw [firstRequest_concat, hkey, hindex, ← h.lookup key]
    simp
  · rw [hindex]
    exact h.nodup
  · rw [hindex, h.requests, List.countP_append]
    simp [hrequest]
  · rw [hindex]
    exact h.misses

/-- A request for a key that was asked for before is counted as a hit. -/
theorem concat_hit (h : Remembers s past) (hindex : s'.index = s.index.hit)
    (hkey : m.key? = some key) (hrequest : m.isRequest = true)
    (hlook : s.index.lookup? key = some index) : Remembers s' (past ++ [m]) := by
  refine ⟨fun q => ?_, ?_, ?_, ?_⟩
  · rw [firstRequest_concat, hkey, hindex, IndexCache.lookup?_hit, ← h.lookup q]
    by_cases hq : key = q
    · -- The first request for the key lies in the past.
      subst hq
      have hsome := h.isSome_firstRequest key
      rw [hlook, Option.isSome_some] at hsome
      obtain ⟨first, hfirst⟩ := Option.isSome_iff_exists.mp hsome
      rw [hfirst, Option.some_or]
    · simp [hq]
  · rw [hindex]
    exact h.nodup
  · rw [hindex, List.countP_append, ← h.requests]
    simp [IndexCache.hit, hrequest]
    omega
  · rw [hindex]
    exact h.misses

/-- A request for a new key makes its index and is counted as a miss. -/
theorem concat_miss (h : Remembers s past)
    (hentries : s'.index.entries = s.index.entries ++ [(key, index)])
    (hhits : s'.index.hits = s.index.hits) (hmisses : s'.index.misses = s.index.misses + 1)
    (hkey : m.key? = some key) (hrequest : m.isRequest = true) (hbuilt : m.built = .ok index)
    (hlook : s.index.lookup? key = none) : Remembers s' (past ++ [m]) := by
  -- What is not found has not been asked for, since the first request leaves its index.
  have hnone : firstRequest past key = none := by
    have hsome := h.isSome_firstRequest key
    rw [hlook, Option.isSome_none] at hsome
    simpa using hsome
  refine ⟨fun q => ?_, ?_, ?_, ?_⟩
  · have hstore : s'.index.lookup? q = (s.index.store key index).lookup? q := by
      rw [IndexCache.lookup?, hentries]
      rfl
    rw [hstore, IndexCache.lookup?_store, firstRequest_concat, hkey]
    by_cases hq : q = key
    · subst hq
      simp [hnone, hlook, hbuilt]
    · simp [hq, Ne.symm hq, h.lookup q]
  · have hnew : key ∉ s.index.entries.map Prod.fst := by
      intro hmem
      obtain ⟨e, he, heq⟩ := List.mem_map.mp hmem
      have hne := List.lookup_eq_none_iff.mp hlook e he
      simp [heq] at hne
    rw [hentries, List.map_append]
    exact h.nodup.append (List.nodup_singleton key) (by simpa using hnew)
  · rw [hhits, hmisses, List.countP_append, ← h.requests]
    simp [hrequest]
    omega
  · rw [hentries, hmisses, h.misses]
    simp

/-- A request is a hit or a miss. -/
theorem concat_request {given : Option Indexer} (h : Remembers s past) (hbefore : m.before = s)
    (hevent : m.event = .request p given) (hr : Yields (indexBy given p) s index s') :
    Remembers s' (past ++ [m]) := by
  have hrequest : m.isRequest = true := by rw [Moment.isRequest, hevent]
  have hkey? : m.key? = (indexKey s p).toOption := by rw [Moment.key?, hevent, hbefore]
  obtain ⟨key, hkey, ⟨hlook, rfl⟩ | ⟨hlook, indexer, u, hbuilder, hmade, rfl⟩⟩ :=
    yields_indexBy.mp hr
  · rw [hkey] at hkey?
    exact h.concat_hit rfl hkey? hrequest hlook
  · rw [hkey] at hkey?
    obtain ⟨hentries, hhits, hmisses⟩ : u.index.entries = s.index.entries ∧
        u.index.hits = s.index.hits ∧ u.index.misses = s.index.misses + 1 := by
      have hcounts := keeps_counts_builder.of_yields hbuilder
      simp only [Prod.mk.injEq] at hcounts
      exact hcounts
    have hstored : (u.index.store key index).entries = s.index.entries ++ [(key, index)] := by
      rw [IndexCache.store, hentries]
    -- The indexer of the request is the one that the session has for it.
    have hfor : (s.indexerFor given).mapError Fault.settings = .ok indexer := by
      have hfst := outcome_builder_fst given { s with index := s.index.miss }
      rw [hbuilder] at hfst
      exact hfst.symm
    have hbuilt : m.built = .ok index := by
      simp only [Moment.built, hevent, hbefore, hfor]
      show (indexer.index s.fs s.here p.directory s.parse).mapError Fault.file = .ok index
      rw [hmade]
      rfl
    exact h.concat_miss hstored hhits hmisses hkey? hrequest hbuilt hlook

/-- **One event.** Behind an event a session remembers the event as well, or nothing if its indexes
    were dropped. -/
theorem step (h : Remembers s past) (e : Event) (hm : m = ⟨s, e, (outcome e.action s).1⟩)
    (hok : m.isFailure = false) :
    Remembers (outcome e.action s).2 (if m.isClear then [] else past ++ [m]) := by
  subst hm
  cases e with
  | change fs here => exact h.concat_other rfl rfl rfl
  | count => exact h.concat_other rfl rfl rfl
  | clear => exact nil rfl rfl rfl
  | ask p =>
    refine h.concat_other ?_ rfl rfl
    rw [outcome_ask]
  | request p given =>
    rcases hr : outcome (indexBy given p) s with ⟨e | index, t⟩
    · rw [outcome_request, hr] at hok
      simp [Moment.isFailure, Except.map] at hok
    · rw [outcome_request, hr]
      exact h.concat_request rfl rfl hr

end Remembers

/-- **A run.** Before every event of a run a session remembers all that happened since its indexes
    were dropped. -/
theorem remembers_of_moments {future : List Moment} {events : List Event}
    (hstart : Remembers s [])
    (hok : ∀ m ∈ moments s events, m.isFailure = false)
    (hsplit : moments s events = past ++ m :: future) :
    Remembers m.before (sinceClear past) ∧ m.reply = (outcome m.event.action m.before).1 := by
  rw [moments_eq_trace] at hok hsplit
  have hstep : ∀ s past e, Remembers s (sinceClear past) →
      (Moment.mk s e (outcome e.action s).1).isFailure = false →
      Remembers (s.after e.action) (sinceClear (past ++ [⟨s, e, (outcome e.action s).1⟩])) := by
    intro s past e h hne
    rw [sinceClear_concat]
    exact h.step e rfl hne
  obtain ⟨t, e, hremembers, rfl⟩ :=
    trace_induction (J := fun s past => Remembers s (sinceClear past)) hstep
      (show Remembers s (sinceClear []) from hstart) hok hsplit
  exact ⟨hremembers, rfl⟩

/-! ### What is told -/

/-- A reply follows from the past: declarations are those that were found when their key was asked
    for first, and counts are those of the requests, all since the indexes were dropped. -/
structure FollowsHistory (past : List Moment) (m : Moment) : Prop where
  request : ∀ p given, m.event = .request p given →
    ∃ key first index, indexKey m.before p = .ok key ∧
      firstRequest (sinceClear past ++ [m]) key = some first ∧ first.built = .ok index ∧
      m.reply = .ok (.index index)
  ask : ∀ p, m.event = .ask p →
    m.reply = ((indexKey m.before p).mapError Fault.file).map (fun key =>
      .kept (firstRequest (sinceClear past) key).isSome)
  count : m.event = .count → ∃ c, m.reply = .ok (.counts c) ∧
    c.hits + c.misses = (sinceClear past).countP Moment.isRequest ∧
    c.misses = c.packages ∧ c.packages = (requestedKeys (sinceClear past)).card ∧
    c.declarations =
      ∑ key ∈ requestedKeys (sinceClear past), (storedIndex (sinceClear past) key).length

namespace Remembers

/-- The index that is asked for is that of the first request for its key. -/
theorem exists_firstRequest {given : Option Indexer} (h : Remembers s past)
    (hbefore : m.before = s) (hevent : m.event = .request p given)
    (hr : Yields (indexBy given p) s index s') :
    ∃ key first, indexKey s p = .ok key ∧ firstRequest (past ++ [m]) key = some first ∧
      first.built = .ok index := by
  obtain ⟨key, hkey, hlook⟩ := lookup?_of_yields_indexBy hr
  have hfirst := (h.concat_request hbefore hevent hr).lookup key
  rw [hlook, Option.map_some] at hfirst
  obtain ⟨first, hfound, hbuilt⟩ := Option.map_eq_some_iff.mp hfirst
  exact ⟨key, first, hkey, hfound, hbuilt⟩

/-- The keys that were asked for are those of the indexes that are kept. -/
theorem requestedKeys_eq (h : Remembers s past) :
    requestedKeys past = (s.index.entries.map Prod.fst).toFinset := by
  ext key
  rw [mem_requestedKeys, h.isSome_firstRequest, List.mem_toFinset, isSome_lookup?_iff]

theorem storedIndex_eq (h : Remembers s past) (hlook : s.index.lookup? key = some index) :
    storedIndex past key = index := by
  have hfirst := h.lookup key
  rw [hlook, Option.map_some] at hfirst
  obtain ⟨first, hfound, hbuilt⟩ := Option.map_eq_some_iff.mp hfirst
  rw [storedIndex, hfound]
  simp only [hbuilt]
  rfl

theorem stats_eq (h : Remembers s past) :
    s.index.stats.packages = (requestedKeys past).card ∧
      s.index.stats.declarations =
        ∑ key ∈ requestedKeys past, (storedIndex past key).length := by
  rw [h.requestedKeys_eq, List.toFinset_card_of_nodup h.nodup, List.sum_toFinset _ h.nodup]
  refine ⟨by simp [IndexCache.stats], ?_⟩
  -- Both sums run through the indexes that are kept, in their order.
  rw [List.map_map]
  show (s.index.entries.map (fun e => e.2.length)).sum = _
  congr 1
  apply List.map_congr_left
  intro e he
  show e.2.length = (storedIndex past e.1).length
  rw [h.storedIndex_eq (lookup?_of_mem h.nodup he)]

/-- What is told in a moment follows from what the session remembers. -/
theorem followsHistory (h : Remembers m.before (sinceClear past))
    (hreply : m.reply = (outcome m.event.action m.before).1) (hok : m.isFailure = false) :
    FollowsHistory past m := by
  refine ⟨fun p given hevent => ?_, fun p hevent => ?_, fun hevent => ?_⟩
  · rw [hevent, outcome_request] at hreply
    rcases hr : outcome (indexBy given p) m.before with ⟨e | index, t⟩
    · rw [hr] at hreply
      simp [Moment.isFailure, hevent, hreply, Except.map] at hok
    · rw [hr] at hreply
      obtain ⟨key, first, hkey, hfirst, hbuilt⟩ := h.exists_firstRequest rfl hevent hr
      exact ⟨key, first, index, hkey, hfirst, hbuilt, hreply⟩
  · rw [hreply, hevent, outcome_ask]
    simp only [h.isSome_firstRequest]
  · obtain ⟨hpackages, hdeclarations⟩ := h.stats_eq
    refine ⟨m.before.index.stats, ?_, h.requests, h.misses, hpackages, hdeclarations⟩
    rw [hreply, hevent]
    rfl

end Remembers

/-- **Runs of the indexes.** Where there are no indexes yet, every reply of a run in which no
    request fails follows from the requests since the indexes were dropped, whatever happens to the
    files. -/
theorem indexes_follow_history {s : Session} {indexer : Option Indexer}
    (hnew : s.index = IndexCache.new indexer) (events : List Event)
    (hok : ∀ m ∈ moments s events, m.isFailure = false) :
    ∀ past m future, moments s events = past ++ m :: future → FollowsHistory past m := by
  intro past m future hsplit
  have hstart : Remembers s [] :=
    .nil (by rw [hnew]; rfl) (by rw [hnew]; rfl) (by rw [hnew]; rfl)
  obtain ⟨hbefore, hreply⟩ := remembers_of_moments hstart hok hsplit
  exact hbefore.followsHistory hreply (hok m (by simp [hsplit]))

/-- A run in a small project: a package is asked for under both of its names, and under one of them
    once more when that leads elsewhere; then all is dropped. -/
def smallEvents : List Event :=
  let a : Package := ⟨.ofString "a", Package.unknownVersion, "/W/node_modules/a"⟩
  let b : Package := ⟨.ofString "b", Package.unknownVersion, "/W/node_modules/b"⟩
  let moved := (smallFiles.put ["W", "c"] .directory).put ["W", "node_modules", "b"]
    (.link "../c")
  [.request a none, .ask b, .request b (some ⟨1, .docs⟩), .change moved (FileSystem.standing ["W"]),
    .ask b, .request b none, .count, .clear, .ask a, .count]

/-- The small project. -/
theorem indexes_follow_history_small :
    smallSession.index = IndexCache.new none ∧
    (∀ m ∈ moments smallSession smallEvents, m.isFailure = false) ∧
    ∀ past m future, moments smallSession smallEvents = past ++ m :: future →
      FollowsHistory past m := by
  have hok : ∀ m ∈ moments smallSession smallEvents, m.isFailure = false := by decide +kernel
  exact ⟨rfl, hok, indexes_follow_history rfl smallEvents hok⟩

end PackageAtlas.Tool
