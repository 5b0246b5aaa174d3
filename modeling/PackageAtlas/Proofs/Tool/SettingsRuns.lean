import Mathlib.Data.List.DropRight
import PackageAtlas.Proofs.Settings
import PackageAtlas.Proofs.Tool.Steps

namespace PackageAtlas.Tool

/-!
# Runs of the settings

Settings are made of the environment when they are asked for first, and kept until they are
forgotten, whatever the environment becomes in between:

* `Turn`, `Instant`, `instants`: what happens to the settings, with what is told, and a run;
* `sinceForgetting`, `firstAnswer`: the part of a run that counts, and where settings were made;
* `Recalls`: what a session knows of its past, with `Recalls.step` for one turn;
* `settings_follow_environment`: every reply of every run.
-/

/-! ### Runs -/

/-- What can happen to the settings of a session. -/
inductive Turn where
  /-- The environment becomes another. -/
  | environment (env : Environment)
  /-- The settings are asked for. -/
  | ask
  /-- The settings are forgotten. -/
  | forget

/-- What a turn does, and the settings that it gives. -/
def Turn.action : Turn → Action (Option Settings)
  | .environment env => do
    modify (fun s => { s with env := env })
    return none
  | .ask => return some (← currentSettings)
  | .forget => do
    modify (fun s => { s with settings := none })
    return none

/-- A turn, with the session before it and what is told behind it. -/
structure Instant where
  before : Session
  turn : Turn
  reply : Except Fault (Option Settings)

/-- What happens in a session, turn after turn. -/
def instants (s : Session) (turns : List Turn) : List Instant :=
  trace (fun s t => s.after t.action) (fun s t => ⟨s, t, (outcome t.action s).1⟩) s turns

namespace Instant

/-- Whether the settings are forgotten. -/
def isForgetting (m : Instant) : Bool :=
  match m.turn with
  | .forget => true
  | _ => false

/-- Whether settings are given. -/
def isAnswer (m : Instant) : Bool :=
  match m.reply with
  | .ok (some _) => true
  | _ => false

end Instant

/-- The instants since the settings were forgotten last. -/
def sinceForgetting (past : List Instant) : List Instant :=
  past.rtakeWhile (fun m => !m.isForgetting)

/-- The first of some instants in which settings were given. -/
def firstAnswer (past : List Instant) : Option Instant := past.find? Instant.isAnswer

theorem sinceForgetting_concat (past : List Instant) (m : Instant) :
    sinceForgetting (past ++ [m]) =
      if m.isForgetting then [] else sinceForgetting past ++ [m] := by
  unfold sinceForgetting
  rw [List.rtakeWhile_concat]
  cases m.isForgetting <;> rfl

theorem firstAnswer_concat (past : List Instant) (m : Instant) :
    firstAnswer (past ++ [m]) =
      (firstAnswer past).or (if m.isAnswer then some m else none) := by
  rw [firstAnswer, List.find?_append, List.find?_singleton]
  rfl

theorem outcome_turn_ask (s : Session) :
    outcome Turn.ask.action s = match s.config with
      | .ok c => (.ok (some c), { s with settings := some c })
      | .error e => (.error (.settings e), s) := by
  unfold Turn.action
  rw [outcome_bind, outcome_currentSettings]
  rcases s.config with e | c <;> rfl

/-! ### What a session recalls -/

variable {s s' : Session} {past : List Instant} {m : Instant} {c : Settings}

/-- The settings that a session keeps are those of the environment in which they were given first,
    and it keeps none if none were given. -/
def Recalls (s : Session) (past : List Instant) : Prop :=
  (firstAnswer past).map (fun m => Settings.ofEnvironment m.before.env) = s.settings.map .ok

namespace Recalls

/-- A session goes by the settings of the environment in which they were given first, or else of its
    own environment. -/
theorem config_eq (h : Recalls s past) :
    s.config = Settings.ofEnvironment (((firstAnswer past).map (·.before.env)).getD s.env) := by
  unfold Recalls at h
  unfold Session.config
  rcases hfirst : firstAnswer past with _ | first
  · rw [hfirst, Option.map_none] at h
    rw [Option.map_eq_none_iff.mp h.symm]
    rfl
  · rw [hfirst, Option.map_some] at h
    obtain ⟨c, hc, hmade⟩ := Option.map_eq_some_iff.mp h.symm
    rw [hc]
    exact hmade

/-- A turn without an answer leaves what is recalled. -/
theorem concat_other (h : Recalls s past) (hsettings : s'.settings = s.settings)
    (hanswer : m.isAnswer = false) : Recalls s' (past ++ [m]) := by
  unfold Recalls at h ⊢
  rw [firstAnswer_concat, hanswer, hsettings, ← h]
  simp

/-- Settings that are given are kept. -/
theorem concat_answer (h : Recalls s past) (hbefore : m.before = s) (hanswer : m.isAnswer = true)
    (hconfig : s.config = .ok c) (hsettings : s'.settings = some c) :
    Recalls s' (past ++ [m]) := by
  rw [h.config_eq] at hconfig
  unfold Recalls
  rw [firstAnswer_concat, hanswer, hsettings, if_pos rfl, Option.map_some, ← hconfig]
  -- If nothing was given before, this is where the settings are made.
  rcases firstAnswer past with _ | first
  · simp [hbefore]
  · simp

/-- **One turn.** What a session recalls of its past it recalls behind the next turn. -/
theorem step (h : Recalls s (sinceForgetting past)) (t : Turn) :
    Recalls (s.after t.action)
      (sinceForgetting (past ++ [⟨s, t, (outcome t.action s).1⟩])) := by
  rw [sinceForgetting_concat, Session.after]
  cases t with
  | environment env => exact h.concat_other rfl rfl
  | forget => rfl
  | ask =>
    rw [outcome_turn_ask]
    rcases hconfig : s.config with e | c
    · exact h.concat_other rfl rfl
    · exact h.concat_answer rfl rfl hconfig rfl

end Recalls

/-- **A run.** Before every turn of a run a session recalls what happened since its settings were
    forgotten. -/
theorem recalls_of_instants {future : List Instant} {turns : List Turn}
    (hstart : Recalls s []) (hsplit : instants s turns = past ++ m :: future) :
    Recalls m.before (sinceForgetting past) ∧
      m.reply = (outcome m.turn.action m.before).1 := by
  obtain ⟨t, turn, hrecalls, rfl⟩ :=
    trace_induction (J := fun s past => Recalls s (sinceForgetting past)) (P := fun _ => True)
      (fun _ _ turn h _ => h.step turn) (show Recalls s (sinceForgetting []) from hstart)
      (fun _ _ => trivial) hsplit
  exact ⟨hrecalls, rfl⟩

/-! ### What is told -/

/-- A reply follows from the environments of the past: settings are those of the environment in
    which they were given first since they were forgotten, they are sound, and they are refused
    where none are kept and an error tells of the environment. -/
structure FollowsEnvironment (past : List Instant) (m : Instant) : Prop where
  /-- Settings are read from the environment in which they were given first. -/
  answer : ∀ c, m.reply = .ok (some c) →
    ∃ first, firstAnswer (sinceForgetting past ++ [m]) = some first ∧ c.ReadFrom first.before.env
  /-- Settings are sound, and their level has one of five names. -/
  sound : ∀ c, m.reply = .ok (some c) →
    c.Sound ∧ c.logLevel.name ∈ ["DEBUG", "INFO", "WARNING", "ERROR", "CRITICAL"]
  /-- Settings are refused if none are kept and something is wrong with the environment. -/
  refusal : m.turn = .ask →
    ((∃ fault, m.reply = .error fault) ↔
      firstAnswer (sinceForgetting past) = none ∧
        ∃ e : SettingsError, e.Tells m.before.env)
  /-- What is told where settings are refused is wrong with the environment. -/
  fault : ∀ fault, m.reply = .error fault →
    ∃ e : SettingsError, fault = .settings e ∧ e.Tells m.before.env
  /-- Where settings are refused, nothing is kept. -/
  unchanged : ∀ fault, m.reply = .error fault → m.before.after m.turn.action = m.before
  /-- Once the environment is repaired, settings are given. -/
  repaired : ∀ fault, m.reply = .error fault → ∀ env c, Settings.ReadFrom env c → c.Sound →
    (outcome currentSettings { m.before.after m.turn.action with env := env }).1 = .ok c

theorem mem_levelNames (l : LogLevel) :
    l.name ∈ ["DEBUG", "INFO", "WARNING", "ERROR", "CRITICAL"] := by
  cases l <;> decide

namespace Recalls

/-- A session that goes by no settings keeps none, and has been given none. -/
theorem none_of_config (h : Recalls s past) {e : SettingsError} (hconfig : s.config = .error e) :
    s.settings = none ∧ firstAnswer past = none := by
  have hnone : s.settings = none := by
    unfold Session.config at hconfig
    split at hconfig
    · cases hconfig
    · assumption
  rw [Recalls, hnone, Option.map_none, Option.map_eq_none_iff] at h
  exact ⟨hnone, h⟩

/-- Settings that are given follow from the environments of the past. -/
theorem follows_of_ok (h : Recalls m.before (sinceForgetting past))
    (hconfig : m.before.config = .ok c) (hreply : m.reply = .ok (some c)) :
    FollowsEnvironment past m := by
  have hmade := h.config_eq.symm.trans hconfig
  have hanswer : m.isAnswer = true := by rw [Instant.isAnswer, hreply]
  refine ⟨fun c' hc => ?_, fun c' hc => ?_, fun _ => ?_, fun _ hf => ?_, fun _ hf => ?_,
    fun _ hf => ?_⟩
  · obtain rfl : c = c' := by simpa [hreply] using hc
    rw [firstAnswer_concat, hanswer, if_pos rfl]
    -- The settings come from the first answer since they were forgotten, which may be this one.
    rcases hfirst : firstAnswer (sinceForgetting past) with _ | first
    · rw [hfirst] at hmade
      exact ⟨m, rfl, (Settings.ofEnvironment_eq_ok_iff.mp hmade).1⟩
    · rw [hfirst] at hmade
      exact ⟨first, rfl, (Settings.ofEnvironment_eq_ok_iff.mp hmade).1⟩
  · obtain rfl : c = c' := by simpa [hreply] using hc
    exact ⟨(Settings.ofEnvironment_eq_ok_iff.mp hmade).2, mem_levelNames _⟩
  · constructor
    · rintro ⟨fault, hfault⟩
      rw [hreply] at hfault
      cases hfault
    · rintro ⟨hnone, e, htells⟩
      rw [hnone] at hmade
      obtain ⟨hread, hsound⟩ := Settings.ofEnvironment_eq_ok_iff.mp hmade
      exact absurd htells (Settings.not_tells hread hsound e)
  all_goals
    rw [hreply] at hf
    cases hf

/-- Where settings are refused, this follows from the environments of the past. -/
theorem follows_of_error (h : Recalls m.before (sinceForgetting past)) (hturn : m.turn = .ask)
    {e : SettingsError} (hconfig : m.before.config = .error e)
    (hreply : m.reply = .error (.settings e)) : FollowsEnvironment past m := by
  obtain ⟨hsettings, hfirst⟩ := h.none_of_config hconfig
  have htells : e.Tells m.before.env := by
    have hmade := h.config_eq.symm.trans hconfig
    rw [hfirst] at hmade
    exact Settings.tells_of_ofEnvironment hmade
  -- A refusal leaves nothing behind, so the next environment is read anew.
  have hafter : m.before.after m.turn.action = m.before := by
    rw [Session.after, hturn, outcome_turn_ask, hconfig]
  refine ⟨fun _ hc => ?_, fun _ hc => ?_, fun _ => ⟨fun _ => ⟨hfirst, e, htells⟩,
    fun _ => ⟨_, hreply⟩⟩, fun fault hf => ⟨e, ?_, htells⟩, fun _ _ => hafter,
    fun _ _ env c hread hsound => ?_⟩
  · rw [hreply] at hc
    cases hc
  · rw [hreply] at hc
    cases hc
  · rw [hreply] at hf
    exact (Except.error.inj hf).symm
  · have hmade : Settings.ofEnvironment env = .ok c :=
      Settings.ofEnvironment_eq_ok_iff.mpr ⟨hread, hsound⟩
    rw [hafter, outcome_currentSettings, Session.config]
    simp only [hsettings, hmade]

/-- A turn that tells nothing is none of those that settings are given or refused in. -/
theorem follows_of_silent (hturn : m.turn ≠ .ask) (hreply : m.reply = .ok none) :
    FollowsEnvironment past m := by
  refine ⟨fun _ hc => ?_, fun _ hc => ?_, fun hask => absurd hask hturn, fun _ hf => ?_,
    fun _ hf => ?_, fun _ hf => ?_⟩
  all_goals simp [hreply] at *

/-- What is told in an instant follows from what the session recalls. -/
theorem followsEnvironment (h : Recalls m.before (sinceForgetting past))
    (hreply : m.reply = (outcome m.turn.action m.before).1) : FollowsEnvironment past m := by
  cases hturn : m.turn with
  | environment env => exact follows_of_silent (by simp [hturn]) (by rw [hreply, hturn]; rfl)
  | forget => exact follows_of_silent (by simp [hturn]) (by rw [hreply, hturn]; rfl)
  | ask =>
    rw [hturn, outcome_turn_ask] at hreply
    rcases hconfig : m.before.config with e | c
    · rw [hconfig] at hreply
      exact h.follows_of_error hturn hconfig hreply
    · rw [hconfig] at hreply
      exact h.follows_of_ok hconfig hreply

end Recalls

/-- **Runs of the settings.** Where no settings are kept yet, every reply of every run follows from
    the environments of the past. -/
theorem settings_follow_environment (hnone : s.settings = none) (turns : List Turn) :
    ∀ past m future, instants s turns = past ++ m :: future → FollowsEnvironment past m := by
  intro past m future hsplit
  have hstart : Recalls s [] := by
    rw [Recalls, hnone]
    rfl
  obtain ⟨hrecalls, hreply⟩ := recalls_of_instants hstart hsplit
  exact hrecalls.followsEnvironment hreply

/-- A session without files. -/
def bareSession : Session := Session.new ⟨[]⟩ (FileSystem.standing []) ⟨[], "/tmp"⟩

/-- Settings are asked for in an environment that allows fewer lines than are read by default, once
    more where it is repaired, once more where nothing is said, and once more when they have been
    forgotten. -/
def repairTurns : List Turn :=
  [.environment ⟨[("NODE_MODULES_MCP_MAX_READ_LINES", "100"),
      ("NODE_MODULES_MCP_MAX_INDEX_FILES", "many")], "/tmp"⟩, .ask,
    .environment ⟨[("NODE_MODULES_MCP_MAX_READ_LINES", "100"),
      ("NODE_MODULES_MCP_DEFAULT_READ_LINES", " +1_0\n")], "/tmp"⟩, .ask,
    .environment ⟨[], "/tmp"⟩, .ask, .forget, .ask]

theorem settings_follow_environment_repaired :
    bareSession.settings = none ∧
    (instants bareSession repairTurns).map
        (fun m => m.reply.map (fun c => c.map Settings.defaultReadLines)) =
      [.ok none, .error (.settings (.defaultAboveMax 500 100)), .ok none, .ok (some 10), .ok none,
        .ok (some 10), .ok none, .ok (some 500)] ∧
    ∀ past m future, instants bareSession repairTurns = past ++ m :: future →
      FollowsEnvironment past m :=
  ⟨rfl, by decide +kernel, settings_follow_environment rfl repairTurns⟩

end PackageAtlas.Tool
