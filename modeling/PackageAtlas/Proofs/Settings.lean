import PackageAtlas.Proofs.Text.Integer
import PackageAtlas.Settings

namespace PackageAtlas

open Text (WritesInteger)

/-!
# Settings of environments

* `Gives`: what a variable gives, by what its text says or by default;
* `SaysText`, `SaysTruth`, `GivesLevel`: what texts say, besides the integers that they write;
* `Settings.Sound`: all numbers are positive, and what is read by default may be asked for;
* `Settings.check_eq_none_iff`: exactly this is checked, besides the level;
* `Settings.sound_of_ofEnvironment`: so the settings of every environment are sound;
* `Settings.ReadFrom`: settings that say what the variables of an environment give;
* `Settings.ofEnvironment_eq_ok_iff`: they are made if and only if they are sound;
* `SettingsError.Tells`: what an error says of an environment;
* `Settings.tells_of_ofEnvironment`, `Settings.not_tells`: it is so where there are no settings, and
  nowhere else.
-/

variable {env : Environment} {key text : String} {s : Settings} {b : Bool}

/-! ### Variables -/

/-- A variable gives a value: the one that its text says, or the default if the variable is missing
    or its text says none. -/
def Gives {α : Type} (Says : String → α → Prop) (env : Environment) (key : String)
    (default value : α) : Prop :=
  (∃ text, env.bindings.lookup key = some text ∧ Says text value) ∨
    (∀ text, env.bindings.lookup key = some text → ∀ other, ¬ Says text other) ∧ value = default

/-- What is read of a text is what a variable gives, if it is what the text says. -/
theorem gives_iff {α : Type} {Says : String → α → Prop} {read : String → Option α}
    (hread : ∀ text value, read text = some value ↔ Says text value) {default value : α} :
    Gives Says env key default value ↔
      value = ((env.bindings.lookup key).bind read).getD default := by
  unfold Gives
  rcases env.bindings.lookup key with _ | text
  · simp
  -- Where nothing is said, the default is given.
  rcases hvalue : read text with _ | said
  · have hnone : ∀ other, ¬ Says text other := by
      intro other hsays
      rw [(hread text other).mpr hsays] at hvalue
      cases hvalue
    simp [hvalue, hnone]
  · have hone : ∀ other, Says text other ↔ said = other := by
      intro other
      rw [← hread, hvalue, Option.some.injEq]
    simp [hvalue, hone, eq_comm]

/-- A text says itself, if it is not empty. -/
def SaysText (text value : String) : Prop := text ≠ "" ∧ value = text

/-- The words for a truth value. -/
def truthWords : Bool → List String
  | true => ["1", "true", "yes", "on"]
  | false => ["0", "false", "no", "off"]

/-- A text says a truth value: it is a word for it in letters of any size, with white space around
    it. -/
inductive SaysTruth : String → Bool → Prop where
  | intro {before word after : List Char} {b : Bool}
      (hbefore : ∀ c ∈ before, Text.isBlank c = true)
      (hword : Text.lower (String.ofList word) ∈ truthWords b)
      (hafter : ∀ c ∈ after, Text.isBlank c = true) :
      SaysTruth (String.ofList (before ++ word ++ after)) b

/-! ### Numbers, texts and truth values -/

/-- A variable gives one number, and that is the setting. -/
theorem gives_integer_iff {default n : Int} :
    Gives WritesInteger env key default n ↔ n = integerSetting env key default := by
  rw [gives_iff (fun text n => Text.integer?_eq_some_iff), integerSetting]
  rcases env.bindings.lookup key with _ | text <;> rfl

/-- A variable gives one text, and that is the setting. -/
theorem gives_text_iff {default : String} :
    Gives SaysText env key default text ↔ text = textSetting env key default := by
  have hread : ∀ text value : String,
      (if text.isEmpty then none else some text) = some value ↔ SaysText text value := by
    intro text value
    rw [SaysText]
    by_cases h : text = ""
    · simp [h]
    · rw [if_neg (by simpa using h), Option.some.injEq, and_iff_right h, eq_comm]
  rw [gives_iff hread, textSetting]
  rcases env.bindings.lookup key with _ | found
  · rfl
  · by_cases h : found = "" <;> simp [h]

theorem truthOfWord?_eq_some_iff {word : String} :
    truthOfWord? word = some b ↔ word ∈ truthWords b := by
  have hapart : ∀ word ∈ truthWords true, word ∉ truthWords false := by decide
  unfold truthOfWord?
  split
  · rename_i h
    have htrue : word ∈ truthWords true := List.contains_iff_mem.mp h
    cases b <;> simp [htrue, hapart]
  split
  · rename_i hno h
    have htrue : word ∉ truthWords true := fun hmem => hno (List.contains_iff_mem.mpr hmem)
    have hfalse : word ∈ truthWords false := List.contains_iff_mem.mp h
    cases b <;> simp [htrue, hfalse]
  · rename_i hno hno'
    have htrue : word ∉ truthWords true := fun hmem => hno (List.contains_iff_mem.mpr hmem)
    have hfalse : word ∉ truthWords false := fun hmem => hno' (List.contains_iff_mem.mpr hmem)
    cases b <;> simp [htrue, hfalse]

/-- No word for a truth value has white space in it, in letters of any size. -/
theorem not_blank_of_truthWords {word : List Char}
    (h : Text.lower (String.ofList word) ∈ truthWords b) :
    word ≠ [] ∧ ∀ c ∈ word, Text.isBlank c = false := by
  have hwords : ∀ b, ∀ w ∈ truthWords b, w ≠ "" ∧ w.toList.any Text.isBlank = false := by
    decide
  obtain ⟨hne, hshown⟩ := hwords b _ h
  rw [List.any_eq_false] at hshown
  constructor
  · rintro rfl
    exact hne rfl
  · intro c hc
    by_contra hblank
    rw [Bool.not_eq_false] at hblank
    rw [← String.toList_ofList (l := word)] at hc
    exact hshown c (Text.mem_lower_of_isBlank hblank hc) hblank

theorem truthOfWord?_lower_trim_iff :
    truthOfWord? (Text.lower (Text.trim text)) = some b ↔ SaysTruth text b := by
  rw [truthOfWord?_eq_some_iff, Text.trim, Text.trimList_eq]
  constructor
  · intro h
    obtain ⟨before, after, htext, hbefore, hafter⟩ :=
      Text.exists_eq_around Text.isBlank text.toList
    rw [← String.ofList_toList (s := text), htext]
    exact .intro hbefore h hafter
  · rintro ⟨hbefore, hword, hafter⟩
    obtain ⟨hne, hshown⟩ := not_blank_of_truthWords hword
    rwa [String.toList_ofList, Text.drop_around hbefore hne hshown hafter]

/-- A variable gives one truth value, and that is the setting. -/
theorem gives_truth_iff {default : Bool} :
    Gives SaysTruth env key default b ↔ b = truthSetting env key default := by
  have hread : ∀ text b, (fun text => truthOfWord? (Text.lower (Text.trim text))) text = some b ↔
      SaysTruth text b := fun _ _ => truthOfWord?_lower_trim_iff
  rw [gives_iff hread, truthSetting]
  rcases env.bindings.lookup key with _ | text
  · rfl
  · simp only [Option.bind_some]

/-- An environment gives the name of a level: the text for it in capitals. -/
def GivesLevel (env : Environment) (name : String) : Prop :=
  ∃ text, Gives SaysText env "NODE_MODULES_MCP_LOG_LEVEL" "INFO" text ∧ name = Text.upper text

theorem givesLevel_iff {name : String} : GivesLevel env name ↔ name = levelName env := by
  simp only [GivesLevel, gives_text_iff, exists_eq_left, levelName]

namespace Settings

/-! ### Sound settings -/

/-- All numbers are positive, and no more lines are read by default than may be asked for. -/
structure Sound (s : Settings) : Prop where
  maxIndexFiles : 0 < s.maxIndexFiles
  defaultReadLines : 0 < s.defaultReadLines
  maxReadLines : 0 < s.maxReadLines
  maxSearchResults : 0 < s.maxSearchResults
  maxSymbolResults : 0 < s.maxSymbolResults
  default_le_max : s.defaultReadLines ≤ s.maxReadLines

/-- One thing and another are checked one after the other. -/
theorem ite_some_eq_none_iff {α : Type} {wrong : Prop} [Decidable wrong] {a : α} {next : Option α} :
    (if wrong then some a else next) = none ↔ ¬ wrong ∧ next = none := by
  by_cases h : wrong
  · simp [h]
  · simp [h]

theorem ite_some_eq_some_iff {α : Type} {wrong : Prop} [Decidable wrong] {a e : α}
    {next : Option α} :
    (if wrong then some a else next) = some e ↔ wrong ∧ a = e ∨ ¬ wrong ∧ next = some e := by
  by_cases h : wrong
  · simp [h]
  · simp [h]

/-- Nothing is wrong with settings that are sound, if their level has a name. -/
theorem check_eq_none_iff :
    s.check env = none ↔ s.Sound ∧ (LogLevel.ofName? (levelName env)).isSome = true := by
  simp only [check, ite_some_eq_none_iff, Int.not_le, Int.not_lt, and_true,
    Option.isNone_iff_eq_none, Option.isSome_iff_ne_none]
  constructor
  · rintro ⟨hfiles, hdefault, hread, hsearch, hsymbol, hlevel, hmost⟩
    exact ⟨⟨hfiles, hdefault, hread, hsearch, hsymbol, hmost⟩, hlevel⟩
  · rintro ⟨⟨hfiles, hdefault, hread, hsearch, hsymbol, hmost⟩, hlevel⟩
    exact ⟨hfiles, hdefault, hread, hsearch, hsymbol, hlevel, hmost⟩

/-- **The settings of an environment are sound.** -/
theorem sound_of_ofEnvironment (h : ofEnvironment env = .ok s) : s.Sound := by
  unfold ofEnvironment at h
  simp only at h
  split at h
  · simp at h
  · rename_i hcheck
    obtain rfl := Except.ok.inj h
    exact (check_eq_none_iff.mp hcheck).1

/-! ### Settings of an environment -/

theorem ofName?_eq_some_iff {name : String} {l : LogLevel} :
    LogLevel.ofName? name = some l ↔ l.name = name := by
  constructor
  · intro h
    exact beq_iff_eq.mp (List.find?_some (p := fun l : LogLevel => l.name == name) h)
  · rintro rfl
    cases l <;> decide

/-- Settings say what the variables of an environment give. -/
structure ReadFrom (env : Environment) (s : Settings) : Prop where
  maxIndexFiles : Gives WritesInteger env "NODE_MODULES_MCP_MAX_INDEX_FILES" 3000 s.maxIndexFiles
  defaultReadLines :
    Gives WritesInteger env "NODE_MODULES_MCP_DEFAULT_READ_LINES" 500 s.defaultReadLines
  maxReadLines : Gives WritesInteger env "NODE_MODULES_MCP_MAX_READ_LINES" 2000 s.maxReadLines
  maxSearchResults :
    Gives WritesInteger env "NODE_MODULES_MCP_MAX_SEARCH_RESULTS" 100 s.maxSearchResults
  maxSymbolResults :
    Gives WritesInteger env "NODE_MODULES_MCP_MAX_SYMBOL_RESULTS" 500 s.maxSymbolResults
  docsDirectory : Gives SaysText env "NODE_MODULES_MCP_DOCS_CACHE_DIR"
    (Path.join env.temporary "mcp-node-modules-docs") s.docsDirectory
  docsEnabled : Gives SaysTruth env "NODE_MODULES_MCP_DOCS_CACHE_ENABLED" true s.docsEnabled
  logLevel : GivesLevel env s.logLevel.name

/-- Settings are read from an environment if they are derived from it and the level has a name. -/
theorem readFrom_iff :
    ReadFrom env s ↔ s = derive env ∧ (LogLevel.ofName? (levelName env)).isSome = true := by
  constructor
  · rintro ⟨hfiles, hdefault, hread, hsearch, hsymbol, hdirectory, henabled, hlevel⟩
    rw [gives_integer_iff] at hfiles hdefault hread hsearch hsymbol
    rw [gives_text_iff] at hdirectory
    rw [gives_truth_iff] at henabled
    have hname := ofName?_eq_some_iff.mpr (givesLevel_iff.mp hlevel)
    cases s
    simp only at hfiles hdefault hread hsearch hsymbol hdirectory henabled hname
    simp [derive, defaultDocsDirectory, hfiles, hdefault, hread, hsearch, hsymbol, hdirectory,
      henabled, hname]
  · rintro ⟨rfl, hsome⟩
    obtain ⟨l, hl⟩ := Option.isSome_iff_exists.mp hsome
    refine ⟨gives_integer_iff.mpr rfl, gives_integer_iff.mpr rfl, gives_integer_iff.mpr rfl,
      gives_integer_iff.mpr rfl, gives_integer_iff.mpr rfl, gives_text_iff.mpr rfl,
      gives_truth_iff.mpr rfl, givesLevel_iff.mpr ?_⟩
    simp only [derive, hl, Option.getD_some]
    exact ofName?_eq_some_iff.mp hl

theorem ofEnvironment_eq (env : Environment) :
    ofEnvironment env = match (derive env).check env with
      | some e => .error e
      | none => .ok (derive env) := rfl

/-- **Settings of an environment** are those that are read from it, if they are sound. -/
theorem ofEnvironment_eq_ok_iff : ofEnvironment env = .ok s ↔ ReadFrom env s ∧ s.Sound := by
  rw [readFrom_iff, ofEnvironment_eq]
  rcases hcheck : (derive env).check env with _ | e
  · obtain ⟨hsound, hlevel⟩ := check_eq_none_iff.mp hcheck
    simp only [Except.ok.injEq]
    constructor
    · rintro rfl
      exact ⟨⟨rfl, hlevel⟩, hsound⟩
    · rintro ⟨⟨rfl, -⟩, -⟩
      rfl
  · simp only [reduceCtorEq, false_iff]
    rintro ⟨⟨rfl, hlevel⟩, hsound⟩
    rw [check_eq_none_iff.mpr ⟨hsound, hlevel⟩] at hcheck
    cases hcheck

end Settings

/-! ### Errors -/

/-- The names of the settings that are numbers, with their variables and defaults. -/
def numberSettings : List (String × String × Int) :=
  [("max_index_files", "NODE_MODULES_MCP_MAX_INDEX_FILES", 3000),
    ("default_read_lines", "NODE_MODULES_MCP_DEFAULT_READ_LINES", 500),
    ("max_read_lines", "NODE_MODULES_MCP_MAX_READ_LINES", 2000),
    ("max_search_results", "NODE_MODULES_MCP_MAX_SEARCH_RESULTS", 100),
    ("max_symbol_results", "NODE_MODULES_MCP_MAX_SYMBOL_RESULTS", 500)]

/-- What an error says of an environment: the setting that it names gives no positive number, the
    level has no name, or more lines are read by default than may be asked for. -/
def SettingsError.Tells (env : Environment) : SettingsError → Prop
  | .notPositive setting =>
    ∃ key default n, (setting, key, default) ∈ numberSettings ∧
      Gives WritesInteger env key default n ∧ n ≤ 0
  | .unknownLevel name => GivesLevel env name ∧ ∀ l : LogLevel, l.name ≠ name
  | .defaultAboveMax lines limit =>
    Gives WritesInteger env "NODE_MODULES_MCP_DEFAULT_READ_LINES" 500 lines ∧
      Gives WritesInteger env "NODE_MODULES_MCP_MAX_READ_LINES" 2000 limit ∧ limit < lines

namespace Settings

/-- What an error says is so. -/
theorem tells_of_check {e : SettingsError} (h : (derive env).check env = some e) : e.Tells env := by
  have hnumber : ∀ {setting key : String} {default : Int}, integerSetting env key default ≤ 0 →
      (setting, key, default) ∈ numberSettings → (SettingsError.notPositive setting).Tells env :=
    fun hle hmem => ⟨_, _, _, hmem, gives_integer_iff.mpr rfl, hle⟩
  simp only [check, ite_some_eq_some_iff, reduceCtorEq, and_false, or_false] at h
  -- One error for each check, in the order of the checks.
  rcases h with ⟨hle, rfl⟩ | ⟨-, ⟨hle, rfl⟩ | ⟨-, ⟨hle, rfl⟩ | ⟨-, ⟨hle, rfl⟩ | ⟨-, ⟨hle, rfl⟩ |
    ⟨-, ⟨hlevel, rfl⟩ | ⟨-, hlt, rfl⟩⟩⟩⟩⟩⟩
  · exact hnumber hle (by decide)
  · exact hnumber hle (by decide)
  · exact hnumber hle (by decide)
  · exact hnumber hle (by decide)
  · exact hnumber hle (by decide)
  · refine ⟨givesLevel_iff.mpr rfl, fun l hl => ?_⟩
    rw [ofName?_eq_some_iff.mpr hl] at hlevel
    cases hlevel
  · exact ⟨gives_integer_iff.mpr rfl, gives_integer_iff.mpr rfl, hlt⟩

/-- No error tells of an environment that sound settings are read from. -/
theorem not_tells (hread : ReadFrom env s) (hsound : s.Sound) (e : SettingsError) :
    ¬ e.Tells env := by
  obtain ⟨rfl, -⟩ := readFrom_iff.mp hread
  cases e with
  | notPositive setting =>
    rintro ⟨key, default, n, hmem, hgives, hle⟩
    obtain rfl := gives_integer_iff.mp hgives
    -- All numbers of sound settings are positive.
    have hall : ∀ row ∈ numberSettings, 0 < integerSetting env row.2.1 row.2.2 := by
      simp only [numberSettings, List.forall_mem_cons]
      exact ⟨hsound.maxIndexFiles, hsound.defaultReadLines, hsound.maxReadLines,
        hsound.maxSearchResults, hsound.maxSymbolResults, by simp⟩
    exact absurd (hall _ hmem) (Int.not_lt.mpr hle)
  | unknownLevel name =>
    rintro ⟨hname, hnone⟩
    exact hnone _ ((givesLevel_iff.mp hread.logLevel).trans (givesLevel_iff.mp hname).symm)
  | defaultAboveMax lines limit =>
    rintro ⟨hlines, hlimit, hlt⟩
    obtain rfl := gives_integer_iff.mp hlines
    obtain rfl := gives_integer_iff.mp hlimit
    exact absurd hsound.default_le_max (Int.not_le.mpr hlt)

/-- **An error says what is so.** -/
theorem tells_of_ofEnvironment {e : SettingsError} (h : ofEnvironment env = .error e) :
    e.Tells env := by
  rw [ofEnvironment_eq] at h
  split at h
  · rename_i hcheck
    obtain rfl := Except.error.inj h
    exact tells_of_check hcheck
  · cases h

end Settings

end PackageAtlas
