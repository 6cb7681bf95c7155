import LinkerExports.Proofs.CommandLine.Outcome

/-! However the settings of a configuration are arranged and joined, reading them gives the
configuration back. Only a configuration without markers cannot be spelled: where no marker is
given, those of the default are meant. -/
namespace LinkerExports

theorem countP_eq_toNat {α : Type} {p : α → Bool} {xs : List α} (once : xs.countP p ≤ 1) :
    xs.countP p = (xs.any p).toNat := by
  cases found : xs.any p with
  | false =>
    rw [List.any_eq_false] at found
    exact List.countP_eq_zero.mpr found
  | true =>
    obtain ⟨x, member, holds⟩ := List.any_eq_true.mp found
    have some : 0 < xs.countP p := List.countP_pos_iff.mpr ⟨x, member, holds⟩
    simp only [Bool.toNat_true]
    omega

namespace Spells

variable {settings : List Setting} {config : Config}

def recorded (config : Config) (verbose : Bool) : Options where
  apiPrefix := some config.apiPrefix
  markers := config.markers
  extraNames := config.extraNames
  tool := some config.tool
  dropRepeats := config.dropRepeats
  verbose := verbose

theorem config_recorded (marked : config.markers ≠ []) (verbose : Bool) :
    (recorded config verbose).config = config := by
  have given : config.markers.isEmpty = false := by
    rw [List.isEmpty_eq_false_iff]
    exact marked
  simp only [recorded, Options.config, given, Option.getD_some, Bool.false_eq_true, if_false]

theorem begins (h : Spells settings config) :
    Begins (settings.flatMap Setting.arguments) settings
      (recorded config (settings.any Setting.isVerbose)) [] where
  split := (List.append_nil _).symm
  readable setting member := (h.separable setting member).isReadable
  records :=
    { apiPrefix := h.apiPrefix
      tool := h.tool
      markers := h.markers
      extraNames := h.extraNames
      dropRepeats := h.dropRepeats
      verbose := countP_eq_toNat h.verbose }

theorem asks (h : Spells settings config) (marked : config.markers ≠ []) :
    Asks (settings.flatMap Setting.arguments)
      (.deliver config (settings.any Setting.isVerbose)) := by
  have asks := Asks.deliver h.begins (Or.inl rfl)
  rwa [config_recorded marked] at asks

end Spells

/-! One spelling of each configuration, with every value joined to its option. -/

namespace Config

def listed (option : ValueOption) (texts : List String) : List Setting :=
  texts.map (.value option · true)

def valuesOf (config : Config) : ValueOption → List String
  | .apiPrefix => [config.apiPrefix]
  | .marker => config.markers
  | .extraName => config.extraNames
  | .tool => [config.tool]

def settings (config : Config) : List Setting :=
  [.apiPrefix, .marker, .extraName, .tool].flatMap
      (fun option => listed option (config.valuesOf option)) ++
    List.replicate config.dropRepeats.toNat .dropRepeats

theorem filterMap_listed (option : ValueOption) (texts : List String) :
    (listed option texts).filterMap (Setting.valueOf? option) = texts := by
  induction texts with
  | nil => rfl
  | cons text texts ih =>
    rw [listed, List.map_cons, List.filterMap_cons_some (Setting.valueOf?_value _ _ _)]
    exact congrArg (text :: ·) ih

theorem filterMap_listed_of_ne {option given : ValueOption} (other : given ≠ option)
    (texts : List String) : (listed given texts).filterMap (Setting.valueOf? option) = [] := by
  rw [List.filterMap_eq_nil_iff]
  intro setting member
  obtain ⟨text, -, rfl⟩ := List.mem_map.mp member
  exact if_neg other

theorem filterMap_replicate (option : ValueOption) (n : Nat) :
    (List.replicate n Setting.dropRepeats).filterMap (Setting.valueOf? option) = [] := by
  rw [List.filterMap_eq_nil_iff]
  intro setting member
  rw [List.eq_of_mem_replicate member]
  rfl

theorem filterMap_settings (config : Config) (option : ValueOption) :
    config.settings.filterMap (Setting.valueOf? option) = config.valuesOf option := by
  cases option <;>
    simp [settings, filterMap_listed, filterMap_listed_of_ne, filterMap_replicate]

theorem mem_settings {config : Config} {setting : Setting} (member : setting ∈ config.settings) :
    (∃ option text, setting = .value option text true) ∨ setting = .dropRepeats := by
  rcases List.mem_append.mp member with value | flag
  · obtain ⟨option, -, given⟩ := List.mem_flatMap.mp value
    obtain ⟨text, -, rfl⟩ := List.mem_map.mp given
    exact Or.inl ⟨option, text, rfl⟩
  · exact Or.inr (List.eq_of_mem_replicate flag)

theorem count_settings (config : Config) :
    config.settings.count .dropRepeats = config.dropRepeats.toNat := by
  have values : ∀ option texts, (listed option texts).count .dropRepeats = 0 := by
    intro option texts
    rw [List.count_eq_zero, listed, List.mem_map]
    rintro ⟨text, -, same⟩
    exact absurd same (by simp)
  simp [settings, values]

theorem spells_settings (config : Config) : Spells config.settings config where
  apiPrefix := config.filterMap_settings .apiPrefix
  tool := config.filterMap_settings .tool
  markers := config.filterMap_settings .marker
  extraNames := config.filterMap_settings .extraName
  dropRepeats := config.count_settings
  verbose := by
    have none : config.settings.countP Setting.isVerbose = 0 := by
      rw [List.countP_eq_zero]
      intro setting member
      rcases mem_settings member with ⟨option, text, rfl⟩ | rfl
      all_goals simp [Setting.isVerbose]
    rw [none]
    exact Nat.zero_le _
  separable setting member := by
    rcases mem_settings member with ⟨option, text, rfl⟩ | rfl
    · exact Or.inl rfl
    · trivial

end Config

/-- Every configuration with markers can be spelled, and all its spellings are read back as it is.
The run then ends well, with the script of this configuration on its output. All configurations that
arguments ask for have markers. -/
theorem spelling_reads_back {config : Config} (valid : config.check = .ok ())
    (marked : config.markers ≠ []) :
    (∃ settings, Spells settings config) ∧
    (∀ settings, Spells settings config →
      let arguments := settings.flatMap Setting.arguments
      Request.ofArguments arguments = .deliver config (settings.any Setting.isVerbose) ∧
        ∀ (filterText : Option String) (input : Source) (libraries : Libraries),
          input.failure = none → libraries.engine.Builds config.apiPrefix →
          (∃ summary, (deliver config input {} libraries.engine).result = .ok summary) ∧
            (run arguments filterText input libraries).code = 0 ∧
            (run arguments filterText input libraries).stdout =
              (deliver config input {} libraries.engine).sink.accepted.toList) ∧
    ∀ arguments found verbose, Request.ofArguments arguments = .deliver found verbose →
      found.markers ≠ [] := by
  refine ⟨⟨_, config.spells_settings⟩, ?_, ?_⟩
  · intro settings spells arguments
    have asks : Asks arguments (.deliver config (settings.any Setting.isVerbose)) :=
      spells.asks marked
    refine ⟨ofArguments_of_asks asks, ?_⟩
    intro filterText input libraries ends builds
    rw [run_of_asks_deliver asks]
    have completes := runDelivery_completes valid builds
      (libraries.filters.choose filterText (settings.any Setting.isVerbose)) ends
    exact ⟨completes.result, completes.code, completes.stdout⟩
  · intro arguments found verbose read
    exact ((ofArguments_eq_iff (by simp)).mp read).markers_ne_nil

/-! Values that look like options, in both spellings and out of order. -/

def awkwardConfig : Config :=
  { apiPrefix := "-a=b", markers := ["--dedup", "x y=z"], extraNames := ["-"], tool := "--",
    dropRepeats := true }

def awkwardSettings : List Setting :=
  [.value .marker "--dedup" true, .verbose true, .value .tool "--" true,
    .value .marker "x y=z" false, .dropRepeats, .value .extraName "-" true,
    .value .apiPrefix "-a=b" true]

def awkwardArguments : List String :=
  ["--unused-marker=--dedup", "-v", "--generator=--", "--unused-marker", "x y=z", "--dedup",
    "--extra-symbol=-", "--prefix=-a=b"]

theorem spelling_reads_back_of_awkward :
    awkwardConfig.check = .ok () ∧ awkwardConfig.markers ≠ [] ∧
      Spells awkwardSettings awkwardConfig ∧
      boundedLibraries.engine.Builds awkwardConfig.apiPrefix ∧ hiddenSource.failure = none ∧
      Request.ofArguments awkwardArguments = .deliver awkwardConfig true ∧
      (run awkwardArguments none hiddenSource boundedLibraries).code = 0 := by
  have valid : awkwardConfig.check = .ok () := by decide +kernel
  have marked : awkwardConfig.markers ≠ [] := by decide
  have spells : Spells awkwardSettings awkwardConfig := by
    refine ⟨rfl, rfl, rfl, rfl, rfl, Nat.le_refl 1, ?_⟩
    simp [awkwardSettings, Setting.IsSeparable]
  have builds : boundedLibraries.engine.Builds awkwardConfig.apiPrefix :=
    PatternEngine.builds_bounded (by decide +kernel)
  have ends : hiddenSource.failure = none := rfl
  obtain ⟨read, completes⟩ := (spelling_reads_back valid marked).2.1 _ spells
  exact ⟨valid, marked, spells, builds, ends, read,
    (completes none hiddenSource boundedLibraries ends builds).2.1⟩

end LinkerExports
