import LinkerExports.CommandLine.Arguments

/-! Settings are written as arguments, each value with its option in one argument or in the next.
A setting that is given once too often is rejected, and every other is recorded. So a list of
settings is recorded in one way or not at all. -/
namespace LinkerExports

inductive Setting where
  /-- An option and its value, joined by an equals sign or in two arguments. -/
  | value (option : ValueOption) (value : String) (joined : Bool)
  | dropRepeats
  | verbose (short : Bool)
  deriving DecidableEq, Repr

namespace Setting

def arguments : Setting → List String
  | value option text joined =>
    if joined then ["--" ++ option.name ++ "=" ++ text] else ["--" ++ option.name, text]
  | dropRepeats => ["--dedup"]
  | verbose short => if short then ["-v"] else ["--verbose"]

/-- A value may stand in an argument of its own when it is not empty and does not begin with a
hyphen. -/
def IsSeparable : Setting → Prop
  | value _ text joined => joined = true ∨ (text ≠ "" ∧ ¬ ['-'] <+: text.toList)
  | _ => True

def valueOf? (option : ValueOption) : Setting → Option String
  | value given text _ => if given = option then some text else none
  | _ => none

def isVerbose : Setting → Bool
  | verbose _ => true
  | _ => false

end Setting

structure Spells (settings : List Setting) (config : Config) : Prop where
  apiPrefix : settings.filterMap (Setting.valueOf? .apiPrefix) = [config.apiPrefix]
  tool : settings.filterMap (Setting.valueOf? .tool) = [config.tool]
  markers : settings.filterMap (Setting.valueOf? .marker) = config.markers
  extraNames : settings.filterMap (Setting.valueOf? .extraName) = config.extraNames
  dropRepeats : settings.count .dropRepeats = config.dropRepeats.toNat
  verbose : settings.countP Setting.isVerbose ≤ 1
  separable : ∀ setting ∈ settings, setting.IsSeparable

namespace Setting

/-- A value that stands in an argument of its own is no option: it does not begin with a hyphen, or
it is a hyphen alone. -/
def IsReadable : Setting → Prop
  | value _ text joined => joined = true ∨ text = "-" ∨ ¬ ['-'] <+: text.toList
  | _ => True

theorem IsSeparable.isReadable {setting : Setting} (h : setting.IsSeparable) :
    setting.IsReadable := by
  cases setting with
  | value option text joined =>
    rcases h with joined | ⟨-, plain⟩
    · exact Or.inl joined
    · exact Or.inr (Or.inr plain)
  | dropRepeats => trivial
  | verbose short => trivial

theorem valueOf?_value (option : ValueOption) (text : String) (joined : Bool) :
    valueOf? option (.value option text joined) = some text := by
  simp [valueOf?]

end Setting

namespace Options

/-- The options are what the settings give. A list of settings gives at most one prefix, one tool
and one of each flag. -/
structure Records (options : Options) (settings : List Setting) : Prop where
  apiPrefix : settings.filterMap (Setting.valueOf? .apiPrefix) = options.apiPrefix.toList
  tool : settings.filterMap (Setting.valueOf? .tool) = options.tool.toList
  markers : settings.filterMap (Setting.valueOf? .marker) = options.markers
  extraNames : settings.filterMap (Setting.valueOf? .extraName) = options.extraNames
  dropRepeats : settings.count .dropRepeats = options.dropRepeats.toNat
  verbose : settings.countP Setting.isVerbose = options.verbose.toNat

def takes (options : Options) : Setting → Bool
  | .value .apiPrefix _ _ => options.apiPrefix.isNone
  | .value .tool _ _ => options.tool.isNone
  | .value .marker _ _ => true
  | .value .extraName _ _ => true
  | .dropRepeats => !options.dropRepeats
  | .verbose _ => !options.verbose

def give (options : Options) : Setting → Options
  | .value .apiPrefix text _ => { options with apiPrefix := some text }
  | .value .tool text _ => { options with tool := some text }
  | .value .marker text _ => { options with markers := options.markers ++ [text] }
  | .value .extraName text _ => { options with extraNames := options.extraNames ++ [text] }
  | .dropRepeats => { options with dropRepeats := true }
  | .verbose _ => { options with verbose := true }

variable {options other : Options} {settings more : List Setting} {setting : Setting}

theorem assign_eq (options : Options) (option : ValueOption) (text : String) (joined : Bool) :
    options.assign option text =
      if options.takes (.value option text joined) then .ok (options.give (.value option text joined))
      else .error .rejected := by
  cases option with
  | apiPrefix => cases h : options.apiPrefix <;> simp [assign, takes, give, h]
  | tool => cases h : options.tool <;> simp [assign, takes, give, h]
  | marker => rfl
  | extraName => rfl

theorem raise_dropRepeats_eq (options : Options) :
    options.raise .dropRepeats =
      if options.takes .dropRepeats then .ok (options.give .dropRepeats) else .error .rejected := by
  cases h : options.dropRepeats <;> simp [raise, takes, give, h]

theorem raise_verbose_eq (options : Options) (short : Bool) :
    options.raise .verbose =
      if options.takes (.verbose short) then .ok (options.give (.verbose short))
      else .error .rejected := by
  cases h : options.verbose <;> simp [raise, takes, give, h]

theorem records_nil : ({} : Options).Records [] := by
  constructor <;> rfl

theorem toList_inj {α : Type} {first second : Option α} (h : first.toList = second.toList) :
    first = second := by
  simpa using congrArg List.head? h

theorem toNat_inj : ∀ {first second : Bool}, first.toNat = second.toNat → first = second := by
  decide

theorem Records.unique (h : options.Records settings) (g : other.Records settings) :
    options = other := by
  have apiPrefix := toList_inj (h.apiPrefix.symm.trans g.apiPrefix)
  have tool := toList_inj (h.tool.symm.trans g.tool)
  have markers := h.markers.symm.trans g.markers
  have extraNames := h.extraNames.symm.trans g.extraNames
  have dropRepeats := toNat_inj (h.dropRepeats.symm.trans g.dropRepeats)
  have verbose := toNat_inj (h.verbose.symm.trans g.verbose)
  cases options
  cases other
  simp only [mk.injEq]
  exact ⟨apiPrefix, markers, extraNames, tool, dropRepeats, verbose⟩

theorem Records.give (h : options.Records settings) (free : options.takes setting = true) :
    (options.give setting).Records (settings ++ [setting]) := by
  obtain ⟨apiPrefix, tool, markers, extraNames, dropRepeats, verbose⟩ := h
  cases setting with
  | value option text joined =>
    cases option <;> constructor <;> simp_all [takes, Options.give, Setting.valueOf?,
      Setting.isVerbose]
  | dropRepeats =>
    constructor <;> simp_all [takes, Options.give, Setting.valueOf?, Setting.isVerbose]
  | verbose short =>
    constructor <;> simp_all [takes, Options.give, Setting.valueOf?, Setting.isVerbose]

theorem eq_none_of_toList {α : Type} {first later : Option α} {a : α} {rest : List α}
    (h : first.toList ++ a :: rest = later.toList) : first = none := by
  have lengths := congrArg List.length h
  have once : later.toList.length ≤ 1 := Option.length_toList_le
  cases first with
  | none => rfl
  | some b =>
    simp only [Option.toList_some, List.length_append, List.length_cons, List.length_nil] at lengths
    omega

theorem eq_false_of_toNat {first later : Bool} {n : Nat} (h : first.toNat + (n + 1) = later.toNat) :
    first = false := by
  have once : later.toNat ≤ 1 := Bool.toNat_le _
  cases first with
  | false => rfl
  | true =>
    simp only [Bool.toNat_true] at h
    omega

/-- What is recorded together with later settings could still be given before them. -/
theorem Records.takes (h : options.Records settings)
    (g : other.Records (settings ++ setting :: more)) : options.takes setting = true := by
  cases setting with
  | value option text joined =>
    cases option with
    | apiPrefix =>
      have values := g.apiPrefix
      rw [List.filterMap_append, h.apiPrefix,
        List.filterMap_cons_some (Setting.valueOf?_value _ _ _)] at values
      simp [Options.takes, eq_none_of_toList values]
    | tool =>
      have values := g.tool
      rw [List.filterMap_append, h.tool,
        List.filterMap_cons_some (Setting.valueOf?_value _ _ _)] at values
      simp [Options.takes, eq_none_of_toList values]
    | marker => rfl
    | extraName => rfl
  | dropRepeats =>
    have flags := g.dropRepeats
    rw [List.count_append, h.dropRepeats, List.count_cons_self] at flags
    simp [Options.takes, eq_false_of_toNat flags]
  | verbose short =>
    have flags := g.verbose
    rw [List.countP_append, h.verbose, List.countP_cons_of_pos rfl] at flags
    simp [Options.takes, eq_false_of_toNat flags]

end Options

end LinkerExports
