import LinkerExports.Proofs.CommandLine.Arguments
import LinkerExports.Proofs.CommandLine.Settings

/-! Arguments begin with settings, none of them given more often than it may be. Either nothing
follows but the mark of the end, or an argument that asks for help or for the version. All other
arguments are rejected. -/
namespace LinkerExports

theorem Argument.isValue_iff {text : String} :
    isValue text = true ↔ text = "-" ∨ ¬ ['-'] <+: text.toList := by
  simp only [isValue, Bool.or_eq_true, beq_iff_eq, bne_iff_ne]
  cases text.toList <;> simp [eq_comm]

/-! Reading settings. -/

namespace Options

variable {options other : Options} {settings more : List Setting} {setting : Setting}

theorem readFrom_give (free : options.takes setting = true) (readable : setting.IsReadable)
    (rest : List String) :
    options.readFrom (setting.arguments ++ rest) = (options.give setting).readFrom rest := by
  cases setting with
  | value option text joined =>
    have assigned := options.assign_eq option text joined
    rw [if_pos free] at assigned
    cases joined with
    | true =>
      have form := Argument.ofText_valued option text
      simp only [Argument.spelling] at form
      simp only [Setting.arguments, if_true, List.cons_append, List.nil_append, readFrom, form,
        assigned]
    | false =>
      have form := Argument.ofText_awaiting option
      have isValue : Argument.isValue text = true := by
        rcases readable with joined | plain
        · exact absurd joined (by simp)
        · exact Argument.isValue_iff.mpr plain
      simp only [Argument.spelling] at form
      simp only [Setting.arguments, Bool.false_eq_true, if_false, List.cons_append,
        List.nil_append, readFrom, form, isValue, if_true, assigned]
  | dropRepeats =>
    have form : Argument.ofText "--dedup" = .switch .dropRepeats :=
      Argument.ofText_switch .dropRepeats
    have raised := options.raise_dropRepeats_eq
    rw [if_pos free] at raised
    simp only [Setting.arguments, List.cons_append, List.nil_append, readFrom, form, raised]
  | verbose short =>
    have raised := options.raise_verbose_eq short
    rw [if_pos free] at raised
    cases short with
    | true =>
      have form : Argument.ofText "-v" = .cluster ['v'] := rfl
      have letter : Flag.ofLetter? 'v' = some .verbose := rfl
      simp only [Setting.arguments, if_true, List.cons_append, List.nil_append, readFrom, form,
        raiseLetters, letter, raised]
    | false =>
      have form : Argument.ofText "--verbose" = .switch .verbose := Argument.ofText_switch .verbose
      simp only [Setting.arguments, Bool.false_eq_true, if_false, List.cons_append,
        List.nil_append, readFrom, form, raised]

end Options

/-- The arguments begin with some settings, which `options` records, and `rest` is left. -/
structure Begins (arguments : List String) (settings : List Setting) (options : Options)
    (rest : List String) : Prop where
  split : arguments = settings.flatMap Setting.arguments ++ rest
  readable : ∀ setting ∈ settings, setting.IsReadable
  records : options.Records settings

/-- The argument asks for help or for the version, whichever the flag is. It may also be a letter in
a cluster, in front of which only `v` can stand, if that has not been given. -/
def Options.CallsFor (options : Options) (flag : Flag) (text : String) : Prop :=
  text = "--" ++ flag.name ∨
    ∃ letter more, Flag.ofLetter? letter = some flag ∧
      (text.toList = '-' :: letter :: more ∨
        text.toList = '-' :: 'v' :: letter :: more ∧ options.verbose = false)

/-- What arguments ask for, if anything. -/
inductive Asks (arguments : List String) : Request → Prop
  | deliver {settings : List Setting} {options : Options} {rest : List String}
      (begins : Begins arguments settings options rest) (ends : rest = [] ∨ rest = ["--"]) :
      Asks arguments (.deliver options.config options.verbose)
  | help {settings : List Setting} {options : Options} {text : String} {rest : List String}
      (begins : Begins arguments settings options (text :: rest))
      (calls : options.CallsFor .help text) : Asks arguments .showHelp
  | version {settings : List Setting} {options : Options} {text : String} {rest : List String}
      (begins : Begins arguments settings options (text :: rest))
      (calls : options.CallsFor .version text) : Asks arguments .showVersion

namespace Begins

variable {arguments rest : List String} {settings : List Setting} {options : Options}
  {setting : Setting}

theorem start (arguments : List String) : Begins arguments [] {} arguments :=
  ⟨rfl, by simp, Options.records_nil⟩

theorem give (h : Begins arguments settings options (setting.arguments ++ rest))
    (free : options.takes setting = true) (readable : setting.IsReadable) :
    Begins arguments (settings ++ [setting]) (options.give setting) rest := by
  refine ⟨?_, ?_, h.records.give free⟩
  · rw [h.split, List.flatMap_append, List.flatMap_singleton, List.append_assoc]
  · intro other member
    rcases List.mem_append.mp member with old | new
    · exact h.readable other old
    · rwa [List.mem_singleton.mp new]

theorem readFrom_eq (h : Begins arguments settings options rest) :
    ({} : Options).readFrom arguments = options.readFrom rest := by
  have run : ∀ (left done : List Setting) (before : Options), before.Records done →
      options.Records (done ++ left) → (∀ setting ∈ left, setting.IsReadable) →
      before.readFrom (left.flatMap Setting.arguments ++ rest) = options.readFrom rest := by
    intro left
    induction left with
    | nil =>
      intro done before recorded records _
      rw [List.append_nil] at records
      rw [recorded.unique records]
      rfl
    | cons setting left ih =>
      intro done before recorded records readable
      have free := recorded.takes records
      rw [List.flatMap_cons, List.append_assoc,
        Options.readFrom_give free (readable setting (by simp))]
      refine ih (done ++ [setting]) _ (recorded.give free) ?_ ?_
      · rwa [List.append_assoc, List.singleton_append]
      · exact fun other member => readable other (by simp [member])
  rw [h.split]
  exact run settings [] {} Options.records_nil h.records h.readable

end Begins

namespace Options

variable {options : Options} {text : String} {flag : Flag} {request : Request}

theorem raiseLetters_cons {letter : Char} (isLetter : Flag.ofLetter? letter = some flag)
    (options : Options) (more : List Char) :
    options.raiseLetters (letter :: more) =
      match options.raise flag with
      | .error request => .error request
      | .ok raised => raised.raiseLetters more := by
  cases raised : options.raise flag <;> simp only [raiseLetters, isLetter, raised]

theorem readFrom_of_cluster {letter : Char} {more : List Char} (other : letter ≠ '-')
    (spelled : text.toList = '-' :: letter :: more) (rest : List String) :
    options.readFrom (text :: rest) =
      match options.raiseLetters (letter :: more) with
      | .error request => request
      | .ok raised => raised.readFrom rest := by
  have form : Argument.ofText text = .cluster (letter :: more) := by
    have whole : text = (Argument.cluster (letter :: more)).spelling := by
      rw [← String.toList_inj, spelled]
      simp [Argument.spelling]
    rw [whole, Argument.ofText_cluster other]
  cases raised : options.raiseLetters (letter :: more) <;> simp only [readFrom, form, raised]

theorem readFrom_of_callsFor (stops : ∀ options : Options, options.raise flag = .error request)
    (calls : options.CallsFor flag text) (rest : List String) :
    options.readFrom (text :: rest) = request := by
  rcases calls with rfl | ⟨letter, more, isLetter, spelled | ⟨spelled, quiet⟩⟩
  · have form : Argument.ofText ("--" ++ flag.name) = .switch flag := Argument.ofText_switch flag
    simp only [readFrom, form, stops]
  · have other : letter ≠ '-' := by
      rintro rfl
      rcases Flag.ofLetter?_eq_some_iff.mp isLetter with h | h | h
      all_goals simp at h
    rw [readFrom_of_cluster other spelled, raiseLetters_cons isLetter, stops]
  · have verbose : Flag.ofLetter? 'v' = some .verbose := rfl
    rw [readFrom_of_cluster (by decide) spelled, raiseLetters_cons verbose, raise, quiet]
    simp only [Bool.false_eq_true, if_false]
    rw [raiseLetters_cons isLetter, stops]

end Options

theorem ofArguments_of_asks {arguments : List String} {request : Request}
    (asks : Asks arguments request) : Request.ofArguments arguments = request := by
  unfold Request.ofArguments
  cases asks with
  | deliver begins ends =>
    rw [begins.readFrom_eq]
    rcases ends with rfl | rfl <;> rfl
  | help begins calls =>
    rw [begins.readFrom_eq]
    exact Options.readFrom_of_callsFor (fun _ => rfl) calls _
  | version begins calls =>
    rw [begins.readFrom_eq]
    exact Options.readFrom_of_callsFor (fun _ => rfl) calls _

/-! What is left of the arguments is read no further than to a setting, a call or a bad argument. -/

namespace Options

variable {options after : Options} {option : ValueOption} {flag : Flag} {request : Request}
  {text : String}

theorem assign_error (h : options.assign option text = .error request) : request = .rejected := by
  rw [options.assign_eq option text true] at h
  split at h
  · exact absurd h (by simp)
  · exact (Except.error.inj h).symm

theorem assign_ok (h : options.assign option text = .ok after) (joined : Bool) :
    options.takes (.value option text joined) = true ∧
      options.give (.value option text joined) = after := by
  rw [options.assign_eq option text joined] at h
  split at h
  · next free => exact ⟨free, Except.ok.inj h⟩
  · exact absurd h (by simp)

theorem raise_error (h : options.raise flag = .error request) :
    request = .rejected ∨ flag = .help ∧ request = .showHelp ∨
      flag = .version ∧ request = .showVersion := by
  cases flag with
  | dropRepeats =>
    simp only [raise] at h
    split at h <;> simp_all
  | verbose =>
    simp only [raise] at h
    split at h <;> simp_all
  | help => exact Or.inr (Or.inl ⟨rfl, (Except.error.inj h).symm⟩)
  | version => exact Or.inr (Or.inr ⟨rfl, (Except.error.inj h).symm⟩)

theorem raise_ok (h : options.raise flag = .ok after) :
    ∃ setting : Setting, setting.arguments = ["--" ++ flag.name] ∧ setting.IsReadable ∧
      options.takes setting = true ∧ options.give setting = after := by
  cases flag with
  | dropRepeats =>
    rw [raise_dropRepeats_eq] at h
    split at h
    · next free => exact ⟨.dropRepeats, rfl, trivial, free, Except.ok.inj h⟩
    · exact absurd h (by simp)
  | verbose =>
    rw [options.raise_verbose_eq false] at h
    split at h
    · next free => exact ⟨.verbose false, rfl, trivial, free, Except.ok.inj h⟩
    · exact absurd h (by simp)
  | help => exact absurd h (by simp [raise])
  | version => exact absurd h (by simp [raise])

theorem raiseLetters_step (options : Options) (letter : Char) (more : List Char) :
    options.raiseLetters (letter :: more) = .error .rejected ∨
      letter = 'h' ∧ options.raiseLetters (letter :: more) = .error .showHelp ∨
      letter = 'V' ∧ options.raiseLetters (letter :: more) = .error .showVersion ∨
      letter = 'v' ∧ options.takes (.verbose true) = true ∧
        options.raiseLetters (letter :: more) =
          (options.give (.verbose true)).raiseLetters more := by
  cases isLetter : Flag.ofLetter? letter with
  | none => exact Or.inl (by simp only [raiseLetters, isLetter])
  | some flag =>
    rw [raiseLetters_cons isLetter]
    rcases Flag.ofLetter?_eq_some_iff.mp isLetter with ⟨rfl, rfl⟩ | ⟨rfl, rfl⟩ | ⟨rfl, rfl⟩
    · rw [options.raise_verbose_eq true]
      cases free : options.takes (.verbose true) with
      | false => exact Or.inl rfl
      | true => exact Or.inr (Or.inr (Or.inr ⟨rfl, rfl, rfl⟩))
    · exact Or.inr (Or.inl ⟨rfl, rfl⟩)
    · exact Or.inr (Or.inr (Or.inl ⟨rfl, rfl⟩))

theorem takes_verbose_iff {short : Bool} :
    options.takes (.verbose short) = true ↔ options.verbose = false := by
  simp [takes]

theorem takes_give_verbose (options : Options) :
    ¬ (options.give (.verbose true)).takes (.verbose true) = true := by
  simp [takes, give]

theorem raiseLetters_error {letters : List Char} (spelled : text.toList = '-' :: letters)
    (h : options.raiseLetters letters = .error request) :
    request = .rejected ∨ request = .showHelp ∧ options.CallsFor .help text ∨
      request = .showVersion ∧ options.CallsFor .version text := by
  have help : Flag.ofLetter? 'h' = some .help := rfl
  have version : Flag.ofLetter? 'V' = some .version := rfl
  cases letters with
  | nil => exact absurd h (by simp [raiseLetters])
  | cons letter more =>
    rcases options.raiseLetters_step letter more with
      came | ⟨rfl, came⟩ | ⟨rfl, came⟩ | ⟨rfl, free, came⟩
    all_goals rw [came] at h
    · exact Or.inl (Except.error.inj h).symm
    · exact Or.inr (Or.inl ⟨(Except.error.inj h).symm, Or.inr ⟨_, _, help, Or.inl spelled⟩⟩)
    · exact Or.inr (Or.inr ⟨(Except.error.inj h).symm, Or.inr ⟨_, _, version, Or.inl spelled⟩⟩)
    have quiet := takes_verbose_iff.mp free
    cases more with
    | nil => exact absurd h (by simp [raiseLetters])
    | cons letter more =>
      rcases (options.give (.verbose true)).raiseLetters_step letter more with
        came | ⟨rfl, came⟩ | ⟨rfl, came⟩ | ⟨-, again, -⟩
      · rw [came] at h
        exact Or.inl (Except.error.inj h).symm
      · rw [came] at h
        exact Or.inr (Or.inl ⟨(Except.error.inj h).symm,
          Or.inr ⟨_, _, help, Or.inr ⟨spelled, quiet⟩⟩⟩)
      · rw [came] at h
        exact Or.inr (Or.inr ⟨(Except.error.inj h).symm,
          Or.inr ⟨_, _, version, Or.inr ⟨spelled, quiet⟩⟩⟩)
      · exact absurd again (takes_give_verbose options)

theorem raiseLetters_ok {letters : List Char} (nonempty : letters ≠ [])
    (h : options.raiseLetters letters = .ok after) :
    letters = ['v'] ∧ options.takes (.verbose true) = true ∧
      options.give (.verbose true) = after := by
  obtain ⟨letter, more, rfl⟩ := List.exists_cons_of_ne_nil nonempty
  rcases options.raiseLetters_step letter more with
    came | ⟨-, came⟩ | ⟨-, came⟩ | ⟨rfl, free, came⟩
  all_goals rw [came] at h
  iterate 3 exact absurd h (by simp)
  cases more with
  | nil => exact ⟨rfl, free, Except.ok.inj h⟩
  | cons letter more =>
    rcases (options.give (.verbose true)).raiseLetters_step letter more with
      came | ⟨-, came⟩ | ⟨-, came⟩ | ⟨-, again, -⟩
    iterate 3 exact absurd h (by simp [came])
    exact absurd again (takes_give_verbose options)

end Options

theorem Argument.eq_spelling {text : String} {form : Argument} (h : ofText text = form)
    (known : form ≠ unknown) : text = form.spelling := by
  subst h
  exact (spelling_ofText known).symm

theorem asks_readFrom {arguments rest : List String} {settings : List Setting} {options : Options}
    (begins : Begins arguments settings options rest) :
    options.readFrom rest = .rejected ∨ Asks arguments (options.readFrom rest) := by
  fun_induction Options.readFrom options rest generalizing settings with
  | case1 options => exact Or.inr (.deliver begins (Or.inl rfl))
  | case2 options text rest form last =>
    rw [List.isEmpty_iff.mp last, Argument.eq_spelling form (by simp)] at begins
    exact Or.inr (.deliver begins (Or.inr rfl))
  | case3 => exact Or.inl rfl
  | case4 => exact Or.inl rfl
  | case5 options text rest option value form request failed =>
    exact Or.inl (Options.assign_error failed)
  | case6 options text rest option value form after assigned ih =>
    obtain ⟨free, rfl⟩ := Options.assign_ok assigned true
    rw [Argument.eq_spelling form (by simp)] at begins
    exact ih (begins.give free (Or.inl rfl))
  | case7 => exact Or.inl rfl
  | case8 options text option form value rest isValue request failed =>
    exact Or.inl (Options.assign_error failed)
  | case9 options text option form value rest isValue after assigned ih =>
    obtain ⟨free, rfl⟩ := Options.assign_ok assigned false
    rw [Argument.eq_spelling form (by simp)] at begins
    exact ih (begins.give free (Or.inr (Argument.isValue_iff.mp isValue)))
  | case10 => exact Or.inl rfl
  | case11 options text rest flag form request failed =>
    have spelled := Argument.eq_spelling form (by simp)
    rcases Options.raise_error failed with rejected | ⟨rfl, rfl⟩ | ⟨rfl, rfl⟩
    · exact Or.inl rejected
    · exact Or.inr (.help begins (Or.inl spelled))
    · exact Or.inr (.version begins (Or.inl spelled))
  | case12 options text rest flag form after raised ih =>
    obtain ⟨setting, spelled, readable, free, rfl⟩ := Options.raise_ok raised
    rw [Argument.eq_spelling form (by simp)] at begins
    have next : Begins arguments settings options (setting.arguments ++ rest) := by
      rw [spelled]
      exact begins
    exact ih (next.give free readable)
  | case13 options text rest letters form request failed =>
    have spelled := Argument.eq_spelling form (by simp)
    have letters : text.toList = '-' :: letters := by simp [spelled, Argument.spelling]
    rcases Options.raiseLetters_error letters failed with rejected | ⟨rfl, calls⟩ | ⟨rfl, calls⟩
    · exact Or.inl rejected
    · exact Or.inr (.help begins calls)
    · exact Or.inr (.version begins calls)
  | case14 options text rest letters form after raised ih =>
    have nonempty : letters ≠ [] := by
      rintro rfl
      rw [Argument.eq_spelling form (by simp)] at form
      exact absurd form (by decide)
    obtain ⟨rfl, free, rfl⟩ := Options.raiseLetters_ok nonempty raised
    rw [Argument.eq_spelling form (by simp)] at begins
    exact ih (begins.give free trivial)

theorem ofArguments_eq_iff {arguments : List String} {request : Request}
    (accepted : request ≠ .rejected) :
    Request.ofArguments arguments = request ↔ Asks arguments request := by
  constructor
  · rintro rfl
    rcases asks_readFrom (Begins.start arguments) with rejected | asks
    · exact absurd rejected accepted
    · exact asks
  · exact ofArguments_of_asks

theorem Options.markers_config_ne_nil (options : Options) : options.config.markers ≠ [] := by
  simp only [Options.config]
  split
  · exact List.cons_ne_nil _ _
  · next given => exact fun empty => given (List.isEmpty_iff.mpr empty)

theorem Asks.markers_ne_nil {arguments : List String} {config : Config} {verbose : Bool}
    (asks : Asks arguments (.deliver config verbose)) : config.markers ≠ [] := by
  cases asks with
  | deliver begins ends => exact Options.markers_config_ne_nil _

end LinkerExports
