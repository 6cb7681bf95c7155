import LinkerExports.Proofs.Scan.Growth

/-! A marker that begins another one hides all that the other hides. So a scan whose
markers begin all markers of another scan takes declarations away and brings none, each on
its own line; the order of the markers and those that are not needed are only to be seen in
which of them is named. -/
namespace LinkerExports

namespace Marker

variable {wide narrow other : List String}

/-- Every marker of `narrow` begins with one of `wide`. -/
def Covers (wide narrow : List String) : Prop :=
  ∀ marker ∈ narrow, ∃ front ∈ wide, front.toList <+: marker.toList

theorem covers_of_subset (h : narrow ⊆ wide) : Covers wide narrow :=
  fun marker member => ⟨marker, h member, List.prefix_refl _⟩

theorem Covers.trans (h : Covers wide narrow) (g : Covers narrow other) : Covers wide other := by
  intro marker member
  obtain ⟨middle, inside, begins⟩ := g marker member
  obtain ⟨front, first, beginsMiddle⟩ := h middle inside
  exact ⟨front, first, beginsMiddle.trans begins⟩

theorem Covers.empty_notMem (h : Covers wide narrow) (nonempty : "" ∉ wide) : "" ∉ narrow := by
  intro member
  obtain ⟨front, inside, begins⟩ := h "" member
  have empty : front = "" := by simpa using begins
  exact nonempty (empty ▸ inside)

theorem Covers.isSome_find? (h : Covers wide narrow) {line : List Char}
    (found : (find? narrow line).isSome) : (find? wide line).isSome := by
  obtain ⟨marker, first⟩ := Option.isSome_iff_exists.mp found
  obtain ⟨member, begins⟩ := of_find?_eq_some first
  obtain ⟨front, inside, beginsMarker⟩ := h marker member
  rw [Option.isSome_iff_ne_none]
  intro none
  exact find?_eq_none_iff.mp none front inside (beginsMarker.trans begins)

/-- The same markers in another order, repeated, or without some that another one begins. -/
inductive Rearranges : List String → List String → Prop
  | permute {first second : List String} (perm : first.Perm second) : Rearranges first second
  | copy {markers : List String} {marker : String} (member : marker ∈ markers) :
      Rearranges markers (marker :: markers)
  | drop {markers : List String} {front marker : String} (member : front ∈ markers)
      (begins : front.toList <+: marker.toList) : Rearranges (marker :: markers) markers
  | trans {first second third : List String} (h : Rearranges first second)
      (g : Rearranges second third) : Rearranges first third

theorem Rearranges.covers {first second : List String} (h : Rearranges first second) :
    Covers first second ∧ Covers second first := by
  induction h with
  | permute perm =>
    exact ⟨covers_of_subset perm.symm.subset, covers_of_subset perm.subset⟩
  | @copy markers marker member =>
    refine ⟨covers_of_subset ?_, covers_of_subset (List.subset_cons_self marker markers)⟩
    exact List.cons_subset.mpr ⟨member, List.Subset.refl markers⟩
  | @drop markers front marker member begins =>
    refine ⟨covers_of_subset (List.subset_cons_self marker markers), ?_⟩
    intro used inside
    rcases List.mem_cons.mp inside with rfl | kept
    · exact ⟨front, member, begins⟩
    · exact ⟨used, kept, List.prefix_refl _⟩
  | trans _ _ ih ihNext => exact ⟨ih.1.trans ihNext.1, ihNext.2.trans ih.2⟩

end Marker

/-- The third list is made of the other two, each in its order. -/
inductive Interleaves {α : Type} : List α → List α → List α → Prop
  | nil : Interleaves [] [] []
  | left (a : α) {first second whole : List α} (h : Interleaves first second whole) :
      Interleaves (a :: first) second (a :: whole)
  | right (a : α) {first second whole : List α} (h : Interleaves first second whole) :
      Interleaves first (a :: second) (a :: whole)

theorem Interleaves.sublist {α : Type} {first second whole : List α}
    (h : Interleaves first second whole) : first.Sublist whole := by
  induction h with
  | nil => exact List.Sublist.refl _
  | left a _ ih => exact ih.cons_cons a
  | right a _ ih => exact ih.cons a

def Suppression.declaration (entry : Suppression) : String × Nat := (entry.name, entry.line)

namespace Event

/-- Both report the same declaration, and the second suppresses it if the first one does. -/
inductive TightensTo : Event → Event → Prop
  | accepted (name : String) (line : Nat) :
      TightensTo (.accepted name line) (.accepted name line)
  | hidden (name : String) (line : Nat) (marker : String) :
      TightensTo (.accepted name line) (.suppressed ⟨name, line, marker⟩)
  | suppressed (name : String) (line : Nat) (marker other : String) :
      TightensTo (.suppressed ⟨name, line, marker⟩) (.suppressed ⟨name, line, other⟩)

theorem exists_moved_of_tightensTo {loose strict : List Event}
    (h : List.Forall₂ TightensTo loose strict) :
    ∃ moved : List (String × Nat),
      Interleaves ((loose.filterMap suppressed?).map Suppression.declaration) moved
        ((strict.filterMap suppressed?).map Suppression.declaration) ∧
      Interleaves (strict.filterMap accepted?) (moved.map Prod.fst)
        (loose.filterMap accepted?) := by
  induction h with
  | nil => exact ⟨[], .nil, .nil⟩
  | cons head _ ih =>
    obtain ⟨moved, suppressed, accepted⟩ := ih
    cases head with
    | accepted name line => exact ⟨moved, suppressed, accepted.left name⟩
    | hidden name line marker =>
      exact ⟨(name, line) :: moved, suppressed.right (name, line), accepted.right name⟩
    | suppressed name line marker other =>
      exact ⟨moved, suppressed.left (name, line), accepted⟩

end Event

namespace Summary

def hidden (summary : Summary) : List (String × Nat) :=
  summary.suppressed.map Suppression.declaration

/-- The second summary hides all that the first one hides. What it hides beyond that is what it
misses among the accepted names. -/
structure TightensTo (first second : Summary) : Prop where
  lineCount : second.lineCount = first.lineCount
  declarationCount : second.declarationCount = first.declarationCount
  accepted : second.accepted.Sublist first.accepted
  hidden : first.hidden.Sublist second.hidden
  moved : ∃ moved : List (String × Nat), Interleaves first.hidden moved second.hidden ∧
    Interleaves second.accepted (moved.map Prod.fst) first.accepted

/-- The two summaries differ in nothing but the markers that they name. -/
structure SameButMarkers (first second : Summary) : Prop where
  lineCount : second.lineCount = first.lineCount
  declarationCount : second.declarationCount = first.declarationCount
  accepted : second.accepted = first.accepted
  hidden : second.hidden = first.hidden
  repeated : second.repeated = first.repeated

end Summary

namespace Criteria

variable {few many : Criteria}

theorem isSome_setMarker?_of_covers (same : many.apiPrefix = few.apiPrefix)
    (covers : Marker.Covers many.markers few.markers) {line : List Char}
    (set : (few.setMarker? line).isSome) : (many.setMarker? line).isSome := by
  obtain ⟨marker, sets⟩ := Option.isSome_iff_exists.mp set
  obtain ⟨silent, begins⟩ := setMarker?_eq_some_iff.mp sets
  have found : (Marker.find? few.markers line).isSome := Option.isSome_of_eq_some begins
  obtain ⟨wider, first⟩ := Option.isSome_iff_exists.mp (covers.isSome_find? found)
  have silentToo : many.name? line = none := by rwa [name?, same]
  exact Option.isSome_of_eq_some (setMarker?_eq_some_iff.mpr ⟨silentToo, first⟩)

theorem event?_verdict_tightensTo (same : many.apiPrefix = few.apiPrefix)
    (covers : Marker.Covers many.markers few.markers) (above : Option (List Char))
    (line : List Char) (n : Nat) :
    List.Forall₂ Event.TightensTo ((few.verdict above line).event? n).toList
      ((many.verdict above line).event? n).toList := by
  have names : many.name? line = few.name? line := by rw [name?, name?, same]
  cases declares : few.name? line with
  | none =>
    rw [verdict_of_name?_eq_none declares, verdict_of_name?_eq_none (names.trans declares)]
    exact .nil
  | some name =>
    rw [verdict_eq_on declares, verdict_eq_on (names.trans declares)]
    have keeps : (above.bind few.setMarker?).isSome → (above.bind many.setMarker?).isSome := by
      cases above with
      | none => exact id
      | some upper => exact isSome_setMarker?_of_covers same covers
    cases hidden : above.bind few.setMarker? with
    | none =>
      cases above.bind many.setMarker? with
      | none => exact .cons (.accepted name n) .nil
      | some marker => exact .cons (.hidden name n marker) .nil
    | some marker =>
      obtain ⟨other, stricter⟩ :=
        Option.isSome_iff_exists.mp (keeps (Option.isSome_of_eq_some hidden))
      rw [stricter]
      exact .cons (.suppressed name n marker other) .nil

theorem events_tightensTo (same : many.apiPrefix = few.apiPrefix)
    (covers : Marker.Covers many.markers few.markers) (above : Option (List Char)) (start : Nat)
    (lines : List (List Char)) :
    List.Forall₂ Event.TightensTo (Verdict.events start (few.verdictsBelow above lines))
      (Verdict.events start (many.verdictsBelow above lines)) := by
  induction lines generalizing above start with
  | nil => exact .nil
  | cons line rest ih =>
    rw [verdictsBelow, verdictsBelow, Verdict.events_cons, Verdict.events_cons]
    -- whatever was decided on `line`, both runs look back at it from the next one
    exact List.rel_append (event?_verdict_tightensTo same covers above line start)
      (ih (some line) (start + 1))

theorem reports_tightensTo (same : many.apiPrefix = few.apiPrefix)
    (covers : Marker.Covers many.markers few.markers) (nonempty : "" ∉ few.markers)
    (manyNonempty : "" ∉ many.markers) (text : String) :
    List.Forall₂ Event.TightensTo (few.reports text) (many.reports text) := by
  rw [reports_eq nonempty, reports_eq manyNonempty, verdicts_eq_verdictsBelow,
    verdicts_eq_verdictsBelow]
  exact events_tightensTo same covers none 1 _

theorem scanText_tightensTo (same : many.apiPrefix = few.apiPrefix)
    (covers : Marker.Covers many.markers few.markers) (nonempty : "" ∉ few.markers)
    (manyNonempty : "" ∉ many.markers) (text : String) :
    (few.scanText text).TightensTo (many.scanText text) := by
  obtain ⟨moved, suppressed, accepted⟩ :=
    Event.exists_moved_of_tightensTo (reports_tightensTo same covers nonempty manyNonempty text)
  rw [suppressed_reports nonempty, suppressed_reports manyNonempty] at suppressed
  rw [accepted_reports nonempty, accepted_reports manyNonempty] at accepted
  constructor
  case accepted => exact accepted.sublist
  case hidden => exact suppressed.sublist
  case moved => exact ⟨moved, suppressed, accepted⟩
  case lineCount =>
    rw [scanText_eq_ofVerdicts nonempty, scanText_eq_ofVerdicts manyNonempty]
    simp only [Summary.ofVerdicts, length_verdicts]
  case declarationCount =>
    rw [scanText_eq_ofVerdicts nonempty, scanText_eq_ofVerdicts manyNonempty]
    simp only [Summary.ofVerdicts, verdicts_eq_verdictsBelow, countP_declares_verdictsBelow,
      name?, same]

theorem scanText_sameButMarkers (same : many.apiPrefix = few.apiPrefix)
    (covers : Marker.Covers many.markers few.markers)
    (covered : Marker.Covers few.markers many.markers) (nonempty : "" ∉ few.markers)
    (text : String) : (few.scanText text).SameButMarkers (many.scanText text) := by
  have manyNonempty := covered.empty_notMem nonempty
  have there := scanText_tightensTo same covers nonempty manyNonempty text
  have back := scanText_tightensTo same.symm covered manyNonempty nonempty text
  have accepted := there.accepted.antisymm back.accepted
  constructor
  case lineCount => exact there.lineCount
  case declarationCount => exact there.declarationCount
  case accepted => exact accepted
  case hidden => exact back.hidden.antisymm there.hidden
  case repeated => rw [repeated_scanText nonempty, repeated_scanText manyNonempty, accepted]

end Criteria

/-- Markers that begin all markers of a configuration hide all that those hide, and what they hide
beyond that is what is then missing among the accepted names. The order of the markers, their
repeats and those that another one begins only decide which marker is named. -/
theorem scanText_of_covering {config other : Config} (valid : config.check = .ok ())
    (otherValid : other.check = .ok ()) (same : other.apiPrefix = config.apiPrefix)
    (covers : Marker.Covers other.markers config.markers) :
    ∃ few many, Criteria.ofConfig config = .ok few ∧ Criteria.ofConfig other = .ok many ∧
      (∀ text, (few.scanText text).TightensTo (many.scanText text) ∧
        List.Forall₂ Event.TightensTo (few.reports text) (many.reports text)) ∧
      ∀ markers, Marker.Rearranges config.markers markers →
        ∃ third, Criteria.ofConfig { config with markers := markers } = .ok third ∧
          ∀ text, (few.scanText text).SameButMarkers (third.scanText text) := by
  have built := Config.ofConfig_eq_criteria valid
  have otherBuilt := Config.ofConfig_eq_criteria otherValid
  have nonempty := Criteria.empty_notMem_markers built
  have otherNonempty := Criteria.empty_notMem_markers otherBuilt
  refine ⟨_, _, built, otherBuilt, ?_, ?_⟩
  · intro text
    exact ⟨Criteria.scanText_tightensTo same covers nonempty otherNonempty text,
      Criteria.reports_tightensTo same covers nonempty otherNonempty text⟩
  · intro markers rearranges
    obtain ⟨covered, coversBack⟩ := rearranges.covers
    have fits : ({ config with markers := markers } : Config).check = .ok () := by
      obtain ⟨named, prefixText, -, extras, tool⟩ := Config.check_eq_ok_iff.mp valid
      exact Config.check_eq_ok_iff.mpr
        ⟨named, prefixText, covered.empty_notMem nonempty, extras, tool⟩
    refine ⟨_, Config.ofConfig_eq_criteria fits, ?_⟩
    have samePrefix : ({ config with markers := markers } : Config).criteria.apiPrefix =
        config.criteria.apiPrefix := rfl
    exact Criteria.scanText_sameButMarkers samePrefix coversBack covered nonempty

def outdatedText : String :=
  "SERDES_UNUSED\nint serdes_a(int x);\nSERDES_OLD\nint serdes_b(int x);\nint serdes_c(int x);\n"

/-- A marker that begins the others hides one more declaration. The first of the others is not
needed, but is the one that is named. -/
theorem scanText_of_covering_of_outdated :
    ({ markers := ["SERDES_UNUSED", "SERDES_UN"] } : Config).check = .ok () ∧
      ({ markers := ["SERDES_"] } : Config).check = .ok () ∧
      Marker.Covers ["SERDES_"] ["SERDES_UNUSED", "SERDES_UN"] ∧
      ∃ few many third,
        Criteria.ofConfig { markers := ["SERDES_UNUSED", "SERDES_UN"] } = .ok few ∧
        Criteria.ofConfig { markers := ["SERDES_"] } = .ok many ∧
        Criteria.ofConfig { markers := ["SERDES_UN"] } = .ok third ∧
        (few.scanText outdatedText).TightensTo (many.scanText outdatedText) ∧
        (few.scanText outdatedText).accepted = ["serdes_b", "serdes_c"] ∧
        (many.scanText outdatedText).accepted = ["serdes_c"] ∧
        (few.scanText outdatedText).SameButMarkers (third.scanText outdatedText) ∧
        (few.scanText outdatedText).suppressed = [⟨"serdes_a", 2, "SERDES_UNUSED"⟩] ∧
        (third.scanText outdatedText).suppressed = [⟨"serdes_a", 2, "SERDES_UN"⟩] := by
  have valid : ({ markers := ["SERDES_UNUSED", "SERDES_UN"] } : Config).check = .ok () := rfl
  have otherValid : ({ markers := ["SERDES_"] } : Config).check = .ok () := rfl
  have covers : Marker.Covers ["SERDES_"] ["SERDES_UNUSED", "SERDES_UN"] := by
    intro marker member
    refine ⟨"SERDES_", List.mem_singleton_self _, ?_⟩
    revert marker
    decide
  have needless : Marker.Rearranges ["SERDES_UNUSED", "SERDES_UN"] ["SERDES_UN"] :=
    .drop (List.mem_singleton_self _) (by decide)
  obtain ⟨few, many, built, otherBuilt, texts, rearranged⟩ :=
    scanText_of_covering valid otherValid rfl covers
  obtain ⟨third, thirdBuilt, same⟩ := rearranged _ needless
  obtain ⟨-, -, rfl⟩ := Criteria.ofConfig_eq_ok_iff.mp built
  obtain ⟨-, -, rfl⟩ := Criteria.ofConfig_eq_ok_iff.mp otherBuilt
  obtain ⟨-, -, rfl⟩ := Criteria.ofConfig_eq_ok_iff.mp thirdBuilt
  exact ⟨valid, otherValid, covers, _, _, _, built, otherBuilt, thirdBuilt,
    (texts _).1, by decide +kernel, by decide +kernel, same _, by decide +kernel,
    by decide +kernel⟩

end LinkerExports
