import LinkerExports.Proofs.Scan.Invariant

/-! Every declaration is reported once, with its line. So the events tell the same as the summary,
in the order of the input. -/
namespace LinkerExports

namespace Event

def declaration? : Event → Option (String × Nat)
  | accepted name line => some (name, line)
  | suppressed entry => some (entry.name, entry.line)
  | _ => none

def accepted? : Event → Option String
  | accepted name _ => some name
  | _ => none

def suppressed? : Event → Option Suppression
  | suppressed entry => some entry
  | _ => none

end Event

theorem filterMap_zipIdx_cons {α β : Type} (f : α × Nat → Option β) (start : Nat) (a : α)
    (rest : List α) :
    ((a :: rest).zipIdx start).filterMap f =
      (f (a, start)).toList ++ (rest.zipIdx (start + 1)).filterMap f := by
  rw [List.zipIdx_cons, List.filterMap_cons]
  cases f (a, start) <;> rfl

namespace Verdict

theorem events_cons (start : Nat) (verdict : Verdict) (rest : List Verdict) :
    events start (verdict :: rest) = (verdict.event? start).toList ++ events (start + 1) rest :=
  filterMap_zipIdx_cons _ start verdict rest

theorem suppressions_cons (start : Nat) (verdict : Verdict) (rest : List Verdict) :
    suppressions start (verdict :: rest) =
      (verdict.suppressed? start).toList ++ suppressions (start + 1) rest :=
  filterMap_zipIdx_cons _ start verdict rest

theorem accepted_events (start : Nat) (verdicts : List Verdict) :
    (events start verdicts).filterMap Event.accepted? = verdicts.filterMap accepted? := by
  induction verdicts generalizing start with
  | nil => rfl
  | cons verdict rest ih =>
    rw [events_cons, List.filterMap_append, ih]
    cases verdict <;> rfl

theorem suppressed_events (start : Nat) (verdicts : List Verdict) :
    (events start verdicts).filterMap Event.suppressed? = suppressions start verdicts := by
  induction verdicts generalizing start with
  | nil => rfl
  | cons verdict rest ih =>
    rw [events_cons, List.filterMap_append, ih, suppressions_cons]
    cases verdict <;> simp [event?, suppressed?, Event.suppressed?]

end Verdict

namespace Criteria

variable {criteria : Criteria}

/-- The names that some lines declare, each with the number of its line. -/
def declarations (criteria : Criteria) (start : Nat) (lines : List (List Char)) :
    List (String × Nat) :=
  (lines.zipIdx start).filterMap fun entry => (criteria.name? entry.1).map (·, entry.2)

theorem declarations_cons (start : Nat) (line : List Char) (rest : List (List Char)) :
    criteria.declarations start (line :: rest) =
      ((criteria.name? line).map (·, start)).toList ++ criteria.declarations (start + 1) rest :=
  filterMap_zipIdx_cons _ start line rest

theorem declaration_of_event?_verdict (above : Option (List Char)) (line : List Char) (n : Nat) :
    ((criteria.verdict above line).event? n).toList.map Event.declaration? =
      ((criteria.name? line).map (·, n)).toList.map some := by
  simp only [verdict]
  cases criteria.name? line <;> cases above.bind criteria.setMarker? <;> rfl

theorem declaration_events (above : Option (List Char)) (start : Nat) (lines : List (List Char)) :
    (Verdict.events start (criteria.verdictsBelow above lines)).map Event.declaration? =
      (criteria.declarations start lines).map some := by
  induction lines generalizing above start with
  | nil => rfl
  | cons line rest ih =>
    rw [verdictsBelow, Verdict.events_cons, declarations_cons, List.map_append, List.map_append,
      declaration_of_event?_verdict, ih]

theorem events_readLines (nonempty : "" ∉ criteria.markers) (raws : List (List Char)) :
    (criteria.readLines raws).events.toList =
      Verdict.events 1 (criteria.verdicts (raws.map Text.foldEnding)) := by
  obtain ⟨grown, -, -⟩ := foldl_readLine nonempty (looksBackTo_empty nonempty) raws
  rw [← verdicts_eq_verdictsBelow] at grown
  exact grown.events

theorem scan_events_of_ends (nonempty : "" ∉ criteria.markers) {source : Source}
    (ends : source.failure = none) :
    (criteria.scan source).events =
      Verdict.events 1 (criteria.verdicts ((Text.lines source.text.toList).map Text.foldEnding)) ++
        (criteria.scanText source.text).closingEvents := by
  rw [← events_readLines nonempty]
  simp only [scan, ends, Source.map_decode_lines ends, scanText]

def reports (criteria : Criteria) (text : String) : List Event :=
  (criteria.readLines (Text.lines text.toList)).events.toList

theorem reports_eq (nonempty : "" ∉ criteria.markers) (text : String) :
    criteria.reports text = Verdict.events 1
      (criteria.verdicts ((Text.lines text.toList).map Text.foldEnding)) :=
  events_readLines nonempty _

theorem accepted_reports (nonempty : "" ∉ criteria.markers) (text : String) :
    (criteria.reports text).filterMap Event.accepted? = (criteria.scanText text).accepted := by
  rw [reports_eq nonempty, Verdict.accepted_events, scanText_eq_ofVerdicts nonempty]
  rfl

theorem suppressed_reports (nonempty : "" ∉ criteria.markers) (text : String) :
    (criteria.reports text).filterMap Event.suppressed? = (criteria.scanText text).suppressed := by
  rw [reports_eq nonempty, Verdict.suppressed_events, scanText_eq_ofVerdicts nonempty]
  rfl

/-- The lines on which a scan of a text reports a declaration. -/
def declaringLines (criteria : Criteria) (text : String) : List Nat :=
  ((criteria.reports text).filterMap Event.declaration?).map Prod.snd

theorem declaringLines_eq (nonempty : "" ∉ criteria.markers) (text : String) :
    criteria.declaringLines text =
      (criteria.declarations 1 ((Text.lines text.toList).map Text.foldEnding)).map Prod.snd := by
  have reported := congrArg (List.filterMap id)
    (criteria.declaration_events none 1 ((Text.lines text.toList).map Text.foldEnding))
  rw [← verdicts_eq_verdictsBelow, ← reports_eq nonempty, List.filterMap_map,
    List.filterMap_map] at reported
  rw [declaringLines]
  exact congrArg (List.map Prod.snd) (reported.trans (List.filterMap_some))

end Criteria

end LinkerExports
