import LinkerExports.Text.Search

/-! A search that is run again from every position repeats work that it has done before. Here a
search is run from all positions of one text together, from the back to the front, so that each
position is visited once. The findings stand in the order of the text: one for each character and
one for the end. Each operation gives the findings of the search of the same name. -/
namespace LinkerExports.Text

variable {α : Type}

/-- What a search finds at every position of a text, the front first. -/
def Search.findings (search : Search α) : List Char → List (Option α)
  | [] => [search []]
  | c :: rest => search (c :: rest) :: search.findings rest

namespace Findings

def front (findings : List (Option α)) : Option α := findings.headD none

def one (isMember : Char → Bool) : List Char → List (Option α) → List (Option α)
  | c :: rest, _ :: next => (if isMember c then front next else none) :: one isMember rest next
  | _, _ => [none]

def many (isMember : Char → Bool) : List Char → List (Option α) → List (Option α)
  | c :: rest, here :: next =>
    let longer := many isMember rest next
    (if isMember c then front longer <|> here else here) :: longer
  | _, next => next

def atLeastOne (isMember : Char → Bool) (text : List Char) (next : List (Option α)) :
    List (Option α) :=
  one isMember text (many isMember text next)

def literal (word : List Char) (text : List Char) (next : List (Option α)) : List (Option α) :=
  word.foldr (fun c => one (· == c) text) next

def marked : List Char → List (Option α) → List (Option (List Char × α))
  | text, here :: next => here.map (fun found => (text, found)) :: marked text.tail next
  | _, [] => []

def orElse (first second : List (Option α)) : List (Option α) :=
  List.zipWith (· <|> ·) first second

end Findings

namespace Search

@[simp] theorem front_findings (search : Search α) (text : List Char) :
    Findings.front (search.findings text) = search text := by
  cases text <;> rfl

@[simp] theorem findings_one (isMember : Char → Bool) (next : Search α) (text : List Char) :
    Findings.one isMember text (next.findings text) = (one isMember next).findings text := by
  induction text with
  | nil => rfl
  | cons c rest ih => simp [findings, Findings.one, ih]

@[simp] theorem findings_many (isMember : Char → Bool) (next : Search α) (text : List Char) :
    Findings.many isMember text (next.findings text) = (many isMember next).findings text := by
  induction text with
  | nil => rfl
  | cons c rest ih => simp [findings, Findings.many, ih, many_cons]

@[simp] theorem findings_atLeastOne (isMember : Char → Bool) (next : Search α)
    (text : List Char) :
    Findings.atLeastOne isMember text (next.findings text) =
      (atLeastOne isMember next).findings text := by
  simp [Findings.atLeastOne, atLeastOne]

@[simp] theorem findings_literal (word : List Char) (next : Search α) (text : List Char) :
    Findings.literal word text (next.findings text) = (literal word next).findings text := by
  induction word with
  | nil => rfl
  | cons c word ih =>
    have step : Findings.literal (c :: word) text (next.findings text) =
        Findings.one (· == c) text (Findings.literal word text (next.findings text)) := rfl
    rw [step, ih, findings_one, literal_cons]

@[simp] theorem findings_marked (next : Search α) (text : List Char) :
    Findings.marked text (next.findings text) = next.marked.findings text := by
  induction text with
  | nil => rfl
  | cons c rest ih => simp [findings, Findings.marked, ih, marked]

@[simp] theorem findings_orElse (first second : Search α) (text : List Char) :
    Findings.orElse (first.findings text) (second.findings text) =
      (first.orElse second).findings text := by
  induction text with
  | nil => rfl
  | cons c rest ih =>
    rw [findings, findings, findings, ← ih]
    rfl

end Search

end LinkerExports.Text
