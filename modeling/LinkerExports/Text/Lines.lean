/-! A text is cut behind each terminator, so that its lines joined again are the text. The same
cut serves characters and raw bytes. `foldEnding` makes a line that ends in a carriage return and
a newline end in the newline alone. -/
namespace LinkerExports.Text

variable {α : Type}

def consLine (isEnd : α → Bool) (a : α) (lines : List (List α)) : List (List α) :=
  if isEnd a then [a] :: lines
  else match lines with
    | [] => [[a]]
    | line :: rest => (a :: line) :: rest

/-- The lines of a text. Each ends with its terminator, only the last may lack one, and none is
empty. -/
def splitLines (isEnd : α → Bool) (text : List α) : List (List α) :=
  text.foldr (consLine isEnd) []

def consCut (isEnd : α → Bool) (a : α) (cut : List (List α) × List α) : List (List α) × List α :=
  if isEnd a then ([a] :: cut.1, cut.2)
  else match cut.1 with
    | [] => ([], a :: cut.2)
    | line :: rest => ((a :: line) :: rest, cut.2)

/-- The lines of a text that have their terminator, and what is left behind the last of them. -/
def cutLines (isEnd : α → Bool) (text : List α) : List (List α) × List α :=
  text.foldr (consCut isEnd) ([], [])

/-- The cut of two texts put together, from the cuts of each: what the first leaves over begins the
first line of the second. -/
def joinCuts (first second : List (List α) × List α) : List (List α) × List α :=
  match second.1 with
  | [] => (first.1, first.2 ++ second.2)
  | line :: rest => (first.1 ++ (first.2 ++ line) :: rest, second.2)

def lastLine (rest : List α) : List (List α) := if rest.isEmpty then [] else [rest]

def lines (text : List Char) : List (List Char) := splitLines (· == '\n') text

def byteLines (bytes : List UInt8) : List (List UInt8) := splitLines (· == 0x0A) bytes

def foldEnding : List Char → List Char
  | [] => []
  | ['\r', '\n'] => ['\n']
  | c :: rest => c :: foldEnding rest

@[simp] theorem splitLines_nil (isEnd : α → Bool) : splitLines isEnd [] = [] := rfl

theorem splitLines_cons (isEnd : α → Bool) (a : α) (text : List α) :
    splitLines isEnd (a :: text) = consLine isEnd a (splitLines isEnd text) := rfl

theorem cutLines_cons (isEnd : α → Bool) (a : α) (text : List α) :
    cutLines isEnd (a :: text) = consCut isEnd a (cutLines isEnd text) := rfl

theorem splitLines_eq_cutLines (isEnd : α → Bool) (text : List α) :
    splitLines isEnd text = (cutLines isEnd text).1 ++ lastLine (cutLines isEnd text).2 := by
  induction text with
  | nil => rfl
  | cons a text ih =>
    rw [splitLines_cons, cutLines_cons, ih]
    rcases cutLines isEnd text with ⟨_ | ⟨line, lines⟩, _ | ⟨b, rest⟩⟩ <;>
      cases h : isEnd a <;> simp [consLine, consCut, lastLine, h]

theorem joinCuts_nil_left (cut : List (List α) × List α) : joinCuts ([], []) cut = cut := by
  rcases cut with ⟨_ | ⟨line, lines⟩, rest⟩ <;> simp [joinCuts]

theorem joinCuts_consCut (isEnd : α → Bool) (a : α) (first second : List (List α) × List α) :
    joinCuts (consCut isEnd a first) second = consCut isEnd a (joinCuts first second) := by
  rcases first with ⟨_ | ⟨line, lines⟩, rest⟩ <;> rcases second with ⟨_ | ⟨next, more⟩, last⟩ <;>
    cases h : isEnd a <;> simp [joinCuts, consCut, h]

theorem cutLines_append (isEnd : α → Bool) (a b : List α) :
    cutLines isEnd (a ++ b) = joinCuts (cutLines isEnd a) (cutLines isEnd b) := by
  induction a with
  | nil => exact (joinCuts_nil_left _).symm
  | cons x a ih => rw [List.cons_append, cutLines_cons, ih, cutLines_cons, joinCuts_consCut]

theorem foldEnding_append_crlf (line : List Char) :
    foldEnding (line ++ ['\r', '\n']) = line ++ ['\n'] := by
  induction line with
  | nil => rfl
  | cons c line ih =>
    rw [List.cons_append, foldEnding, ih, List.cons_append]
    cases line <;> simp

end LinkerExports.Text
