/-! A search looks at a text from one position on and finds at most one thing there. Where it has
a choice it takes the first that succeeds: `many` tries the longest run of a class of characters
first and then shorter ones. -/
namespace LinkerExports.Text

abbrev Search (α : Type) := List Char → Option α

namespace Search

variable {α β : Type}

def one (isMember : Char → Bool) (next : Search α) : Search α
  | [] => none
  | c :: rest => if isMember c then next rest else none

/-- Any number of characters of a class, then `next`; the longest run is preferred. -/
def many (isMember : Char → Bool) (next : Search α) : Search α
  | [] => next []
  | c :: rest =>
    if isMember c then many isMember next rest <|> next (c :: rest) else next (c :: rest)

def atLeastOne (isMember : Char → Bool) (next : Search α) : Search α :=
  one isMember (many isMember next)

def literal (word : List Char) (next : Search α) : Search α :=
  word.foldr (fun c => one (· == c)) next

/-- Adds the text at which the search was started to what it finds. -/
def marked (next : Search α) : Search (List Char × α) :=
  fun text => (next text).map fun found => (text, found)

/-- Tries `first`, and `second` where `first` finds nothing. -/
def orElse (first second : Search α) : Search α :=
  fun text => first text <|> second text

@[simp] theorem one_nil (isMember : Char → Bool) (next : Search α) : one isMember next [] = none :=
  rfl

@[simp] theorem one_cons (isMember : Char → Bool) (next : Search α) (c : Char) (rest : List Char) :
    one isMember next (c :: rest) = if isMember c then next rest else none := rfl

theorem many_cons (isMember : Char → Bool) (next : Search α) (c : Char) (rest : List Char) :
    many isMember next (c :: rest) =
      if isMember c then many isMember next rest <|> next (c :: rest) else next (c :: rest) := rfl

theorem literal_cons (c : Char) (word : List Char) (next : Search α) :
    literal (c :: word) next = one (· == c) (literal word next) := rfl

theorem literal_append (word : List Char) (next : Search α) (text : List Char) :
    literal word next (word ++ text) = next text := by
  induction word with
  | nil => rfl
  | cons c word ih => simp [literal_cons, ih]

theorem literal_eq_none {word text : List Char} (h : ¬ word <+: text) (next : Search α) :
    literal word next text = none := by
  induction word generalizing text with
  | nil => simp at h
  | cons c word ih =>
    cases text with
    | nil => rfl
    | cons d text =>
      rw [literal_cons, one_cons]
      split
      · next hd => exact ih fun hp => h (by simp_all)
      · rfl

end Search

end LinkerExports.Text
