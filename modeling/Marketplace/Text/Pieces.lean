/-!
# Texts in pieces

* `pieces` splits a text at each separator; there is always one piece more than separators.
* `cut?` splits it at the first separator only.
-/

namespace Marketplace.Text

/-- The pieces between the separators. -/
def pieces (separator : Char) : List Char → List (List Char)
  | [] => [[]]
  | c :: s =>
    match pieces separator s with
    | [] => [[c]]
    | piece :: rest => if c = separator then [] :: piece :: rest else (c :: piece) :: rest

/-- What stands in front of the first separator, and what behind it. -/
def cut? (separator : Char) (s : List Char) : Option (List Char × List Char) :=
  match s.dropWhile (· ≠ separator) with
  | _ :: rest => some (s.takeWhile (· ≠ separator), rest)
  | [] => none

theorem pieces_ne_nil (separator : Char) (s : List Char) : pieces separator s ≠ [] := by
  induction s with
  | nil => simp [pieces]
  | cons c s ih =>
    rw [pieces]
    split
    · simp
    · split <;> simp

end Marketplace.Text
