/-!
Contract: the places that a search through a text can go on from.

Owns:

- `afterRun`, what is left after a run of characters of any possible length;
- `suffixes`, what is left after any number of characters.
-/

namespace Annotations.Text

/-- What is left of a text after a run of characters that satisfy `skips`, for each length the run
may be given, shortest first. -/
def afterRun (skips : Char → Bool) : List Char → List (List Char)
  | [] => [[]]
  | c :: rest => (c :: rest) :: (if skips c then afterRun skips rest else [])

/-- What is left of a text after any number of characters. -/
def suffixes (text : List Char) : List (List Char) :=
  afterRun (fun _ => true) text

end Annotations.Text
