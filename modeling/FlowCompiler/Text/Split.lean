/-!
# Splitting character sequences

`splitFirst` cuts at the first occurrence of a separating word, `pieces` at every occurrence of a
separating character. Both keep every other character.
-/

namespace FlowCompiler.Text

/-- What stands before and after the first occurrence of `word`, or `none` when it does not occur.
-/
def splitFirst (word : List Char) : List Char → Option (List Char × List Char)
  | [] => if word = [] then some ([], []) else none
  | c :: rest =>
    if word.isPrefixOf (c :: rest) then
      some ([], (c :: rest).drop word.length)
    else
      (splitFirst word rest).map fun parts => (c :: parts.1, parts.2)

/-- The parts between the occurrences of `mark`: always at least one, possibly empty ones. -/
def pieces (mark : Char) : List Char → List (List Char)
  | [] => [[]]
  | c :: rest =>
    if c = mark then
      [] :: pieces mark rest
    else
      match pieces mark rest with
      | [] => [[c]]
      | piece :: more => (c :: piece) :: more

end FlowCompiler.Text
