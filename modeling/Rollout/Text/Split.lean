/-!
# Parts between separators
-/

namespace Rollout.Text

/-- The parts of a text between the separators in it; one part more than there are separators. -/
def splitOn (sep : Char) (cs : List Char) : List (List Char) :=
  cs.foldr (fun c acc =>
    if c = sep then [] :: acc
    else match acc with
      | [] => [[c]]
      | p :: ps => (c :: p) :: ps) [[]]

end Rollout.Text
