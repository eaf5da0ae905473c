/-!
# Pieces of text

A text cut at every occurrence of a character.
-/

namespace CardBridge.Text

/-- The pieces of a text between the separators; there is at least one. -/
def pieces (separator : Char) : List Char → List (List Char)
  | [] => [[]]
  | c :: rest =>
    if c = separator then [] :: pieces separator rest
    else match pieces separator rest with
      | piece :: more => (c :: piece) :: more
      | [] => [[c]]

end CardBridge.Text
