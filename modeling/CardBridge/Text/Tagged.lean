import CardBridge.Text.Json

/-!
# Alternatives as data

One of several alternatives is written with its name, in lower case and with
underscores between the words.
-/

namespace CardBridge.Text

/-- A name in capitalised words in lower case, with an underscore before
each capital but the first. -/
def snakeCase (name : String) : String :=
  let lowered (c : Char) :=
    if c.isUpper then ['_', c.toLower] else [c.toLower]
  match name.toList with
  | [] => ""
  | c :: rest => String.ofList (c.toLower :: rest.flatMap lowered)

/-- An alternative of what may happen: its name, then its details. -/
def tagged (name : String) (details : List (String × JsonValue)) :
    List (String × JsonValue) :=
  ("event", .text (snakeCase name)) :: details

end CardBridge.Text
