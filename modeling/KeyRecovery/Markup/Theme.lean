import KeyRecovery.Markup.Lexeme

/-!
# References to the theme

* `Theme.given` : the colours that the theme gives;
* `Theme.automatic` : the names for text whose colour is chosen to be read;
* `Theme.computed` : the names of colours that are computed from the given ones;
* `Theme.lexemes?` : what a reference stands for.
-/

namespace KeyRecovery.Markup.Theme

def given : List (List Char × List Char) :=
  [("primary".toList, "#0178D4".toList), ("secondary".toList, "#004578".toList),
    ("accent".toList, "#FFA62B".toList), ("warning".toList, "#FFA62B".toList),
    ("error".toList, "#BA3C5B".toList), ("success".toList, "#4EBF71".toList),
    ("foreground".toList, "#E0E0E0".toList), ("background".toList, "#121212".toList),
    ("surface".toList, "#1E1E1E".toList), ("border".toList, "#0178D4".toList)]

def automatic : List (List Char) := ["text".toList, "text-muted".toList, "text-disabled".toList]

/-- The names of colours that come in shades. -/
def shaded : List (List Char) :=
  ["primary".toList, "secondary".toList, "primary-background".toList, "secondary-background".toList,
    "background".toList, "foreground".toList, "panel".toList, "boost".toList, "surface".toList,
    "warning".toList, "error".toList, "success".toList, "accent".toList]

/-- The names of colours that mean something. -/
def meaningful : List (List Char) :=
  ["primary".toList, "secondary".toList, "warning".toList, "error".toList, "success".toList,
    "accent".toList]

/-- The ends of the names of shades. -/
def shades : List (List Char) :=
  [[], "-darken-1".toList, "-darken-2".toList, "-darken-3".toList, "-lighten-1".toList,
    "-lighten-2".toList, "-lighten-3".toList]

def computed : List (List Char) :=
  shaded.flatMap (fun name => shades.map (name ++ ·)) ++ meaningful.map ("text-".toList ++ ·) ++
    meaningful.map (· ++ "-muted".toList) ++ ["foreground-muted".toList, "foreground-disabled".toList]

def lexemes? (name : List Char) : Option (List Lexeme) :=
  match given.find? (·.1 = name) with
  | some (_, colour) => some [.colour colour]
  | none =>
    if automatic.contains name then some [.word "auto".toList, .blank [' ']]
    else if computed.contains name then some [.colour ('$' :: name)]
    else none

end KeyRecovery.Markup.Theme
