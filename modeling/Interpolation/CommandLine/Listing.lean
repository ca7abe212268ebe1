import Interpolation.CommandLine.Style
import Interpolation.Token
import Interpolation.Value

/-!
# Listings of placeholders

The tokens of a template are listed with their places, all placeholders with their forms. A line
ends each part, so a listing is a list of lines.
-/

namespace Interpolation.CommandLine

def unlines (lines : List Text) : Text :=
  lines.flatMap fun line => line ++ ['\n']

def tokenLine (isColoured : Bool) (o : Occurrence) : Text :=
  "  ".toList ++ Text.padLeft ' ' 4 (Text.ofNat o.start) ++ "..".toList ++
    Text.padRight 4 (Text.ofNat o.stop) ++ ' ' :: Style.cyan.paint isColoured o.token ++
    "  ".toList ++ Style.dimmed.paint isColoured o.placeholder.description.toList

def tokenListing (isColoured : Bool) (template : Text) : Text :=
  match scan template with
  | [] => unlines [Style.dimmed.paint isColoured "No placeholders found".toList]
  | found =>
    unlines (Style.bold.paint isColoured "Placeholders".toList ::
      found.map (tokenLine isColoured) ++
      [[], Text.ofNat found.length ++ " placeholder(s)".toList])

/-- The entry of a token; its keys keep this order. -/
def tokenEntry (o : Occurrence) : Value :=
  .table [("token".toList, .text o.token), ("name".toList, .text o.placeholder.name.toList),
    ("argument".toList, match o.argument with
      | some argument => .text argument
      | none => .null),
    ("start".toList, .number (.whole o.start)), ("end".toList, .number (.whole o.stop))]

def tokenData (template : Text) : Text :=
  unlines [(Value.list ((scan template).map tokenEntry)).spread 0]

def placeholderLine (isColoured : Bool) (p : Placeholder) : Text :=
  "  ".toList ++ Style.cyan.paint isColoured (Text.padRight 34 p.display) ++ "  ".toList ++
    p.description.toList

def placeholderListing (isColoured : Bool) : Text :=
  unlines (Style.bold.paint isColoured "Supported placeholders".toList :: [] ::
    Placeholder.catalogue.map (placeholderLine isColoured))

end Interpolation.CommandLine
