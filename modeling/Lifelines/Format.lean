/-!
# Output formats

The image formats that a layout tool can write. The name of a format is also
the extension of its files.
-/

namespace Lifelines

/-- The image formats. -/
inductive OutputFormat where
  | svg
  | png
  | gif
  | ps
  deriving DecidableEq, Repr

namespace OutputFormat

/-- All formats. -/
def all : List OutputFormat :=
  [svg, png, gif, ps]

/-- The name of a format and the extension of its files. -/
def extension : OutputFormat → String
  | svg => "svg"
  | png => "png"
  | gif => "gif"
  | ps => "ps"

/-- The format with exactly this name. -/
def ofName? (name : String) : Option OutputFormat :=
  all.find? fun f => f.extension == name

/-- The format with this name, be its ASCII letters large or small. -/
def parse? (name : String) : Option OutputFormat :=
  all.find? fun f => f.extension == name.map Char.toLower

end OutputFormat

end Lifelines
