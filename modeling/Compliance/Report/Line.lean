import Compliance.Text.Pieces

/-!
# Lines of a report

A line is a list of spans, each with a style and a least width.  Whether styles
are shown is decided only when the lines are put into a text: without them, what
remains is the padded contents of the spans.
-/

namespace Compliance

/-- A colour of the foreground. -/
inductive Colour where
  | red
  | green
  | yellow
  | blue
  | cyan
deriving Repr, DecidableEq, Inhabited

/-- The number of a colour in an escape sequence. -/
def Colour.code : Colour → String
  | red => "31"
  | green => "32"
  | yellow => "33"
  | blue => "34"
  | cyan => "36"

/-- How a span looks. -/
structure Style where
  bold : Bool := false
  dimmed : Bool := false
  underlined : Bool := false
  colour : Option Colour := none
deriving Repr, DecidableEq, Inhabited

namespace Style

/-- The numbers of a style in an escape sequence. -/
def codes (style : Style) : List String :=
  (if style.bold then ["1"] else []) ++ (if style.dimmed then ["2"] else []) ++
    (if style.underlined then ["4"] else []) ++ (style.colour.map Colour.code).toList

/-- The escape sequence with which a style begins. -/
def opening (style : Style) : List Char :=
  ("\x1b[" ++ ";".intercalate style.codes ++ "m").toList

/-- The escape sequence with which all styles end. -/
def closing : List Char := "\x1b[0m".toList

end Style

/-- A part of a line. -/
structure Span where
  content : String
  style : Style := {}
  width : Nat := 0
deriving Repr, DecidableEq, Inhabited

namespace Span

/-- A text with spaces after it, up to a width. -/
def pad (width : Nat) (text : List Char) : List Char :=
  text ++ List.replicate (width - text.length) ' '

/-- A text in which a style begins anew wherever all styles end, after leaving out the first `skip`
characters. -/
def restyleFrom (style : Style) : (skip : Nat) → List Char → List Char
  | _, [] => []
  | 1, c :: rest => c :: style.opening ++ restyleFrom style 0 rest
  | skip + 2, c :: rest => c :: restyleFrom style (skip + 1) rest
  | 0, c :: rest =>
    if (Text.after? Style.closing (c :: rest)).isSome then
      c :: restyleFrom style (Style.closing.length - 1) rest
    else c :: restyleFrom style 0 rest

/-- The text of a span. -/
def render (styled : Bool) (span : Span) : List Char :=
  if styled && !span.style.codes.isEmpty then
    span.style.opening ++ pad span.width (restyleFrom span.style 0 span.content.toList) ++
      Style.closing
  else pad span.width span.content.toList

/-- A span without a style. -/
def plain (content : String) : Span := { content }

/-- A bold span. -/
def bold (content : String) : Span := { content, style := { bold := true } }

/-- A bold and underlined span. -/
def title (content : String) : Span := { content, style := { bold := true, underlined := true } }

/-- A dimmed span. -/
def dimmed (content : String) : Span := { content, style := { dimmed := true } }

/-- A coloured span. -/
def coloured (colour : Colour) (content : String) : Span :=
  { content, style := { colour := some colour } }

/-- A bold and coloured span. -/
def mark (colour : Colour) (content : String) : Span :=
  { content, style := { bold := true, colour := some colour } }

/-- Gives a span a least width. -/
def widened (span : Span) (width : Nat) : Span := { span with width }

end Span

/-- A line of a report. -/
abbrev Line := List Span

/-- The text of a line, with its line break. -/
def Line.render (styled : Bool) (line : Line) : List Char :=
  line.flatMap (Span.render styled) ++ ['\n']

/-- A report. -/
abbrev Report := List Line

/-- The text of a report. -/
def Report.render (styled : Bool) (report : Report) : String :=
  String.ofList (report.flatMap (Line.render styled))

end Compliance
