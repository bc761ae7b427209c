import StructuredIR.Visibility

/-! # Reports

A report collects the diagnostics of one library. Each diagnostic is written on a line of its
own, as its source, its kind, its code and a message that ends with a period; on a terminal the
parts are coloured. -/

namespace StructuredIR

/-- A recorded diagnostic. -/
structure Diagnostic where
  /-- How grave it is, in the words of whoever records it. -/
  kind : String
  /-- The code of the diagnostic. -/
  code : String
  /-- What it says. -/
  message : String
  /-- What it belongs to; none for the source of the whole report. -/
  source : Option Phrase
  deriving DecidableEq, Repr, Inhabited

/-- The diagnostics of one source. -/
structure Report where
  /-- What the diagnostics belong to, unless they say otherwise. -/
  source : Phrase
  /-- The recorded diagnostics in order. -/
  items : List Diagnostic
  deriving DecidableEq, Repr, Inhabited

/-- What a stream and its surroundings tell about colours. -/
structure Terminal where
  /-- Whether the stream is a terminal. -/
  isTerminal : Bool
  /-- The value that asks for no colours, if any is set. -/
  noColor : Option String
  /-- The name of the terminal, if it is known. -/
  name : Option String
  deriving DecidableEq, Repr

/-- Colours are used on a terminal that is not called dumb, unless they are turned off. -/
def Terminal.usesColor (terminal : Terminal) : Bool :=
  terminal.isTerminal && terminal.noColor.isNone && terminal.name != some "dumb"

namespace Style

/-- Text in a style that ends with the text. -/
def wrap (style text : String) : String :=
  "\x1b[" ++ style ++ "m" ++ text ++ "\x1b[0m"

/-- Bold text in a colour. -/
def bold (color text : String) : String :=
  "\x1b[1m" ++ wrap color text

/-- The colour of the source. -/
def cyan : String := "36"

/-- The colour of an error. -/
def red : String := "31"

/-- The colour of a warning. -/
def yellow : String := "33"

/-- The style of the code. -/
def dim : String := "2"

end Style

namespace Diagnostic

/-- The message with a period at its end. -/
def sentence (diagnostic : Diagnostic) : String :=
  if diagnostic.message.endsWith "." then diagnostic.message else diagnostic.message ++ "."

/-- The source of a diagnostic in a report on `source`; an empty one counts as none. -/
def shownSource (diagnostic : Diagnostic) (source : Phrase) : String :=
  match diagnostic.source with
  | some own => if own.content = "" then source.plain else own.plain
  | none => source.plain

/-- The line of a diagnostic without colours. -/
def plainLine (diagnostic : Diagnostic) (source : Phrase) : String :=
  diagnostic.shownSource source ++ ": " ++ diagnostic.kind ++ " [" ++ diagnostic.code ++ "]: " ++
    diagnostic.sentence

/-- The line of a diagnostic in colours, where all that is no error is called a warning. -/
def coloredLine (diagnostic : Diagnostic) (source : Phrase) : String :=
  let kind :=
    if diagnostic.kind = "error" then Style.bold Style.red "error"
    else Style.bold Style.yellow "warning"
  Style.wrap Style.cyan (diagnostic.shownSource source) ++ ": " ++ kind ++ " [" ++
    Style.wrap Style.dim diagnostic.code ++ "]: " ++ diagnostic.sentence

end Diagnostic

namespace Report

/-- A report on `source` without diagnostics. -/
def empty (source : Phrase) : Report :=
  ⟨source, []⟩

/-- The report with one more diagnostic. -/
def record (report : Report) (diagnostic : Diagnostic) : Report :=
  { report with items := report.items ++ [diagnostic] }

/-- A warning in the name of the report's source. -/
def warning (report : Report) (code message : String) : Diagnostic :=
  ⟨"warning", code, message, some report.source⟩

/-- The codes of the diagnostics in order. -/
def codes (report : Report) : List String :=
  report.items.map Diagnostic.code

/-- The lines of the diagnostics. -/
def format (report : Report) (color : Bool) : String :=
  "\n".intercalate (report.items.map fun diagnostic =>
    if color then diagnostic.coloredLine report.source else diagnostic.plainLine report.source)

/-- The report with nothing but some other diagnostics. -/
def showing (report : Report) (items : List Diagnostic) : Report :=
  { report with items }

/-- What is printed for a report: its lines and a line feed, or nothing at all. -/
def printed (report : Report) (color : Bool) : String :=
  let text := report.format color
  if text = "" then "" else text ++ "\n"

end Report

end StructuredIR
