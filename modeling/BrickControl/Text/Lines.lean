/-!
# Lines

A line ends at a newline, and a carriage return right before the newline belongs to the end of the line.

* `lines s` are the lines of a text;
* `firstParagraph` is a text up to its first empty line.
-/

namespace BrickControl.Text

/-- A line without the carriage return at its end. -/
def withoutReturn (line : String) : String :=
  let cs := line.toList
  if cs.getLast? = some '\r' then String.ofList cs.dropLast else line

/-- The lines of a text, the last of which need not be ended. -/
def lines (s : String) : List String := (s.splitOn "\n").map withoutReturn

/-- A text up to the first newline that another one follows. -/
def firstParagraph : List Char → List Char
  | '\n' :: '\n' :: _ => []
  | c :: rest => c :: firstParagraph rest
  | [] => []

end BrickControl.Text
