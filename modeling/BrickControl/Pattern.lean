import BrickControl.Pattern.Set
import BrickControl.Text.Alphanumeric

/-!
# Patterns

A pattern is a regular expression that stands for the texts it matches. The program matches nothing with one; it
only has to know which patterns can be used. A pattern is refused if it is malformed, if it is nested too
deeply, or if it could only be used with tables of characters that the program does without: those of the digits
or letters of all scripts, and of small and capital letters. About bytes all of these can be said of ASCII alone,
but then a pattern is refused that could match a part of a character.

A pattern is written between an equals sign and a closing brace, so it holds neither. A brace that opens the
count of a repetition is never closed then, and is refused.

* `Branch` and `Group` are what has been read of a pattern, by their depth;
* `Reading.step?` reads one element of a pattern;
* `isUsable` tells whether a pattern can be used.
-/

namespace BrickControl.Pattern

/-- One of the alternatives of a group, as far as it has been read. -/
structure Branch where
  /-- How many elements there are. -/
  elements : Nat := 0
  /-- The depth of the deepest of them. -/
  depth : Nat := 0
  /-- The depth of the last element, if it may be repeated. -/
  last : Option Nat := none
  deriving DecidableEq, Repr

namespace Branch

/-- The depth of the alternative: a sequence of elements is one deeper than its deepest. -/
def total (branch : Branch) : Nat := if branch.elements < 2 then branch.depth else branch.depth + 1

/-- One more element. -/
def add (branch : Branch) (depth : Nat) : Branch :=
  ⟨branch.elements + 1, max branch.depth depth, some depth⟩

/-- One more element, that only sets flags. -/
def addFlags (branch : Branch) : Branch := ⟨branch.elements + 1, branch.depth, none⟩

/-- Repeats the last element, which takes it one deeper. -/
def repeat? (branch : Branch) : Option Branch :=
  branch.last.map fun depth => ⟨branch.elements, max branch.depth (depth + 1), some (depth + 1)⟩

end Branch

/-- A group, or the whole pattern, as far as it has been read. -/
structure Group where
  /-- The flags that hold behind the group. -/
  behind : Flags
  /-- The depth of the deepest alternative before the last one, if there are several. -/
  earlier : Option Nat := none
  /-- The last alternative. -/
  branch : Branch := {}
  deriving DecidableEq, Repr

namespace Group

/-- The depth of what is in the group. -/
def total (group : Group) : Nat :=
  match group.earlier with
  | none => group.branch.total
  | some depth => max depth group.branch.total + 1

/-- Begins another alternative. -/
def alternate (group : Group) : Group :=
  { group with earlier := some (max (group.earlier.getD 0) group.branch.total), branch := {} }

/-- Changes the last alternative. -/
def modify (group : Group) (change : Branch → Branch) : Group :=
  { group with branch := change group.branch }

end Group

/-- A pattern, as far as it has been read. -/
structure Reading where
  flags : Flags
  /-- The innermost group that is open. -/
  group : Group
  /-- The groups around it, the innermost first. -/
  around : List Group
  /-- The names given to groups. -/
  names : List (List Char)
  deriving DecidableEq, Repr

/-- How deeply a pattern may be nested. -/
def depthLimit : Nat := 250

/-- Is the text the name of a group? -/
def isName : List Char → Bool
  | [] => false
  | c :: rest =>
    (c == '_' || Text.isAlphabetic c) &&
      rest.all fun c => c == '_' || c == '.' || c == '[' || c == ']' || Text.isAlphanumeric c

/-- May an escape stand for an element? -/
def Escape.isElement (flags : Flags) : Escape → Bool
  | .literal c byte => flags.allowsCharacter && (flags.unicode || !byte || c ≤ '\x7f')
  | .shorthand negated => !flags.unicode && !negated
  | .wordEdge => !flags.unicode
  | .textEdge => true

namespace Reading

/-- Nothing has been read. -/
def start : Reading := ⟨{}, ⟨{}, none, {}⟩, [], []⟩

/-- One more element. -/
def add (reading : Reading) (depth : Nat) : Reading :=
  { reading with group := reading.group.modify fun branch => branch.add depth }

/-- Opens a group in which the flags are `flags`. -/
def enter (reading : Reading) (flags : Flags) : Reading :=
  { reading with
    flags := flags
    group := ⟨reading.flags, none, {}⟩
    around := reading.group :: reading.around }

/-- Opens a group with a name, which is read up to its closing angle. -/
def enterNamed? (reading : Reading) (text : List Char) : Option (Reading × List Char) :=
  let name := text.takeWhile (· != '>')
  match text.drop name.length with
  | _ :: rest =>
    if isName name && !reading.names.contains name then
      some ({ reading.enter reading.flags with names := name :: reading.names }, rest)
    else none
  | [] => none

/-- Reads flags, for a group or for what follows in this one. -/
def setFlags? (reading : Reading) (text : List Char) : Option (Reading × List Char) :=
  let letters := text.takeWhile fun c => c != ':' && c != ')'
  if !areFlags letters then none
  else
    let flags := reading.flags.set letters
    match text.drop letters.length with
    | ':' :: rest => some (reading.enter flags, rest)
    | ')' :: rest =>
      if letters.isEmpty then none
      else some ({ reading with flags := flags, group := reading.group.modify Branch.addFlags }, rest)
    | _ => none

/-- Reads what is behind an opening parenthesis. -/
def parenthesis? (reading : Reading) (text : List Char) : Option (Reading × List Char) :=
  match skip reading.flags text with
  | '?' :: 'P' :: '<' :: rest => reading.enterNamed? rest
  | '?' :: '<' :: rest => reading.enterNamed? rest
  | '?' :: rest => reading.setFlags? rest
  | rest => some (reading.enter reading.flags, rest)

/-- Closes the innermost group. -/
def close? (reading : Reading) : Option Reading :=
  match reading.around with
  | [] => none
  | outer :: around =>
    some { reading with
      flags := reading.group.behind
      group := outer.modify fun branch => branch.add (reading.group.total + 1)
      around := around }

/-- Reads one element, which begins with `c`. -/
def step? (reading : Reading) (c : Char) (rest : List Char) : Option (Reading × List Char) :=
  let flags := reading.flags
  match c with
  | '(' => reading.parenthesis? rest
  | ')' => reading.close?.map fun reading => (reading, rest)
  | '|' => some ({ reading with group := reading.group.alternate }, rest)
  | '[' => (OpenSet.read? flags rest).map fun (depth, rest) => (reading.add depth, rest)
  | '?' | '*' | '+' =>
    reading.group.branch.repeat?.map fun branch =>
      ({ reading with group := { reading.group with branch := branch } },
        if rest.head? = some '?' then rest.tail else rest)
  | '\x7b' => none
  | '\x5c' =>
    match Escape.read? flags rest with
    | some (escape, rest) => if escape.isElement flags then some (reading.add 0, rest) else none
    | none => none
  | '.' => if flags.unicode then some (reading.add 0, rest) else none
  | '^' | '$' => some (reading.add 0, rest)
  | _ => if flags.allowsCharacter then some (reading.add 0, rest) else none

/-- Reads to the end. A step takes at least one character, so the length of the text is fuel enough. -/
def run? : Nat → Reading → List Char → Option Reading
  | 0, _, _ => none
  | fuel + 1, reading, text =>
    match skip reading.flags text with
    | [] => some reading
    | c :: rest =>
      match reading.step? c rest with
      | some (reading, rest) => run? fuel reading rest
      | none => none

end Reading

/-- Can the pattern be used? -/
def isUsable (text : List Char) : Bool :=
  match Reading.start.run? (text.length + 1) text with
  | some reading => reading.around.isEmpty && reading.group.total ≤ depthLimit
  | none => false

end BrickControl.Pattern
