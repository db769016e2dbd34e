import BrickControl.Pattern.Escape

/-!
# Sets in a pattern

A set stands between square brackets and matches one character. It lists characters, ranges, shorthands, named
classes and further sets, and combines such lists by three operators. A hyphen before all else, and a closing
bracket there, stand for themselves.

* `OpenSet` is a set that is being read, with how deeply it is nested so far;
* `OpenSet.read?` reads a set behind its opening bracket, and gives the depth of it.

A set about bytes may only hold characters of ASCII, and so may not be negated.
-/

namespace BrickControl.Pattern

/-- A set that is being read. -/
structure OpenSet where
  /-- Only hyphens that stand for themselves have been read. -/
  leading : Bool := true
  /-- The depth of what is left of the last operator, if there is one. -/
  left : Option Nat := none
  /-- How many members there are behind the last operator. -/
  members : Nat := 0
  /-- The depth of the deepest of them. -/
  depth : Nat := 0
  deriving DecidableEq, Repr

/-- The names of the named classes. -/
def classNames : List String :=
  ["alnum", "alpha", "ascii", "blank", "cntrl", "digit", "graph", "lower", "print", "punct", "space", "upper",
    "word", "xdigit"]

/-- Reads a named class behind its opening bracket: is it negated, and what follows. -/
def namedClass? : List Char → Option (Bool × List Char)
  | ':' :: text =>
    let (negated, text) := match text with
      | '^' :: rest => (true, rest)
      | _ => (false, text)
    let name := text.takeWhile (· != ':')
    match text.drop name.length with
    | ':' :: ']' :: rest =>
      if classNames.contains (String.ofList name) then some (negated, rest) else none
    | _ => none
  | _ => none

/-- The character that decides whether a hyphen makes a range. In a spaced pattern it is the first one behind
blanks, and behind the mark of a comment. -/
def rangeMark? (flags : Flags) (text : List Char) : Option Char :=
  if flags.spaced then
    match text.dropWhile Text.isBlank with
    | '#' :: rest => (rest.dropWhile Text.isBlank).head?
    | rest => rest.head?
  else text.head?

/-- Reads one end of a range. -/
def endpoint? (flags : Flags) : List Char → Option (Escape × List Char)
  | '\x5c' :: rest => Escape.read? flags rest
  | c :: rest => some (.literal c false, rest)
  | [] => none

/-- May this be a member of a set? -/
def Escape.isMember (flags : Flags) : Escape → Bool
  | .literal c _ => if flags.unicode then !flags.ignoreCase else c ≤ '\x7f'
  | .shorthand negated => !flags.unicode && !negated
  | _ => false

/-- May two characters be the ends of a range? -/
def isRange (flags : Flags) : Escape → Escape → Bool
  | .literal low lowByte, .literal high highByte =>
    low ≤ high && (Escape.literal low lowByte).isMember flags &&
      (Escape.literal high highByte).isMember flags
  | _, _ => false

/-- Reads a member that is no set, and gives what follows it. -/
def member? (flags : Flags) (text : List Char) : Option (List Char) :=
  match endpoint? flags text with
  | none => none
  | some (low, behind) =>
    match skip flags behind with
    | '-' :: rest =>
      if rangeMark? flags rest = some ']' ∨ rangeMark? flags rest = some '-' then
        if low.isMember flags then some ('-' :: rest) else none
      else
        match endpoint? flags (skip flags rest) with
        | some (high, rest) => if isRange flags low high then some rest else none
        | none => none
    | rest => if low.isMember flags then some rest else none

namespace OpenSet

/-- The depth of the whole, inside its brackets. -/
def total (set : OpenSet) : Nat :=
  let list := if set.members < 2 then set.depth else set.depth + 1
  match set.left with
  | none => list
  | some left => max left list + 1

/-- One more member. -/
def add (set : OpenSet) (depth : Nat) (leading : Bool) : OpenSet :=
  { set with leading := leading, members := set.members + 1, depth := max set.depth depth }

/-- An operator: all that was read is now left of it. -/
def operator (set : OpenSet) : OpenSet := ⟨false, some set.total, 0, 0⟩

/-- Begins a set, behind its opening bracket. -/
def begin? (flags : Flags) (text : List Char) : Option (OpenSet × List Char) :=
  match skip flags text with
  | '^' :: rest => if flags.unicode then some ({}, rest) else none
  | rest => some ({}, rest)

/-- Reads on in a set, with the sets around it, the innermost first. A step takes at least one character, so the
length of the text is fuel enough. -/
def readFrom? (flags : Flags) : Nat → OpenSet → List OpenSet → List Char → Option (Nat × List Char)
  | 0, _, _, _ => none
  | fuel + 1, set, around, text =>
    match skip flags text with
    | [] => none
    | '[' :: rest =>
      match namedClass? rest with
      | some (negated, rest) =>
        if flags.allowsCharacter && (flags.unicode || !negated) then
          readFrom? flags fuel (set.add 0 false) around rest
        else none
      | none =>
        match begin? flags rest with
        | some (inner, rest) => readFrom? flags fuel inner ({ set with leading := false } :: around) rest
        | none => none
    | c :: rest =>
      if set.leading && (c == '-' || (c == ']' && set.members == 0)) then
        if flags.allowsCharacter then readFrom? flags fuel (set.add 0 (c == '-')) around rest else none
      else if c = ']' then
        match around with
        | [] => some (set.total + 1, rest)
        | outer :: around => readFrom? flags fuel (outer.add (set.total + 1) false) around rest
      else if (c = '&' ∨ c = '-' ∨ c = '~') ∧ rest.head? = some c then
        readFrom? flags fuel set.operator around rest.tail
      else
        match member? flags (c :: rest) with
        | some rest => readFrom? flags fuel (set.add 0 false) around rest
        | none => none

/-- Reads a set behind its opening bracket: its depth, and what follows it. -/
def read? (flags : Flags) (text : List Char) : Option (Nat × List Char) :=
  match begin? flags text with
  | some (set, rest) => readFrom? flags (text.length + 1) set [] rest
  | none => none

end OpenSet

end BrickControl.Pattern
