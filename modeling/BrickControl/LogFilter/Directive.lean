import BrickControl.Event
import BrickControl.Numeral
import BrickControl.Pattern
import BrickControl.Text.Blank
import BrickControl.Text.Cut

/-!
# Directives of a log filter

A directive names a level, or a part of the program with a level, or only a part of the program, of which then
everything passes. Between square brackets it may name a span, or a field between braces that the event must
have. A field may be given a value, which is a number or a pattern.

Blanks around a directive are passed over when its parts are looked for. Each part is then cut out of the
directive as it was written, at the same distance in bytes from its beginning, so that a blank at the beginning
displaces all of them; a level and a bare name reach to the very end.

* `Directive.ofText?` reads a directive;
* `Directive.concerns` tells which events it is about;
* `Directive.precedes` puts the more specific of two directives first.

The program works in no spans, so a directive that names a span lets nothing pass, and neither does one that
asks for the value of a field.
-/

namespace BrickControl

/-- A directive of a filter. -/
structure Directive where
  /-- What the name of the reporting part begins with; `none` for every part. -/
  target : Option String
  /-- Fields that the event must have. -/
  fields : List String
  /-- The least urgent level that passes: 0 lets nothing pass, 5 everything. -/
  rank : Nat
  deriving DecidableEq, Repr

namespace Directive

/-! ### Reading -/

/-- The rank of a level by its name, in any case; below all of them stands `off`. -/
def rankOfName? (text : List Char) : Option Nat :=
  let name := String.ofList (text.map Char.toUpper)
  if name = "OFF" then some 0
  else (Level.all.find? fun level => decide (level.name = name)).map Level.rank

/-- A rank by its number or by the name of a level. -/
def rankOf? (text : List Char) : Option Nat :=
  match Numeral.natural 10 Level.trace.rank text with
  | .ok rank => some rank
  | .error _ => rankOfName? text

/-- The level behind an equals sign; none written stands for everything. -/
def rankAfter? (text : List Char) : Option Nat :=
  if text.isEmpty then some Level.trace.rank else rankOf? text

/-- May a directive begin with this character? -/
def mayBegin (c : Char) : Bool :=
  Text.isAlphanumeric c || c == '-' || c == ':' || c == '_' || c == '['

/-- What stands between the square brackets of a directive. -/
inductive Span where
  /-- No brackets. -/
  | absent
  /-- The name of a span, with or without a field. -/
  | named
  /-- A field of the event or span, with the value it must have or without. -/
  | field (field : List Char)
  deriving DecidableEq, Repr

/-- The value that a field is given: what is behind the first equals sign, up to another one. -/
def valueOf? (field : List Char) : Option (List Char) :=
  match field.dropWhile (· != '=') with
  | [] => none
  | _ :: value => some (value.takeWhile (· != '='))

/-- A field has a name or a value, and the value is a number or a pattern that can be used. -/
def isField (field : List Char) : Bool :=
  !field.isEmpty && (valueOf? field).all fun value => Numeral.isReal value || Pattern.isUsable value

/-- Reads what stands between square brackets. Behind the opening bracket is `inner`, at byte `start` of the
directive as it was written, which is `text`. Gives the number of bytes behind which the directive goes on, and
the rest of it. -/
def span? (text : List Char) (start : Nat) (inner : List Char) :
    Option (Span × Nat × List Char) :=
  let name := inner.takeWhile fun c => c != ']' && c != '\x7b'
  let afterName := start + Text.byteSize name + 1
  match inner.drop name.length with
  | ']' :: rest => some (.named, afterName, rest)
  | _ :: inner =>
    let field := inner.takeWhile (· != '\x7d')
    match inner.drop field.length, Text.cut? text afterName (Text.byteSize field) with
    | _ :: ']' :: rest, some written =>
      if isField written then
        some (if name.isEmpty then .field written else .named,
          afterName + Text.byteSize field + 2, rest)
      else none
    | _, _ => none
  | [] => none

/-- The directive that a target, brackets and a level make; the name of a span, or a field with a value,
concerns no event. -/
def make (target : List Char) (span : Span) (rank : Nat) : List Directive :=
  let about := if target.isEmpty then none else some (String.ofList target)
  match span with
  | .absent => [⟨about, [], rank⟩]
  | .named => []
  | .field field =>
    if field.contains '=' then [] else [⟨about, [String.ofList field], rank⟩]

/-- Reads a level alone, or else a bare target. -/
def ofBare (text : List Char) : Directive :=
  match rankOf? text with
  | some rank => ⟨none, [], rank⟩
  | none => ⟨some (String.ofList text), [], Level.trace.rank⟩

/-- The level that is written from byte `start` on. -/
def levelFrom? (text : List Char) (start : Nat) : Option Nat :=
  (Text.dropBytes? start text).bind rankAfter?

/-- Reads a directive: `none` if it is malformed, and the empty list if it concerns no event. -/
def ofText? (text : List Char) : Option (List Directive) :=
  let body := Text.trim text
  if !(body.head?.any mayBegin) then none
  else
    let name := body.takeWhile fun c => c != '=' && c != '['
    let start := Text.byteSize name + 1
    match body.drop name.length, Text.cut? text 0 (Text.byteSize name) with
    | [], _ => some [ofBare text]
    | '=' :: _, some target => (levelFrom? text start).map (make target .absent)
    | _ :: inner, some target =>
      match span? text start inner with
      | some (span, _, []) => some (make target span Level.trace.rank)
      | some (span, behind, '=' :: _) => (levelFrom? text (behind + 1)).map (make target span)
      | _ => none
    | _, none => none

/-! ### Choosing -/

/-- How specific a directive is: a longer target first, then more fields. -/
def weight (d : Directive) : Nat × Nat :=
  (match d.target with
    | some target => target.utf8ByteSize + 1
    | none => 0,
   d.fields.length)

/-- Does the directive come before another in a filter? Of equally specific ones the later in the alphabet
comes first. -/
def precedes (d e : Directive) : Bool :=
  e.weight.1 < d.weight.1 ||
    (e.weight.1 == d.weight.1 &&
      (e.weight.2 < d.weight.2 || (e.weight.2 == d.weight.2 && e.fields < d.fields)))

/-- Does the directive concern an event? -/
def concerns (d : Directive) (event : Event) : Bool :=
  let names := "message" :: event.fields.map Prod.fst
  (match d.target with
    | some target => target.toList.isPrefixOf event.target.toList
    | none => true) &&
  d.fields.all names.contains

end Directive

end BrickControl
