import BrickControl.LogFilter.Directive

/-!
# Log filters

A filter is a list of directives, parted by commas. Of the directives that concern an event the most specific
decides.

* `LogFilter.ofText?` reads a filter, `none` if any of its directives is no directive;
* `LogFilter.allows` decides about an event.
-/

namespace BrickControl

/-- Directives, the most specific one first. -/
structure LogFilter where
  directives : List Directive
  deriving DecidableEq, Repr

namespace LogFilter

/-- The pieces of a text between commas. -/
def pieces : List Char → List (List Char)
  | [] => [[]]
  | c :: rest =>
    match pieces rest with
    | piece :: later => if c = ',' then [] :: piece :: later else (c :: piece) :: later
    | [] => [[c]]

/-- Puts a directive in its place; it replaces one about the same target and fields. -/
def insert (d : Directive) : List Directive → List Directive
  | [] => [d]
  | e :: rest =>
    if d.target = e.target ∧ d.fields = e.fields then d :: rest
    else if d.precedes e then d :: e :: rest
    else e :: insert d rest

/-- The filter of a level alone. -/
def ofLevel (level : Level) : LogFilter := ⟨[⟨none, [], level.rank⟩]⟩

/-- Reads a filter. Empty directives are skipped; a filter without directives lets errors pass. -/
def ofText? (text : String) : Option LogFilter :=
  let parts := (pieces text.toList).filter fun piece => !piece.isEmpty
  match parts.mapM Directive.ofText? with
  | none => none
  | some [] => some (ofLevel .error)
  | some lists => some ⟨lists.flatten.foldl (fun sorted d => insert d sorted) []⟩

/-- Does the filter let an event pass? The first directive that concerns it decides. -/
def allows (filter : LogFilter) (event : Event) : Bool :=
  match filter.directives.find? fun d => d.concerns event with
  | some d => event.level.rank ≤ d.rank
  | none => false

end LogFilter

end BrickControl
