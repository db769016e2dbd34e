/-!
# Text for a terminal

A text that a user typed may hold control characters and the escape sequences by which a terminal is steered.
Before it is shown inside a message it loses them. Every control character goes except four blanks, and an
escape sequence goes as a whole, to its end or to the end of the text.

Characters outside ASCII belong to no sequence, but inside one they are lost. A string addressed to the terminal
ends with the byte 9C, also where that byte is only a part of such a character. A blank inside a sequence that
is no string is shown. Where a message is made as a whole, the sequence is over with it. On a stream it is only
interrupted: what follows the blank is shown too, and behind the next hidden character the sequence goes on,
unless a character outside ASCII came in between.

* `Sequence.next?` reads an escape sequence, character by character;
* `Mode.step` takes a text apart on either medium;
* `plain medium s` is what is shown of `s`.
-/

namespace BrickControl.Text.Terminal

/-- Where a text is shown. -/
inductive Medium where
  /-- In a message that is made as a whole. -/
  | message
  /-- On a stream that is written piece by piece. -/
  | stream
  deriving DecidableEq, Repr

/-- How far an escape sequence has come. -/
inductive Sequence where
  /-- Behind the escape character. -/
  | escape
  /-- Behind at least one intermediate character. -/
  | intermediate
  /-- In a control sequence. -/
  | control
  /-- At the head of a device control string. -/
  | device
  /-- In the parameters at the head of a device control string. -/
  | deviceParameter
  /-- Behind an intermediate character at the head of a device control string. -/
  | deviceIntermediate
  /-- In a string that the byte 9C ends. -/
  | string
  /-- In a command string, which a bell ends. -/
  | command
  deriving DecidableEq, Repr

/-- The control characters that are blanks. -/
def isBlankControl (c : Char) : Bool := c == '\t' || c == '\n' || c == '\x0c' || c == '\r'

/-- Is the character shown outside of escape sequences? -/
def isVisible (c : Char) : Bool := isBlankControl c || (' ' ≤ c && c != '\x7f')

/-- Does the character end a string, with a byte of its encoding? -/
def endsString (c : Char) : Bool := (String.utf8EncodeChar c).contains 0x9C

namespace Sequence

/-- Is a control character, or one outside ASCII, of no effect here? Strings are not meant. -/
def ignores (c : Char) : Bool := c < ' ' || '~' < c

/-- The sequence behind one more character, `none` if it is over. -/
def next? : Sequence → Char → Option Sequence
  | .escape, c =>
    if ignores c then some .escape
    else if c ≤ '/' then some .intermediate
    else if c = '[' then some .control
    else if c = ']' then some .command
    else if c = 'P' then some .device
    else if c = 'X' ∨ c = '^' ∨ c = '_' then some .string
    else none
  | .intermediate, c => if ignores c ∨ c ≤ '/' then some .intermediate else none
  | .control, c => if ignores c ∨ c ≤ '?' then some .control else none
  | .device, c =>
    if ignores c then some .device
    else if c ≤ '/' then some .deviceIntermediate
    else if c ≤ '?' then some .deviceParameter
    else some .string
  | .deviceParameter, c =>
    if ignores c then some .deviceParameter
    else if c ≤ '/' then some .deviceIntermediate
    else if c ≤ ';' then some .deviceParameter
    else some .string
  | .deviceIntermediate, c => if ignores c ∨ c ≤ '/' then some .deviceIntermediate else some .string
  | .string, c => if endsString c then none else some .string
  | .command, c => if c = '\x07' then none else some .command

/-- Is a blank shown inside the sequence? Strings swallow it. -/
def showsBlanks : Sequence → Bool
  | .escape | .intermediate | .control => true
  | _ => false

end Sequence

/-- Where in a text a character stands. -/
inductive Mode where
  /-- In no sequence. -/
  | text
  /-- In a sequence. -/
  | inside (sequence : Sequence)
  /-- In text that interrupts a sequence. -/
  | interrupting (sequence : Sequence)
  deriving DecidableEq, Repr

/-- The mode in which a sequence goes on, or that behind its end. -/
def Mode.after : Option Sequence → Mode
  | some sequence => .inside sequence
  | none => .text

/-- One character: the mode behind it, and whether it is shown. The escape character begins a sequence
anywhere, and two characters cancel one anywhere. -/
def Mode.step (medium : Medium) (mode : Mode) (c : Char) : Mode × Bool :=
  if c = '\x1b' then (.inside .escape, false)
  else if c = '\x18' ∨ c = '\x1a' then (.text, false)
  else
    match mode with
    | .text => (.text, isVisible c)
    | .inside sequence =>
      if sequence.showsBlanks && isBlankControl c then
        match medium with
        | .message => (.text, true)
        | .stream => (.interrupting sequence, true)
      else (.after (sequence.next? c), false)
    | .interrupting sequence =>
      if '\x7f' < c then (.text, true)
      else if isVisible c then (.interrupting sequence, true)
      else (.inside sequence, false)

/-- What is shown of a text that begins in `mode`. -/
def shown (medium : Medium) : Mode → List Char → List Char
  | _, [] => []
  | mode, c :: rest =>
    match mode.step medium c with
    | (next, true) => c :: shown medium next rest
    | (next, false) => shown medium next rest

/-- What is shown of a text. -/
def plain (medium : Medium) (s : String) : String := String.ofList (shown medium .text s.toList)

/-- Nothing is added and nothing is moved. -/
theorem shown_sublist (medium : Medium) (mode : Mode) (text : List Char) :
    (shown medium mode text).Sublist text := by
  induction text generalizing mode with
  | nil => exact List.Sublist.slnil
  | cons c rest ih =>
    rw [shown]
    split
    · exact (ih _).cons_cons c
    · exact (ih _).cons c

end BrickControl.Text.Terminal
