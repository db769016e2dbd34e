import BrickControl.Program

/-!
# The executable

Prints the transcript of a run. The executable has no serial driver of its own, so every device path counts as
missing; a dry run needs none.
-/

namespace BrickControl.Program

/-- What the executable finds around it. -/
def bareHost (logFilter : Option String) : Host :=
  ⟨logFilter, fun _ => .error "No such file or directory"⟩

end BrickControl.Program

open BrickControl

/-- Runs the program once. -/
def main (words : List String) : IO UInt32 := do
  let transcript := Program.run (Program.bareHost (← IO.getEnv "RUST_LOG")) words
  for line in transcript.stdout do
    IO.println line
  for line in transcript.stderr do
    IO.eprintln line
  return UInt32.ofNat transcript.exitCode
