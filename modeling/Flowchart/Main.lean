import Flowchart.Command.Graph

/-!
# The command line

Draws the program file named by the first argument and saves the description of the graph.
-/

set_option autoImplicit false

open Flowchart.Command

/-- The arguments and the files of the command.  A file that can be read goes by a name of its own,
wherever it lies. -/
def commandInput (args : List String) : IO (List String × Files) := do
  match args with
  | [] => return ([], [])
  | path :: rest =>
    try
      return ("program" :: rest, [("program", ← IO.FS.readFile path)])
    catch _ => return (args, [])

/-- Run the command that draws a program file. -/
def main (args : List String) : IO UInt32 := do
  let (args, files) ← commandInput args
  let (transcript, view) := graph args files
  IO.print transcript.stdout
  if let some view := view then
    IO.FS.writeFile view.filename view.dot
  match transcript.ending with
  | .finished => return 0
  | .exited code => return code.toUInt32
  | .failed failure =>
    IO.eprintln failure.message
    return 1
