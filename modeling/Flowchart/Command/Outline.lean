import Flowchart.Command.Transcript

/-!
# Outlines of programs

The commands that print the syntax tree of a program.
-/

set_option autoImplicit false

namespace Flowchart.Command

/-- The tree of a text read in the form of the given name. -/
def treeOf (text mode : String) : Except Source.Fault Tree := do
  let mode ← Source.Mode.ofName? mode
  Source.parse mode text

/-- Print the outline of a text read in the form of the given name. -/
def outlineSession (text mode : String) (options : Outline.Options) : Session Unit := do
  let tree ← Session.get .source (treeOf text mode)
  let outline ← Session.get .outline (Outline.outline options tree)
  Session.printLine outline

/-- Print the outline of a text. -/
def outlineText (text mode : String) (options : Outline.Options) : Transcript :=
  (outlineSession text mode options).transcript.1

/-- Print the outline of the program of a file. -/
def outlineFile (file : String) : Transcript :=
  outlineText (fileText file) "exec" {}

/-- Print the outline of each file with the places of all nodes, under a heading. -/
def outlineFilesSession (files : Files) : List String → Session Unit
  | [] => return
  | path :: paths => do
    let rule := String.ofList (List.replicate 50 '=')
    Session.printLine rule
    Session.printLine ("AST tree for " ++ path)
    Session.printLine rule
    let text ← Session.get .file (files.read path)
    let program ←
      match programText text with
      | .ok program => pure program
      | .error .unknown => Session.fail (.source .malformed)
      | .error fault => Session.fail (.undecodable fault)
    outlineSession (fileText program) "exec" { places := true }
    Session.printLine ""
    outlineFilesSession files paths

/-- Print the outlines of the files named by the arguments. -/
def outlineFiles (args : List String) (files : Files) : Transcript :=
  (outlineFilesSession files args).transcript.1

end Flowchart.Command
