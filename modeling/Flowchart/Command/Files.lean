import Flowchart.Source.Parser
import Flowchart.Text.Quoted

/-!
# Files of a working directory

Commands see the files of one directory, each with its text.  A path is followed from the working
directory, name by name; above the working directory there are directories only.
-/

set_option autoImplicit false

namespace Flowchart.Command

/-- Files by path from the working directory. -/
abbrev Files := List (String × String)

/-- Why a file cannot be read. -/
inductive FileFault where
  | missing (path : String)
  | directory (path : String)
  /-- A file stands in the place of a directory. -/
  | notDirectory (path : String)
  /-- The path or a name in it is too long. -/
  | nameTooLong (path : String)
  /-- The path holds the character with the number zero. -/
  | zeroCharacter
deriving Repr, DecidableEq

/-- The wording of a fault. -/
def FileFault.message : FileFault → String
  | missing path => "[Errno 2] No such file or directory: " ++ quoted path
  | directory path => "[Errno 21] Is a directory: " ++ quoted path
  | notDirectory path => "[Errno 20] Not a directory: " ++ quoted path
  | nameTooLong path => "[Errno 36] File name too long: " ++ quoted path
  | zeroCharacter => "embedded null byte"
where
  /-- A path in quotes. -/
  quoted (path : String) : String := Text.quoted (Text.codePoints path)

/-- The greatest length of a path in bytes. -/
def pathLimit : Nat := 4095

/-- The greatest length of a name in a path in bytes. -/
def nameLimit : Nat := 255

/-- Follow the names of a path from a directory, which is given by the names that lead to it from
the working directory, or by nothing when it lies above that. -/
def Files.follow (files : Files) (path : String) :
    Option (List String) → List String → Except FileFault String
  | _, [] => .error (.directory path)
  | directory, name :: rest =>
    if name == "" || name == "." then follow files path directory rest
    else if name == ".." then
      match directory with
      | none | some [] => follow files path none rest
      | some names => follow files path (some names.dropLast) rest
    else if nameLimit < name.utf8ByteSize then .error (.nameTooLong path)
    else
      match directory with
      | none => .error (.missing path)
      | some names =>
        let here := names ++ [name]
        match files.find? fun file => file.1.splitOn "/" = here with
        | some file => if rest.isEmpty then .ok file.2 else .error (.notDirectory path)
        | none =>
          if files.any fun file => here.isPrefixOf (file.1.splitOn "/") then
            follow files path (some here) rest
          else .error (.missing path)

/-- The text of a file. -/
def Files.read (files : Files) (path : String) : Except FileFault String :=
  if path.contains '\x00' then .error .zeroCharacter
  else if path.isEmpty then .error (.missing path)
  else if pathLimit < path.utf8ByteSize then .error (.nameTooLong path)
  else files.follow path (if path.startsWith "/" then none else some []) (path.splitOn "/")

/-- The text of a file with a single line feed at the end of every line. -/
def fileText (text : String) : String :=
  String.ofList (Source.unixLines text.toList)

end Flowchart.Command
