import RadioGateway.Configuration.Source

/-!
# Folders

A working folder with its files, and what stands at a path that is taken relative to it.
-/

namespace RadioGateway.Configuration

open RadioGateway.Link

/-- The files of a folder, by their paths from it. -/
structure Folder where
  files : List (List String × Bytes) := []

namespace Folder

inductive Entry where
  | file (content : Bytes)
  | folder
  deriving DecidableEq, Repr

/-- The longest name of a file, in bytes. -/
def maxName : Nat := 255

/-- The longest path, in bytes. -/
def maxPath : Nat := 4095

/-- The parts of a path that lead somewhere. -/
def steps (path : String) : List String :=
  (path.splitOn "/").filter fun step => step ≠ "" && step ≠ "."

/-- The folder that holds a folder; `none` stands for all folders outside. -/
def parent? (place : List String) : Option (List String) :=
  if place.isEmpty then none else some place.dropLast

/-- Follows the steps of a path from a place. Outside of the working folder nothing is known but that
there are folders above it. -/
def follow (folder : Folder) (place : Option (List String)) : List String → Except OsFault Entry
  | [] => .ok .folder
  | step :: rest =>
      if maxName < step.utf8ByteSize then .error .nameTooLong
      else if step = ".." then folder.follow (place.bind parent?) rest
      else
        match place.map (· ++ [step]) with
        | none => .error .notFound
        | some here =>
            match folder.files.find? fun file => file.1 = here with
            | some file => if rest.isEmpty then .ok (.file file.2) else .error .notADirectory
            | none =>
                if folder.files.any fun file => here.isPrefixOf file.1 then
                  folder.follow (some here) rest
                else .error .notFound

/-- What stands at a path. A path that ends with a slash or a dot leads to a folder. -/
def entry (folder : Folder) (path : String) : Except ReadFault Entry :=
  if path.contains '\x00' then .error .nullInPath
  else if path = "" then .error (.system .notFound)
  else if maxPath < path.utf8ByteSize then .error (.system .nameTooLong)
  else
    match folder.follow (if path.startsWith "/" then none else some []) (steps path) with
    | .error fault => .error (.system fault)
    | .ok (.file content) =>
        if path.endsWith "/" || path.endsWith "/." then .error (.system .notADirectory)
        else .ok (.file content)
    | .ok .folder => .ok .folder

def source (folder : Folder) (path : String) : Source :=
  match folder.entry path with
  | .error fault => { exists? := false, content := .error fault }
  | .ok .folder => { exists? := true, content := .error (.system .isADirectory) }
  | .ok (.file content) => { exists? := true, content := .ok content }

end Folder

end RadioGateway.Configuration
