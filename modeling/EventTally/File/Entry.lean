import EventTally.Dialogue
import EventTally.Text.Utf8

/-! What is found at a path, and why nothing can be read there. Programs that read files are
dialogues whose questions are paths. -/

namespace EventTally

abbrev Bytes := List UInt8

namespace File

inductive Fault where
  | notFound
  | notDirectory
  | isDirectory
  | nameTooLong
  | nulInName
  | denied
  | notText
  /-- No path of a list leads to a file. -/
  | noneOfList
  | other (reason : String)
  deriving DecidableEq

def Fault.message : Fault → String
  | notFound => "No such file or directory (os error 2)"
  | notDirectory => "Not a directory (os error 20)"
  | isDirectory => "Is a directory (os error 21)"
  | nameTooLong => "File name too long (os error 36)"
  | nulInName => "file name contained an unexpected NUL byte"
  | denied => "Permission denied (os error 13)"
  | notText => "stream did not contain valid UTF-8"
  | noneOfList => "entity not found"
  | other reason => reason

inductive Entry where
  /-- A file, with its content unless that cannot be read. -/
  | file (content : Except Fault Bytes)
  /-- No file. -/
  | absent (fault : Fault)

namespace Entry

def isFile : Entry → Bool
  | file _ => true
  | absent _ => false

def content : Entry → Except Fault Bytes
  | file content => content
  | absent fault => .error fault

def text (e : Entry) : Except Fault String := do
  match Utf8.decode? (← e.content) with
  | some text => .ok text
  | none => .error .notText

end Entry
end File

/-- All that stands at any path. -/
abbrev Files := String → File.Entry

/-- Computations that look at paths. -/
abbrev FileLookup := Dialogue String File.Entry

namespace FileLookup

def bytes (path : String) : FileLookup (Except File.Fault Bytes) := do
  return (← Dialogue.question path).content

def text (path : String) : FileLookup (Except File.Fault String) := do
  return (← Dialogue.question path).text

/-- The first of the paths that leads to a file. -/
def firstFile : List String → FileLookup (Option String)
  | [] => return none
  | path :: rest => do
    if (← Dialogue.question path).isFile then return some path else firstFile rest

end FileLookup
end EventTally
