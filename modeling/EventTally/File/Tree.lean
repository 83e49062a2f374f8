import EventTally.File.Path
import EventTally.File.Entry

/-! A tree of directories and files that is held in memory. Paths lead through its directories
segment by segment, two dots back to the directory before. -/

namespace EventTally.File

structure Tree where
  /-- Files with their content, and directories without. What leads to one of them is a directory
  too. -/
  nodes : List (List String × Option Bytes)
  /-- Where relative paths start. -/
  workDir : List String := []

namespace Tree

inductive Kind where
  | file (content : Bytes)
  | directory
  | missing

def kind (t : Tree) (place : List String) : Kind :=
  match t.nodes.lookup place with
  | some (some content) => .file content
  | some none => .directory
  | none =>
    if place.isEmpty || t.nodes.any fun n => place.isPrefixOf n.1 then .directory else .missing

/-- The longest name that a segment can have, in bytes. -/
def nameLimit : Nat := 255

/-- What the segments lead to from a place. -/
def follow (t : Tree) (place : List String) : List String → Entry
  | [] =>
    match t.kind place with
    | .file content => .file (.ok content)
    | .directory => .absent .isDirectory
    | .missing => .absent .notFound
  | segment :: rest =>
    match t.kind place with
    | .file _ => .absent .notDirectory
    | .missing => .absent .notFound
    | .directory =>
      if segment = "" || segment = "." then t.follow place rest
      else if segment = ".." then t.follow place.dropLast rest
      else if nameLimit < segment.utf8ByteSize then .absent .nameTooLong
      else t.follow (place ++ [segment]) rest

/-- The longest path, in bytes. -/
def pathLimit : Nat := 4095

def segments (path : String) : List String := (path.toList.splitOn '/').map String.ofList

def look (t : Tree) : Files := fun path =>
  if path.toList.contains (Char.ofNat 0) then .absent .nulInName
  else if path.isEmpty then .absent .notFound
  else if pathLimit < path.utf8ByteSize then .absent .nameTooLong
  else t.follow (if Path.isAbsolute path then [] else t.workDir) (segments path)

end Tree
end EventTally.File
