/-! Paths of files as they are written: segments with slashes between them. A path that starts with
a slash is absolute. Empty segments and dots lead nowhere and are passed over, except a dot at the
start of a relative path. -/

namespace EventTally.Path

def isAbsolute (path : String) : Bool := path.toList.head? = some '/'

/-- The path as seen from a directory: an absolute path stands for itself. -/
def join (base path : String) : String :=
  if isAbsolute path || base.isEmpty then path
  else if base.toList.getLast? = some '/' then base ++ path
  else base ++ "/" ++ path

def isIdle (segment : List Char) : Bool := segment = [] || segment = ['.']

/-- The segments before the last one that leads anywhere. -/
def before? (segments : List (List Char)) : Option (List (List Char)) :=
  match segments.reverse.dropWhile isIdle with
  | [] => none
  | _ :: rest => some (rest.dropWhile isIdle).reverse

def ofSegments (segments : List (List Char)) : String :=
  String.ofList (['/'].intercalate segments)

/-- The directory that a path lies in. -/
def parent? (path : String) : Option String :=
  match path.toList.splitOn '/' with
  | [] => none
  | first :: rest =>
    if isAbsolute path then (before? rest).map fun rest => "/" ++ ofSegments rest
    else
      match before? rest with
      | some rest => some (ofSegments (first :: rest))
      | none => if first = [] then none else some ""

/-- The paths of a list with colons between them. -/
def ofList (paths : String) : List String := (paths.toList.splitOn ':').map String.ofList

end EventTally.Path
