/-! Where the value of a label comes from. A spec is read in one of three ways: `Object.` and a path
on the related object, a key with one digit in brackets for a group of its match, or a path on the
event. `render` writes a source back as its spec. -/

namespace EventTally

inductive LabelSource where
  /-- A path on the event itself. -/
  | direct (path : String)
  /-- A path on the object that the event is about. -/
  | related (path : String)
  /-- A group of the match that the rule made for a key. -/
  | submatch (key : String) (index : Nat)
  deriving DecidableEq

namespace LabelSource

def relatedStart : List Char := "Object.".toList

def classifyChars (cs : List Char) : LabelSource :=
  if relatedStart.isPrefixOf cs then related (String.ofList (cs.drop relatedStart.length))
  else
    match cs.reverse with
    | ']' :: d :: '[' :: key =>
      if d.isDigit then submatch (String.ofList key.reverse) (d.toNat - 48)
      else direct (String.ofList cs)
    | _ => direct (String.ofList cs)

def classify (spec : String) : LabelSource := classifyChars spec.toList

def render : LabelSource → String
  | direct path => path
  | related path => String.ofList relatedStart ++ path
  | submatch key index => key ++ "[" ++ toString index ++ "]"

end LabelSource
end EventTally
