import Accelerator.Text.Blank

/-! File names as texts. Two of them name the same place when their parts agree. -/

namespace Accelerator

namespace Path

def named (ps : List (List Char)) : List String :=
  (ps.filter fun p => p ≠ [] ∧ p ≠ ['.']).map String.ofList

/-- The steps of a path, the first one `/` when it starts at the root. Empty steps and
single dots count only as a dot at the very beginning. -/
def parts (path : String) : List String :=
  match path.toList with
  | '/' :: cs => "/" :: named (pieces '/' cs)
  | cs =>
    match pieces '/' cs with
    | ['.'] :: ps => "." :: named ps
    | ps => named ps

/-- `name` seen from `dir`; a name that starts at the root stands for itself. -/
def join (dir name : String) : String :=
  if name.toList.head? = some '/' then name
  else if dir = "" then name
  else if dir.toList.getLast? = some '/' then dir ++ name
  else dir ++ "/" ++ name

def endsInSeparator (path : String) : Bool :=
  match path.toList.reverse with
  | '/' :: _ => true
  | '.' :: '/' :: _ => true
  | _ => false

end Path

end Accelerator
