import Accelerator.Failure
import Accelerator.Path
import Accelerator.Table

/-! A tree of directories and files. A path is walked step by step, and each step needs
what stands before it to be a directory. -/

namespace Accelerator

inductive FileNode where
  | directory
  | file (content : ByteArray)

/-- Names from the top of the tree down. Two paths that lead to one place have one. -/
abbrev Location := List String

structure Files where
  nodes : Table Location FileNode := []

namespace Files

def node? (f : Files) (l : Location) : Option FileNode :=
  if l = [] then some .directory else f.nodes.get? l

def walk (f : Files) : Location → List String → Except FileError Location
  | l, [] => .ok l
  | l, s :: ss =>
    match f.node? l with
    | none => .error .notFound
    | some (.file _) => .error .notDirectory
    | some .directory =>
      if s = "/" then walk f [] ss
      else if s = "." then walk f l ss
      else if s = ".." then walk f l.dropLast ss
      else if s.utf8ByteSize > 255 then .error .nameTooLong
      else walk f (l ++ [s]) ss

/-- How many bytes a path may have, however short the way is that it describes. -/
def maxPathSize : Nat := 4095

def locate (f : Files) (path : String) : Except FileError Location :=
  if path.toList.contains (Char.ofNat 0) then .error .nulInName
  else if path.utf8ByteSize > maxPathSize then .error .nameTooLong
  else f.walk [] (Path.parts path)

def read? (f : Files) (path : String) : Option ByteArray :=
  if Path.endsInSeparator path then none
  else
    match f.locate path with
    | .error _ => none
    | .ok l =>
      match f.node? l with
      | some (.file content) => some content
      | _ => none

/-- Opens what is at a place for writing, and makes an empty file if nothing is there. -/
def openAt (f : Files) (l : Location) : Except FileError Files :=
  match f.node? l with
  | some .directory => .error .isDirectory
  | some (.file _) => .ok f
  | none => .ok { f with nodes := f.nodes.put l (.file ByteArray.empty) }

def openFile (f : Files) (path : String) : Except FileError (Location × Files) := do
  let l ← f.locate path
  return (l, ← f.openAt l)

def write (f : Files) (path : String) (content : ByteArray) : Except FileError Files := do
  let (l, f) ← f.openFile path
  return { f with nodes := f.nodes.put l (.file content) }

def makeDirectory (f : Files) (path : String) : Files :=
  let steps := Path.parts path
  (List.range (steps.length + 1)).foldl (fun f n =>
    match f.walk [] (steps.take n) with
    | .ok l =>
      match f.node? l with
      | none => { f with nodes := f.nodes.put l .directory }
      | some _ => f
    | .error _ => f) f

end Files

end Accelerator
