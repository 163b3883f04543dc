import PolicyGate.Text.Split

/-!
# Paths

A path is a start and the steps from there. Empty steps and single dots lead nowhere and are left out
of the written form; a step up stays, because what it undoes depends on the files.
-/

namespace PolicyGate

/-- A path to a file or a folder. -/
structure Path where
  /-- The slashes that an absolute path starts with. -/
  root : String := ""
  steps : List String
deriving DecidableEq, Repr

namespace Path

/-- The path that a text names. Exactly two slashes in front are kept, more count as one. -/
def ofText (s : String) : Path where
  root := match (s.toList.takeWhile (· = '/')).length with
    | 0 => ""
    | 2 => "//"
    | _ => "/"
  steps := (Text.splitAt '/' s).filter fun step => step ≠ "" ∧ step ≠ "."

/-- The written form of a path. -/
def text (p : Path) : String :=
  if p.root.isEmpty && p.steps.isEmpty then "." else p.root ++ String.intercalate "/" p.steps

/-- The path of something in the folder that the path leads to. -/
def child (p : Path) (name : String) : Path := { p with steps := p.steps ++ [name] }

end Path

/-- The ending of a name from its last point on, unless the point stands at an end of the name. -/
def suffix (name : String) : String :=
  let cs := name.toList
  let ending := (cs.reverse.takeWhile (· ≠ '.')).reverse
  if ending.isEmpty || cs.length ≤ ending.length + 1 then "" else String.ofList ('.' :: ending)

end PolicyGate
