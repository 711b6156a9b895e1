import TextTemplate.Path
import TextTemplate.Template.Part

/-!
# Dependencies of a template

The paths of the variables that a template mentions, less the names that its own loops bind.
-/

namespace TextTemplate

namespace Part

mutual

/-- The paths of variables in order, less those whose root is bound. -/
def paths (bound : List String) : Part → List String
  | .text _ => []
  | .literal _ => []
  | .variable path =>
    match Path.rootName? path with
    | some root => if bound.contains root then [] else [path]
    | none => [path]
  | .call _ args => pathsAll bound args
  | .coalesce left right => paths bound left ++ paths bound right
  | .forEach item index collection body =>
    paths bound collection ++ paths (item :: index.toList ++ bound) body

def pathsAll (bound : List String) : List Part → List String
  | [] => []
  | part :: rest => paths bound part ++ pathsAll bound rest

end

end Part

namespace Template

/-- The paths that a template depends on, each once, in the order of first mention. -/
def variablePaths (t : Template) : List String := (Part.pathsAll [] t.parts).eraseDups

/-- The names that a template depends on. -/
def rootVariables (t : Template) : List String :=
  (t.variablePaths.filterMap Path.rootName?).eraseDups

end Template

end TextTemplate
