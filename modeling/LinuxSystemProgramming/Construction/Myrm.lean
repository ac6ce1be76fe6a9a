/-
This file models the program `myrm`, which removes files and directories.
-/

import LinuxSystemProgramming.Library.Directory.Remove

namespace Myrm
open Directory

/-- The loop removes the names in its order, where a link leads anywhere in the tree that is left, and `.error` is `exit(1)`. -/
def loop (follow : Node → Place → List UInt8 → Option Place) :
    List (List UInt8) → Node → Except Node Node
  | [], root => .ok root
  | path :: rest, root =>
      match remove root (follow root) path with
      | none => .error root
      | some later => loop follow rest later

/-- `main` removes its arguments from the last one to the first one. -/
def main (follow : Node → Place → List UInt8 → Option Place) (argv : List (List UInt8))
    (root : Node) : Except Node Node :=
  if argv = [] then .error root else loop follow argv.reverse root

end Myrm
