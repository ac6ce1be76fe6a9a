/-
This file models the recursive listing of directories of `mylsr.c`.
-/

import LinuxSystemProgramming.Library.Directory
import LinuxSystemProgramming.Library.CString

namespace Mylsr

open Directory

/-- A directory stream gives the names after its position, and `rest` begins there. -/
structure Dir where
  place : Place
  names : List Name
  rest : List Name

def rewinddir (dp : Dir) : Dir := { dp with rest := dp.names }

/-- A printed line belongs to a directory: its path is printed once it is open, and its names after that. -/
inductive Line where
  | opened (path : List UInt8) (place : Place)
  | entry (place : Place) (name : Name)
deriving DecidableEq

/-- These are the bytes of the line. -/
def Line.text : Line → List UInt8
  | .opened path _ => path
  | .entry _ name => name

/-- Both loops of `Doit` pass over these names. -/
def skipped (name : Name) : Bool := name = dot ∨ name = dotDot

/-- The first loop of `Doit` reads the stream to its end and prints the names. -/
def printNames (dp : Dir) (printed : List Line) : Dir × List Line :=
  ({ dp with rest := [] },
    dp.rest.foldl
      (fun printed name => if skipped name then printed else printed ++ [.entry dp.place name])
      printed)

/-- The second loop of `Doit` calls it for the entries that `lstat` tells to be directories; `.error` is `exit(1)`. -/
def visit (root : Node) (follow : Place → List UInt8 → Option Place)
    (doit : List UInt8 → List Line → Option (Except (List Line) (List Line)))
    (path : List UInt8) : List Name → List Line → Option (Except (List Line) (List Line))
  | [], printed => some (.ok printed)
  | name :: rest, printed =>
      if skipped name then visit root follow doit path rest printed
      else
        let fullpath := path
        let fullpath := fullpath ++ [47]
        let fullpath := fullpath ++ name
        match lstat root follow fullpath with
        | none => some (.error printed)
        | some statbuf =>
            if statbuf.isDir then
              match doit fullpath printed with
              | some (.ok printed) => visit root follow doit path rest printed
              | other => other
            else visit root follow doit path rest printed

/-- `Doit` has no result if it is called deeper than the fuel. -/
def doit (root : Node) (follow : Place → List UInt8 → Option Place) :
    Nat → List UInt8 → List Line → Option (Except (List Line) (List Line))
  | 0, _, _ => none
  | fuel + 1, path, printed =>
      match opendir root follow path with
      | none => some (.error printed)
      | some (place, stream) =>
          let dp : Dir := ⟨place, stream.map Prod.fst, stream.map Prod.fst⟩
          let printed := printed ++ [.opened path place]
          let (dp, printed) := printNames dp printed
          let dp := rewinddir dp
          visit root follow (doit root follow fuel) path dp.rest printed

def main (root : Node) (follow : Place → List UInt8 → Option Place) (fuel : Nat) :
    Option (Except (List Line) (List Line)) :=
  doit root follow fuel dot []

/-- `MAX_PATH`. -/
def maxPath : Nat := 256

/-- A run in which every `fullpath` is an array either leaves the array, or it exits, or it returns. -/
inductive Outcome where
  | overflow (path : List UInt8)
  | exit (printed : List Line)
  | returned (printed : List Line)
deriving DecidableEq

/-- This is the second loop of `Doit`, where `path` and `fullpath` are in arrays of `MAX_PATH` bytes. -/
def visitWithin (root : Node) (follow : Place → List UInt8 → Option Place)
    (doit : CString.Content maxPath → List Line → Option Outcome)
    (path : CString.Content maxPath) : List Name → List Line → Option Outcome
  | [], printed => some (.returned printed)
  | name :: rest, printed =>
      if skipped name then visitWithin root follow doit path rest printed
      else
        let fullpath := path
        match (fullpath.append [47]).bind fun fullpath => fullpath.append name with
        | none => some (.overflow (path.bytes ++ 47 :: name))
        | some fullpath =>
            match lstat root follow fullpath.bytes with
            | none => some (.exit printed)
            | some statbuf =>
                if statbuf.isDir then
                  match doit fullpath printed with
                  | some (.returned printed) => visitWithin root follow doit path rest printed
                  | other => other
                else visitWithin root follow doit path rest printed

/-- This is `Doit`, where the paths are in arrays. -/
def doitWithin (root : Node) (follow : Place → List UInt8 → Option Place) :
    Nat → CString.Content maxPath → List Line → Option Outcome
  | 0, _, _ => none
  | fuel + 1, path, printed =>
      match opendir root follow path.bytes with
      | none => some (.exit printed)
      | some (place, stream) =>
          let dp : Dir := ⟨place, stream.map Prod.fst, stream.map Prod.fst⟩
          let printed := printed ++ [.opened path.bytes place]
          let (dp, printed) := printNames dp printed
          let dp := rewinddir dp
          visitWithin root follow (doitWithin root follow fuel) path dp.rest printed

def mainWithin (root : Node) (follow : Place → List UInt8 → Option Place) (fuel : Nat) :
    Option Outcome :=
  doitWithin root follow fuel ⟨dot, by decide⟩ []

mutual

/-- A directory is listed by its path, its names and the listings of its directories. -/
def listing (path : List UInt8) : Node → List (List UInt8)
  | .dir stream => path :: (shown stream ++ listingAll path stream)
  | _ => []

/-- The entries are listed in their order, where only directories have a listing. -/
def listingAll (path : List UInt8) : List (Name × Option Node) → List (List UInt8)
  | [] => []
  | (name, some node) :: rest => listing (path ++ 47 :: name) node ++ listingAll path rest
  | (_, none) :: rest => listingAll path rest

end

end Mylsr
