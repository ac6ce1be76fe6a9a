import Mathlib.Data.List.Nodup
import Mathlib.Data.List.Induction

namespace Directory

/-- A name of an entry is a string. -/
abbrev Name := List UInt8

/-- A place in the tree is given by the names on the way from its root. -/
abbrev Place := List Name

/-- These bytes are `"."`. -/
def dot : Name := [46]

/-- These bytes are `".."`. -/
def dotDot : Name := [46, 46]

/-- A directory has its entries in the order of `readdir`, where `.` and `..` have no node of their own. -/
inductive Node where
  | file
  | link (target : List UInt8)
  | dir (stream : List (Name × Option Node))

/-- `S_ISDIR`. -/
def Node.isDir : Node → Bool
  | .dir _ => true
  | _ => false

/-- The node behind a name of a directory. -/
def child (stream : List (Name × Option Node)) (name : Name) : Option Node :=
  (stream.find? fun entry => entry.1 = name).bind Prod.snd

/-- The node at a place, which is reached through directories only. -/
def Node.at : Node → Place → Option Node
  | node, [] => some node
  | .dir stream, name :: rest => (child stream name).bind fun next => next.at rest
  | _, _ :: _ => none

/-- The components of a path are separated by slashes. -/
def components (path : List UInt8) : List Name := (path.splitOn 47).filter (· ≠ [])

/-- A component leads from a directory to an entry, and a link leads anywhere unless it is kept. -/
def step (root : Node) (follow : Place → List UInt8 → Option Place) (keep : Bool) (place : Place)
    (name : Name) : Option Place :=
  match root.at place with
  | some (.dir stream) =>
      if name = dot then some place
      else if name = dotDot then if place = [] then none else some place.dropLast
      else
        match child stream name with
        | none => none
        | some (.link target) => if keep then some (place ++ [name]) else follow place target
        | some _ => some (place ++ [name])
  | _ => none

/-- A path is resolved by its components, and only a link at its end may be kept. -/
def resolve (root : Node) (follow : Place → List UInt8 → Option Place) (keep : Bool) :
    Place → List Name → Option Place
  | place, [] => some place
  | place, name :: rest =>
      (step root follow (keep && rest.isEmpty) place name).bind fun next =>
        resolve root follow keep next rest

/-- `lstat` does not follow a link at the end of the path. -/
def lstat (root : Node) (follow : Place → List UInt8 → Option Place) (path : List UInt8) :
    Option Node :=
  (resolve root follow true [] (components path)).bind root.at

/-- `opendir` follows all links and opens directories only. -/
def opendir (root : Node) (follow : Place → List UInt8 → Option Place) (path : List UInt8) :
    Option (Place × List (Name × Option Node)) :=
  (resolve root follow false [] (components path)).bind fun place =>
    match root.at place with
    | some (.dir stream) => some (place, stream)
    | _ => none

/-- A name of a node is a string without slashes that is neither `.` nor `..`. -/
structure Proper (name : Name) : Prop where
  nonempty : name ≠ []
  whole : 47 ∉ name
  notDot : name ≠ dot
  notDotDot : name ≠ dotDot

/-- The names of a directory are distinct, and only `.` and `..` have no node. -/
inductive Node.WellFormed : Node → Prop
  | file : Node.WellFormed .file
  | link (target : List UInt8) : Node.WellFormed (.link target)
  | dir (stream : List (Name × Option Node)) (distinct : (stream.map Prod.fst).Nodup)
      (dots : ∀ name, (name, none) ∈ stream → name = dot ∨ name = dotDot)
      (names : ∀ name node, (name, some node) ∈ stream → Proper name)
      (nodes : ∀ name node, (name, some node) ∈ stream → node.WellFormed) :
      Node.WellFormed (.dir stream)

/-- The path of a place begins at the root. -/
def pathOf (place : Place) : List UInt8 := place.foldl (fun path name => path ++ 47 :: name) dot

/-- The names that a listing shows are those other than `.` and `..`. -/
def shown (stream : List (Name × Option Node)) : List Name :=
  (stream.map Prod.fst).filter fun name => name ≠ dot ∧ name ≠ dotDot

mutual

/-- The directories from a node on come in preorder, each at its place from there. -/
def Node.walk : Node → List (Place × List Name)
  | .dir stream => ([], shown stream) :: walkAll stream
  | _ => []

/-- The directories behind entries come in the order of the entries. -/
def walkAll : List (Name × Option Node) → List (Place × List Name)
  | [] => []
  | (name, some node) :: rest =>
      (node.walk.map fun visit => (name :: visit.1, visit.2)) ++ walkAll rest
  | (_, none) :: rest => walkAll rest

end

theorem pathOf_append (place : Place) (name : Name) :
    pathOf (place ++ [name]) = pathOf place ++ 47 :: name := by
  simp [pathOf]

theorem components_dot : components dot = [dot] := by decide

/-- A name at the end of a path is its last component. -/
theorem components_append (path : List UInt8) {name : Name} (proper : Proper name) :
    components (path ++ 47 :: name) = components path ++ [name] := by
  unfold components
  rw [List.splitOn_append_cons_self, List.splitOn_eq_singleton proper.whole]
  simp [proper.nonempty]

/-- A name of a directory is found at its node. -/
theorem child_eq_some {stream : List (Name × Option Node)}
    (distinct : (stream.map Prod.fst).Nodup) (name : Name) (node : Node) :
    child stream name = some node ↔ (name, some node) ∈ stream := by
  induction stream with
  | nil => simp [child]
  | cons entry rest inductionHypothesis =>
      rw [List.map_cons, List.nodup_cons] at distinct
      have others := inductionHypothesis distinct.2
      by_cases same : entry.1 = name
      · have absent : (name, some node) ∉ rest := by
          intro member
          have listed : name ∈ rest.map Prod.fst := List.mem_map.mpr ⟨_, member, rfl⟩
          exact distinct.1 (same ▸ listed)
        subst same
        obtain ⟨name, next⟩ := entry
        simpa [child, absent] using eq_comm
      · have different : (name, some node) ≠ entry := by
          intro equal
          exact same (congrArg Prod.fst equal).symm
        simp only [child, List.find?_cons, decide_eq_false same, List.mem_cons, different, false_or]
        exact others

theorem Node.at_append (root : Node) (place : Place) (name : Name) :
    root.at (place ++ [name]) = (root.at place).bind fun node => node.at [name] := by
  induction place generalizing root with
  | nil => simp [Node.at]
  | cons next rest inductionHypothesis =>
      cases root with
      | file => rfl
      | link target => rfl
      | dir stream =>
          simp only [List.cons_append, Node.at, Option.bind_assoc]
          exact congrArg _ (funext fun node => inductionHypothesis node)

theorem Node.at_dir (stream : List (Name × Option Node)) (name : Name) :
    (Node.dir stream).at [name] = child stream name := by
  simp [Node.at]

/-- An entry of a directory lies at its name below it. -/
theorem Node.at_entry {root : Node} {place : Place} {stream : List (Name × Option Node)}
    (found : root.at place = some (.dir stream)) (distinct : (stream.map Prod.fst).Nodup)
    {name : Name} {node : Node} (member : (name, some node) ∈ stream) :
    root.at (place ++ [name]) = some node := by
  rw [Node.at_append, found, Option.bind_some, Node.at_dir]
  exact (child_eq_some distinct name node).mpr member

/-- Every node of a tree is a tree. -/
theorem Node.WellFormed.at {root node : Node} (wellFormed : root.WellFormed) {place : Place}
    (found : root.at place = some node) : node.WellFormed := by
  induction place generalizing root with
  | nil =>
      rw [Node.at, Option.some_inj] at found
      exact found ▸ wellFormed
  | cons name rest inductionHypothesis =>
      cases wellFormed with
      | file => cases found
      | link target => cases found
      | dir stream distinct dots names nodes =>
          rw [Node.at, Option.bind_eq_some_iff] at found
          obtain ⟨next, entry, later⟩ := found
          rw [child_eq_some distinct] at entry
          exact inductionHypothesis (nodes name next entry) later

theorem resolve_append (root : Node) (follow : Place → List UInt8 → Option Place) (keep : Bool)
    (place : Place) (names : List Name) (name : Name) :
    resolve root follow keep place (names ++ [name]) =
      (resolve root follow false place names).bind fun next =>
        step root follow keep next name := by
  induction names generalizing place with
  | nil => simp [resolve]
  | cons next rest inductionHypothesis =>
      have more : (rest ++ [name]).isEmpty = false := by simp
      simp only [List.cons_append, resolve, more, Bool.and_false, Bool.false_and, Option.bind_assoc]
      exact congrArg _ (funext fun place => inductionHypothesis place)

/-- A real directory is reached by one step, and so is a link that is kept. -/
theorem step_child {root : Node} (follow : Place → List UInt8 → Option Place) {keep : Bool}
    {place : Place} {stream : List (Name × Option Node)} (found : root.at place = some (.dir stream))
    {name : Name} (proper : Proper name) {node : Node} (entry : child stream name = some node)
    (real : keep ∨ node.isDir) : step root follow keep place name = some (place ++ [name]) := by
  unfold step
  rw [found]
  simp only [proper.notDot, proper.notDotDot, if_false, entry]
  cases node with
  | file => rfl
  | dir stream => rfl
  | link target =>
      have kept : keep := by simpa [Node.isDir] using real
      simp [kept]

/-- What lies at an entry lies below a directory that has the entry. -/
theorem Node.at_entry_inv {root : Node} {place : Place} {name : Name} {node : Node}
    (found : root.at (place ++ [name]) = some node) :
    ∃ stream, root.at place = some (.dir stream) ∧ child stream name = some node := by
  rw [Node.at_append, Option.bind_eq_some_iff] at found
  obtain ⟨parent, above, entry⟩ := found
  cases parent with
  | file => cases entry
  | link target => cases entry
  | dir stream => exact ⟨stream, above, by rwa [Node.at_dir] at entry⟩

section

variable {root : Node} (wellFormed : root.WellFormed)
  (follow : Place → List UInt8 → Option Place)

include wellFormed

theorem proper_of_child {place : Place} {stream : List (Name × Option Node)}
    (found : root.at place = some (.dir stream)) {name : Name} {node : Node}
    (entry : child stream name = some node) : Proper name := by
  cases wellFormed.at found with
  | dir _ distinct dots names nodes =>
      exact names name node ((child_eq_some distinct name node).mp entry)

/-- The path of a real directory leads to it. -/
theorem resolve_pathOf (place : Place) {stream : List (Name × Option Node)}
    (found : root.at place = some (.dir stream)) :
    resolve root follow false [] (components (pathOf place)) = some place := by
  induction place using List.reverseRecOn generalizing stream with
  | nil =>
      rw [Node.at] at found
      change resolve root follow false [] (components dot) = some []
      rw [components_dot]
      simp [resolve, step, Node.at, Option.some_inj.mp found]
  | append_singleton place name inductionHypothesis =>
      obtain ⟨above, parent, entry⟩ := Node.at_entry_inv found
      have proper := proper_of_child wellFormed parent entry
      rw [pathOf_append, components_append _ proper, resolve_append, inductionHypothesis parent]
      exact step_child follow parent proper entry (.inr rfl)

theorem opendir_pathOf (place : Place) {stream : List (Name × Option Node)}
    (found : root.at place = some (.dir stream)) :
    opendir root follow (pathOf place) = some (place, stream) := by
  rw [opendir, resolve_pathOf wellFormed follow place found, Option.bind_some, found]

/-- The path of an entry leads to its own node, even where that is a link. -/
theorem lstat_pathOf (place : Place) {name : Name} {node : Node}
    (found : root.at (place ++ [name]) = some node) :
    lstat root follow (pathOf place ++ 47 :: name) = some node := by
  obtain ⟨stream, parent, entry⟩ := Node.at_entry_inv found
  have proper := proper_of_child wellFormed parent entry
  rw [lstat, components_append _ proper, resolve_append,
    resolve_pathOf wellFormed follow place parent, Option.bind_some,
    step_child follow parent proper entry (.inl rfl), Option.bind_some, found]

end

/-- What is below a directory is below one of its entries. -/
theorem mem_walkAll (stream : List (Name × Option Node)) (place : Place) (names : List Name) :
    (place, names) ∈ walkAll stream ↔ ∃ name node below,
      (name, some node) ∈ stream ∧ place = name :: below ∧ (below, names) ∈ node.walk := by
  induction stream with
  | nil => simp [walkAll]
  | cons entry rest inductionHypothesis =>
      obtain ⟨name, none | node⟩ := entry
      · rw [walkAll, inductionHypothesis]
        simp
      · rw [walkAll, List.mem_append, inductionHypothesis, List.mem_map]
        constructor
        · rintro (⟨visit, member, equal⟩ | ⟨other, node, below, member, rest⟩)
          · rw [Prod.mk.injEq] at equal
            exact ⟨name, node, visit.1, .head _, equal.1.symm, equal.2 ▸ member⟩
          · exact ⟨other, node, below, .tail _ member, rest⟩
        · rintro ⟨other, next, below, member, rfl, visited⟩
          cases member with
          | head => exact .inl ⟨(below, names), visited, rfl⟩
          | tail _ later => exact .inr ⟨other, next, below, later, rfl, visited⟩

/-- A walk visits exactly the real directories. -/
theorem mem_walk {node : Node} (wellFormed : node.WellFormed) (place : Place)
    (names : List Name) :
    (place, names) ∈ node.walk ↔
      ∃ stream, node.at place = some (.dir stream) ∧ names = shown stream := by
  induction place generalizing node with
  | nil =>
      cases node with
      | file => simp [Node.walk, Node.at]
      | link target => simp [Node.walk, Node.at]
      | dir stream => simp [Node.walk, Node.at, mem_walkAll]
  | cons name rest inductionHypothesis =>
      cases wellFormed with
      | file => simp [Node.walk, Node.at]
      | link target => simp [Node.walk, Node.at]
      | dir stream distinct dots proper nodes =>
          simp only [Node.walk, List.mem_cons, Prod.mk.injEq, reduceCtorEq, false_and, false_or,
            mem_walkAll, Node.at, Option.bind_eq_some_iff, child_eq_some distinct]
          constructor
          · rintro ⟨_, node, _, member, ⟨rfl, rfl⟩, visited⟩
            obtain ⟨below, found, same⟩ := (inductionHypothesis (nodes _ _ member)).mp visited
            exact ⟨below, ⟨node, member, found⟩, same⟩
          · rintro ⟨below, ⟨node, member, found⟩, same⟩
            have visited := (inductionHypothesis (nodes _ _ member)).mpr ⟨below, found, same⟩
            exact ⟨name, node, rest, member, rfl, visited⟩

theorem nodup_walkAll {stream : List (Name × Option Node)}
    (distinct : (stream.map Prod.fst).Nodup)
    (nodes : ∀ name node, (name, some node) ∈ stream → (node.walk.map Prod.fst).Nodup) :
    ((walkAll stream).map Prod.fst).Nodup := by
  induction stream with
  | nil => exact List.nodup_nil
  | cons entry rest inductionHypothesis =>
      rw [List.map_cons, List.nodup_cons] at distinct
      have others := inductionHypothesis distinct.2 fun name node member =>
        nodes name node (.tail _ member)
      obtain ⟨name, none | node⟩ := entry
      · rwa [walkAll]
      · have own := nodes name node (.head _)
        rw [walkAll, List.map_append, List.map_map, List.nodup_append]
        refine ⟨?_, others, ?_⟩
        · have below := own.map (List.cons_injective (a := name))
          rwa [List.map_map] at below
        · intro place first other second equal
          obtain ⟨visit, _, rfl⟩ := List.mem_map.mp first
          obtain ⟨⟨_, names⟩, later, rfl⟩ := List.mem_map.mp second
          obtain ⟨next, node, below, member, start, _⟩ := (mem_walkAll _ _ _).mp later
          have same : name = next := (List.cons.inj (equal.trans start)).1
          have listed : next ∈ rest.map Prod.fst := List.mem_map.mpr ⟨_, member, rfl⟩
          exact distinct.1 (same ▸ listed)

/-- A walk visits no place twice. -/
theorem nodup_walk {node : Node} (wellFormed : node.WellFormed) :
    (node.walk.map Prod.fst).Nodup := by
  induction wellFormed with
  | file => exact List.nodup_nil
  | link target => exact List.nodup_nil
  | dir stream distinct dots proper nodes inductionHypothesis =>
      rw [Node.walk, List.map_cons, List.nodup_cons]
      refine ⟨?_, nodup_walkAll distinct inductionHypothesis⟩
      intro member
      obtain ⟨⟨_, names⟩, later, start⟩ := List.mem_map.mp member
      obtain ⟨_, _, _, _, below, _⟩ := (mem_walkAll _ _ _).mp later
      cases below.symm.trans start

end Directory
