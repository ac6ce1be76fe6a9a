/-
This file proves which trees `mylsr.c` lists without leaving the arrays of its paths.
-/

import LinuxSystemProgramming.Proof.Mylsr

namespace Mylsr

open Directory CString

/-- The bytes of the names of a place, with a slash in front of each of them. -/
def weight : Place → Nat
  | [] => 0
  | name :: rest => 1 + name.length + weight rest

theorem weight_append (place : Place) (name : Name) :
    weight (place ++ [name]) = weight place + (name.length + 1) := by
  induction place with
  | nil => simp [weight, Nat.add_comm]
  | cons next rest inductionHypothesis =>
      rw [List.cons_append, weight, weight, inductionHypothesis]
      omega

theorem length_pathOf (place : Place) : (pathOf place).length = weight place + 1 := by
  induction place using List.reverseRecOn with
  | nil => rfl
  | append_singleton place name inductionHypothesis =>
      rw [pathOf_append, List.length_append, List.length_cons, inductionHypothesis, weight_append]
      omega

/-- `fullpath` is built if there is room for the slash, the name and the zero. -/
theorem fullpath_some {size : Nat} (path : Content size) (name : Name)
    (fits : (path.bytes ++ 47 :: name).length < size) :
    ((path.append [47]).bind fun fullpath => fullpath.append name) =
      some ⟨path.bytes ++ 47 :: name, fits⟩ := by
  have slash : (path.bytes ++ [47]).length < size := by
    simp only [List.length_append, List.length_cons, List.length_nil] at fits ⊢
    omega
  have whole : (path.bytes ++ [47] ++ name).length < size := by
    rwa [List.append_assoc]
  rw [Content.append, dif_pos slash, Option.bind_some, Content.append, dif_pos whole]
  simp

theorem fullpath_none {size : Nat} (path : Content size) (name : Name)
    (long : ¬ (path.bytes ++ 47 :: name).length < size) :
    ((path.append [47]).bind fun fullpath => fullpath.append name) = none := by
  rw [Option.bind_eq_none_iff]
  intro fullpath slash
  rw [Content.append, Option.dite_none_right_eq_some] at slash
  obtain ⟨fits, equal⟩ := slash
  cases equal
  have whole : ¬ (path.bytes ++ [47] ++ name).length < size := by
    rwa [List.append_assoc]
  rw [Content.append, dif_neg whole]

/-- The paths of all names of a walk have room in an array. -/
def Within (above : Place) (walk : List (Place × List Name)) : Prop :=
  ∀ visit ∈ walk, ∀ name ∈ visit.2, weight (above ++ visit.1 ++ [name]) ≤ 254

/-- The second loop of `Doit` builds the paths of its entries and those below them. -/
def WithinAll (place : Place) (entries : List (Name × Option Node)) : Prop :=
  (∀ name ∈ shown entries, weight (place ++ [name]) ≤ 254) ∧ Within place (walkAll entries)

theorem within_dir (place : Place) (stream : List (Name × Option Node)) :
    Within place (Node.dir stream).walk ↔ WithinAll place stream := by
  simp [Within, WithinAll, Node.walk]

theorem within_below (above : Place) (name : Name) (walk : List (Place × List Name)) :
    Within above (walk.map fun visit => (name :: visit.1, visit.2)) ↔
      Within (above ++ [name]) walk := by
  simp only [Within, List.forall_mem_map, List.append_assoc, List.cons_append, List.nil_append]

theorem within_append (above : Place) (first second : List (Place × List Name)) :
    Within above (first ++ second) ↔ Within above first ∧ Within above second := by
  simp only [Within, List.mem_append, or_imp, forall_and]

theorem withinAll_skipped (place : Place) {name : Name} (hidden : skipped name)
    (rest : List (Name × Option Node)) :
    WithinAll place ((name, none) :: rest) ↔ WithinAll place rest := by
  have dots : ¬ (name ≠ dot ∧ name ≠ dotDot) := by
    have either : name = dot ∨ name = dotDot := by simpa [skipped] using hidden
    tauto
  simp [WithinAll, shown, walkAll, dots]

theorem withinAll_entry (place : Place) {name : Name} (proper : Proper name) (node : Node)
    (rest : List (Name × Option Node)) :
    WithinAll place ((name, some node) :: rest) ↔
      weight (place ++ [name]) ≤ 254 ∧ Within (place ++ [name]) node.walk ∧
        WithinAll place rest := by
  have listed : shown ((name, some node) :: rest) = name :: shown rest := by
    simp [shown, proper.notDot, proper.notDotDot]
  rw [WithinAll, walkAll, within_append, within_below, listed, List.forall_mem_cons, WithinAll]
  tauto

/-- A run returns with its lines if the paths have room, and otherwise it leaves an array. -/
inductive Ends (room : Prop) (printed : List Line) : Option Outcome → Prop
  | returned (fits : room) : Ends room printed (some (.returned printed))
  | overflow (path : List UInt8) (long : ¬ room) : Ends room printed (some (.overflow path))

/-- From some fuel on, `Doit` ends at a directory as its paths have room. -/
def WalksWithin (root : Node) (follow : Place → List UInt8 → Option Place) (place : Place)
    (node : Node) : Prop :=
  ∃ bound, ∀ fuel ≥ bound, ∀ path : Content maxPath, path.bytes = pathOf place → ∀ printed,
    Ends (Within place node.walk) (printed ++ walked place node.walk)
      (doitWithin root follow fuel path printed)

section

variable {root : Node} (wellFormed : root.WellFormed)
  (follow : Place → List UInt8 → Option Place)

include wellFormed

omit wellFormed in
/-- An entry leaves the array if its path needs more bytes. -/
theorem visitWithin_long {place : Place} {name : Name} {path : Content maxPath} (kept : ¬ skipped name)
    (same : path.bytes = pathOf place) (long : ¬ weight (place ++ [name]) ≤ 254)
    (doit : Content maxPath → List Line → Option Outcome) (rest : List Name)
    (printed : List Line) :
    visitWithin root follow doit path (name :: rest) printed =
      some (.overflow (path.bytes ++ 47 :: name)) := by
  have length := length_pathOf (place ++ [name])
  rw [pathOf_append, ← same] at length
  have past : ¬ (path.bytes ++ 47 :: name).length < maxPath := by
    rw [length, maxPath]
    omega
  rw [visitWithin, if_neg kept]
  simp only [fullpath_none path name past]

/-- An entry whose path has room is handed to `Doit` if it is a directory. -/
theorem visitWithin_short {place : Place} {name : Name} {node : Node} {path : Content maxPath}
    (kept : ¬ skipped name) (found : root.at (place ++ [name]) = some node)
    (same : path.bytes = pathOf place) (room : weight (place ++ [name]) ≤ 254) :
    ∃ fullpath : Content maxPath, fullpath.bytes = pathOf (place ++ [name]) ∧
      ∀ doit rest printed,
        (node.isDir = false → visitWithin root follow doit path (name :: rest) printed =
          visitWithin root follow doit path rest printed) ∧
        (node.isDir = true →
          (∀ lines, doit fullpath printed = some (.returned lines) →
            visitWithin root follow doit path (name :: rest) printed =
              visitWithin root follow doit path rest lines) ∧
          ∀ long, doit fullpath printed = some (.overflow long) →
            visitWithin root follow doit path (name :: rest) printed = some (.overflow long)) := by
  have length := length_pathOf (place ++ [name])
  have statbuf := lstat_pathOf wellFormed follow place found
  rw [pathOf_append, ← same] at length
  rw [← same] at statbuf
  have short : (path.bytes ++ 47 :: name).length < maxPath := by
    rw [length, maxPath]
    omega
  have fullpath : (⟨_, short⟩ : Content maxPath).bytes = pathOf (place ++ [name]) := by
    rw [pathOf_append, ← same]
  refine ⟨_, fullpath, fun doit rest printed => ?_⟩
  rw [visitWithin, if_neg kept]
  simp only [fullpath_some path name short, statbuf]
  refine ⟨fun file => ?_, fun directory => ⟨fun lines returned => ?_, fun long overflow => ?_⟩⟩
  · rw [if_neg (by rw [file]; nofun)]
  · rw [if_pos directory, returned]
  · rw [if_pos directory, overflow]

/-- The second loop ends as the paths of the entries have room once the calls for the directories do. -/
theorem visitWithin_ends (place : Place) (entries : List (Name × Option Node))
    (dots : ∀ name, (name, none) ∈ entries → name = dot ∨ name = dotDot)
    (found : ∀ name node, (name, some node) ∈ entries →
      Proper name ∧ root.at (place ++ [name]) = some node)
    (below : ∀ name node, (name, some node) ∈ entries → node.isDir →
      WalksWithin root follow (place ++ [name]) node) :
    ∃ bound, ∀ fuel ≥ bound, ∀ path : Content maxPath, path.bytes = pathOf place → ∀ printed,
      Ends (WithinAll place entries) (printed ++ walked place (walkAll entries))
        (visitWithin root follow (doitWithin root follow fuel) path (entries.map Prod.fst)
          printed) := by
  induction entries with
  | nil =>
      refine ⟨0, fun fuel _ path _ printed => ?_⟩
      have room : WithinAll place [] := by simp [WithinAll, Within, shown, walkAll]
      have ends : Ends (WithinAll place []) printed (some (.returned printed)) := .returned room
      simpa [visitWithin, walkAll, walked] using ends
  | cons entry rest inductionHypothesis =>
      obtain ⟨bound, later⟩ := inductionHypothesis (fun name member => dots name (.tail _ member))
        (fun name node member => found name node (.tail _ member))
        (fun name node member => below name node (.tail _ member))
      obtain ⟨name, none | node⟩ := entry
      · have hidden : skipped name = true := by
          simpa [skipped] using dots name (.head _)
        refine ⟨bound, fun fuel enough path same printed => ?_⟩
        have onward := later fuel enough path same printed
        rw [← withinAll_skipped place hidden rest] at onward
        simpa [visitWithin, hidden, walkAll] using onward
      · obtain ⟨proper, here⟩ := found name node (.head _)
        have kept : ¬ skipped name := by
          simp [skipped, proper.notDot, proper.notDotDot]
        have split := withinAll_entry place proper node rest
        rw [walkAll, walked_append, walked_below, List.map_cons]
        by_cases room : weight (place ++ [name]) ≤ 254
        · cases directory : node.isDir with
          | false =>
              refine ⟨bound, fun fuel enough path same printed => ?_⟩
              obtain ⟨fullpath, _, visits⟩ := visitWithin_short wellFormed follow kept here same room
              have onward := later fuel enough path same printed
              rw [walk_of_not_isDir directory] at split ⊢
              have rest : WithinAll place ((name, some node) :: rest) ↔ WithinAll place rest := by
                rw [split]
                simp [Within, room]
              rw [← rest] at onward
              rw [(visits _ _ _).1 directory]
              exact onward
          | true =>
              obtain ⟨depth, walks⟩ := below name node (.head _) directory
              refine ⟨max depth bound, fun fuel enough path same printed => ?_⟩
              obtain ⟨fullpath, bytes, visits⟩ :=
                visitWithin_short wellFormed follow kept here same room
              have inside := walks fuel (by omega) fullpath bytes printed
              have onward := later fuel (by omega) path same
                (printed ++ walked (place ++ [name]) node.walk)
              obtain ⟨returns, overflows⟩ := (visits (doitWithin root follow fuel)
                (rest.map Prod.fst) printed).2 directory
              generalize ended : doitWithin root follow fuel fullpath printed = outcome at inside
              cases inside with
              | returned fits =>
                  have same : WithinAll place ((name, some node) :: rest) ↔
                      WithinAll place rest := by
                    rw [split]
                    tauto
                  rw [← same, List.append_assoc] at onward
                  rw [returns _ ended]
                  exact onward
              | overflow path long =>
                  rw [overflows _ ended]
                  exact .overflow path fun all => long (split.mp all).2.1
        · refine ⟨0, fun fuel _ path same printed => ?_⟩
          rw [visitWithin_long follow kept same room]
          exact .overflow _ fun all => room (split.mp all).1

/-- `Doit` ends at every real directory as the paths below it have room, by induction on the tree. -/
theorem doitWithin_ends {node : Node} (tree : node.WellFormed) (place : Place)
    (found : root.at place = some node) (directory : node.isDir) :
    WalksWithin root follow place node := by
  induction tree generalizing place with
  | file => cases directory
  | link target => cases directory
  | dir stream distinct dots names nodes inductionHypothesis =>
      have entries : ∀ name node, (name, some node) ∈ stream →
          Proper name ∧ root.at (place ++ [name]) = some node := by
        intro name node member
        exact ⟨names name node member, Node.at_entry found distinct member⟩
      have calls : ∀ name node, (name, some node) ∈ stream → node.isDir →
          WalksWithin root follow (place ++ [name]) node := by
        intro name node member
        exact inductionHypothesis name node member _ (entries name node member).2
      obtain ⟨bound, second⟩ := visitWithin_ends wellFormed follow place stream dots entries calls
      refine ⟨bound + 1, fun fuel enough path same printed => ?_⟩
      obtain ⟨fuel, rfl⟩ := Nat.exists_eq_add_of_le' (show 1 ≤ fuel by omega)
      have first := printNames_eq place stream (printed ++ [.opened path.bytes place])
      have onward := second fuel (by omega) path same
        (printed ++ [.opened path.bytes place] ++ (shown stream).map (Line.entry place))
      have opened := opendir_pathOf wellFormed follow place found
      rw [← same] at opened
      rw [doitWithin, opened, within_dir]
      change Ends _ _ (visitWithin root follow (doitWithin root follow fuel) path
        (stream.map Prod.fst) (printNames _ (printed ++ [.opened path.bytes place])).2)
      rw [first]
      simpa [Node.walk, walked, visited, same] using onward

end

/-- `mylsr` stays in its arrays if and only if for every entry the names on the way to it, with a slash each, have at most 254 bytes, and then it prints its listing. -/
theorem mainWithin_iff (stream : List (Name × Option Node))
    (follow : Place → List UInt8 → Option Place) (wellFormed : (Node.dir stream).WellFormed) :
    ∃ printed bound, ∀ fuel ≥ bound, main (.dir stream) follow fuel = some (.ok printed) ∧
      ((∀ path, mainWithin (.dir stream) follow fuel ≠ some (.overflow path)) ↔
        ∀ place below name, (Node.dir stream).at place = some (.dir below) → name ∈ shown below →
          weight (place ++ [name]) ≤ 254) ∧
      ((∀ path, mainWithin (.dir stream) follow fuel ≠ some (.overflow path)) ↔
        mainWithin (.dir stream) follow fuel = some (.returned printed)) := by
  obtain ⟨depth, walks⟩ := doit_walks wellFormed follow wellFormed [] rfl rfl
  obtain ⟨bound, ends⟩ := doitWithin_ends wellFormed follow wellFormed [] rfl rfl
  refine ⟨walked [] (Node.dir stream).walk, max depth bound, fun fuel enough => ?_⟩
  have room : Within [] (Node.dir stream).walk ↔
      ∀ place below name, (Node.dir stream).at place = some (.dir below) → name ∈ shown below →
        weight (place ++ [name]) ≤ 254 := by
    constructor
    · intro within place below name found listed
      exact within (place, shown below) ((mem_walk wellFormed _ _).mpr ⟨below, found, rfl⟩)
        name listed
    · rintro all ⟨place, names⟩ member name listed
      obtain ⟨below, found, rfl⟩ := (mem_walk wellFormed place names).mp member
      exact all place below name found listed
  have outcome := ends fuel (by omega) ⟨dot, by decide⟩ rfl []
  refine ⟨walks fuel (by omega) [], ?_⟩
  rw [← room, mainWithin]
  generalize doitWithin (.dir stream) follow fuel ⟨dot, by decide⟩ [] = result at outcome
  cases outcome with
  | returned fits => simp [fits]
  | overflow path long => simp [long]

theorem mainWithin_iff_looped :
    ∃ bound, ∀ fuel ≥ bound, ∀ path,
      mainWithin (.dir looped) (fun place _ => some place.dropLast) fuel ≠ some (.overflow path) := by
  obtain ⟨printed, bound, ends⟩ :=
    mainWithin_iff looped (fun place _ => some place.dropLast) wellFormed_looped
  refine ⟨bound, fun fuel enough => (ends fuel enough).2.1.mpr ?_⟩
  intro place below name found listed
  have visit := (mem_walk wellFormed_looped place (shown below)).mpr ⟨below, found, rfl⟩
  have short : ∀ visit ∈ (Node.dir looped).walk, ∀ name ∈ visit.2,
      weight (visit.1 ++ [name]) ≤ 254 := by decide
  exact short _ visit name listed

theorem wellFormed_file {name : Name} (proper : Proper name) :
    (Node.dir [(name, some .file)]).WellFormed := by
  refine .dir _ (List.nodup_singleton _) ?_ ?_ ?_
  · intro other member
    simp at member
  · intro other node member
    obtain ⟨rfl, rfl⟩ : other = name ∧ node = .file := by simpa using member
    exact proper
  · intro other node member
    obtain ⟨rfl, rfl⟩ : other = name ∧ node = .file := by simpa using member
    exact .file

/-- A name can have 255 bytes. -/
def longest : Name := List.replicate 255 97

theorem proper_longest : Proper longest := by
  constructor
  all_goals decide +kernel

/-- In a directory with such a name the path of the entry needs 258 bytes. -/
theorem mainWithin_longest :
    (Node.dir [(longest, some .file)]).WellFormed ∧ longest.length = 255 ∧
      mainWithin (.dir [(longest, some .file)]) (fun place _ => some place) 1 =
        some (.overflow (dot ++ 47 :: longest)) ∧
      (dot ++ 47 :: longest ++ [0]).length = 258 := by
  refine ⟨wellFormed_file proper_longest, ?_⟩
  decide +kernel

end Mylsr
