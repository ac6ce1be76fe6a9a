/-
This file proves that `mylsr.c` prints the preorder listing of the tree and follows no link.
-/

import LinuxSystemProgramming.Construction.Mylsr

namespace Mylsr

open Directory

/-- The place of the directory that a line belongs to. -/
def Line.place : Line → Place
  | .opened _ place => place
  | .entry place _ => place

/-- A visited directory is printed as its path and its names. -/
def visited (above : Place) (visit : Place × List Name) : List Line :=
  .opened (pathOf (above ++ visit.1)) (above ++ visit.1) ::
    visit.2.map (Line.entry (above ++ visit.1))

/-- A walk is printed one directory after the other. -/
def walked (above : Place) (walk : List (Place × List Name)) : List Line :=
  walk.flatMap (visited above)

theorem printNames_eq (place : Place) (stream : List (Name × Option Node)) (printed : List Line) :
    (printNames ⟨place, stream.map Prod.fst, stream.map Prod.fst⟩ printed).2 =
      printed ++ (shown stream).map (Line.entry place) := by
  unfold printNames shown
  dsimp only
  induction stream.map Prod.fst generalizing printed with
  | nil => simp
  | cons name rest inductionHypothesis =>
      rw [List.foldl_cons, inductionHypothesis]
      by_cases dots : name = dot ∨ name = dotDot
      · have hidden : ¬ (name ≠ dot ∧ name ≠ dotDot) := by tauto
        simp [skipped, dots, hidden]
      · have kept : name ≠ dot ∧ name ≠ dotDot := by tauto
        simp [skipped, kept]

theorem walked_below (above : Place) (name : Name) (walk : List (Place × List Name)) :
    walked above (walk.map fun visit => (name :: visit.1, visit.2)) =
      walked (above ++ [name]) walk := by
  unfold walked
  rw [List.flatMap_map]
  congr 1
  funext visit
  simp [visited]

theorem walk_of_not_isDir {node : Node} (other : node.isDir = false) : node.walk = [] := by
  cases node with
  | file => rfl
  | link target => rfl
  | dir stream => cases other

/-- From some fuel on, `Doit` succeeds at a directory and prints its walk. -/
def Walks (root : Node) (follow : Place → List UInt8 → Option Place) (place : Place)
    (node : Node) : Prop :=
  ∃ bound, ∀ fuel ≥ bound, ∀ printed,
    doit root follow fuel (pathOf place) printed =
      some (.ok (printed ++ walked place node.walk))

theorem walked_append (above : Place) (first second : List (Place × List Name)) :
    walked above (first ++ second) = walked above first ++ walked above second :=
  List.flatMap_append

section

variable {root : Node} (wellFormed : root.WellFormed)
  (follow : Place → List UInt8 → Option Place)

include wellFormed

/-- The second loop walks below the entries once the calls for the directories do. -/
theorem visit_walkAll (place : Place) (entries : List (Name × Option Node))
    (dots : ∀ name, (name, none) ∈ entries → name = dot ∨ name = dotDot)
    (found : ∀ name node, (name, some node) ∈ entries →
      Proper name ∧ root.at (place ++ [name]) = some node)
    (below : ∀ name node, (name, some node) ∈ entries → node.isDir →
      Walks root follow (place ++ [name]) node) :
    ∃ bound, ∀ fuel ≥ bound, ∀ printed,
      visit root follow (doit root follow fuel) (pathOf place) (entries.map Prod.fst) printed =
        some (.ok (printed ++ walked place (walkAll entries))) := by
  induction entries with
  | nil => exact ⟨0, fun fuel _ printed => by simp [visit, walkAll, walked]⟩
  | cons entry rest inductionHypothesis =>
      have later := inductionHypothesis (fun name member => dots name (.tail _ member))
        (fun name node member => found name node (.tail _ member))
        (fun name node member => below name node (.tail _ member))
      obtain ⟨bound, later⟩ := later
      obtain ⟨name, none | node⟩ := entry
      · have hidden : skipped name = true := by
          simpa [skipped] using dots name (.head _)
        refine ⟨bound, fun fuel enough printed => ?_⟩
        simpa [visit, hidden, walkAll] using later fuel enough printed
      · have own := found name node (.head _)
        have kept : skipped name = false := by
          simp [skipped, own.1.notDot, own.1.notDotDot]
        have statbuf := lstat_pathOf wellFormed follow place own.2
        rw [walkAll, walked_append, walked_below]
        cases directory : node.isDir with
        | false =>
            refine ⟨bound, fun fuel enough printed => ?_⟩
            rw [walk_of_not_isDir directory]
            simpa [visit, kept, statbuf, directory, walked] using later fuel enough printed
        | true =>
            obtain ⟨depth, walks⟩ := below name node (.head _) directory
            refine ⟨max depth bound, fun fuel enough printed => ?_⟩
            have inside := walks fuel (by omega) printed
            have onward := later fuel (by omega) (printed ++ walked (place ++ [name]) node.walk)
            rw [pathOf_append] at inside
            rw [← List.append_assoc, ← onward]
            simp [visit, kept, statbuf, directory, inside]

/-- `Doit` ends at every real directory with its walk, by induction on the tree. -/
theorem doit_walks {node : Node} (tree : node.WellFormed) (place : Place)
    (found : root.at place = some node) (directory : node.isDir) :
    Walks root follow place node := by
  induction tree generalizing place with
  | file => cases directory
  | link target => cases directory
  | dir stream distinct dots names nodes inductionHypothesis =>
      have entries : ∀ name node, (name, some node) ∈ stream →
          Proper name ∧ root.at (place ++ [name]) = some node := by
        intro name node member
        exact ⟨names name node member, Node.at_entry found distinct member⟩
      have calls : ∀ name node, (name, some node) ∈ stream → node.isDir →
          Walks root follow (place ++ [name]) node := by
        intro name node member
        exact inductionHypothesis name node member _ (entries name node member).2
      obtain ⟨bound, second⟩ := visit_walkAll wellFormed follow place stream dots entries calls
      refine ⟨bound + 1, fun fuel enough printed => ?_⟩
      obtain ⟨fuel, rfl⟩ := Nat.exists_eq_add_of_le' (show 1 ≤ fuel by omega)
      have first := printNames_eq place stream (printed ++ [.opened (pathOf place) place])
      have onward := second fuel (by omega)
        (printed ++ [.opened (pathOf place) place] ++ (shown stream).map (Line.entry place))
      rw [doit, opendir_pathOf wellFormed follow place found]
      change visit root follow (doit root follow fuel) (pathOf place) (stream.map Prod.fst)
        (printNames _ (printed ++ [.opened (pathOf place) place])).2 = _
      rw [first, onward]
      simp [Node.walk, walked, visited]

end

/-- The text of a walk is the listing, by induction on the tree. -/
theorem text_walked {node : Node} (tree : node.WellFormed) (place : Place) :
    (walked place node.walk).map Line.text = listing (pathOf place) node := by
  induction tree generalizing place with
  | file => rfl
  | link target => rfl
  | dir stream distinct dots names nodes inductionHypothesis =>
      have below : (walked place (walkAll stream)).map Line.text =
          listingAll (pathOf place) stream := by
        clear distinct dots names nodes
        induction stream with
        | nil => rfl
        | cons entry rest later =>
            have others := later fun name node member =>
              inductionHypothesis name node (.tail _ member)
            obtain ⟨name, none | node⟩ := entry
            · rwa [walkAll, listingAll]
            · have own := inductionHypothesis name node (.head _) (place ++ [name])
              rw [pathOf_append] at own
              rw [walkAll, listingAll, walked_append, walked_below, List.map_append, own, others]
      have names : ((shown stream).map (Line.entry place)).map Line.text = shown stream := by
        rw [List.map_map]
        exact List.map_id _
      have own : walked place (Node.dir stream).walk =
          visited place ([], shown stream) ++ walked place (walkAll stream) := rfl
      rw [own, List.map_append, below, listing]
      simp only [visited, List.append_nil, List.map_cons, Line.text, names, List.cons_append]

theorem place_of_mem_visited {above : Place} {visit : Place × List Name} {line : Line}
    (member : line ∈ visited above visit) : line.place = above ++ visit.1 := by
  rw [visited, List.mem_cons, List.mem_map] at member
  rcases member with rfl | ⟨name, _, rfl⟩
  · rfl
  · rfl

section

variable {root : Node} (wellFormed : root.WellFormed)

include wellFormed

theorem opened_mem_walked (path : List UInt8) (place : Place) :
    .opened path place ∈ walked [] root.walk ↔
      path = pathOf place ∧ ∃ stream, root.at place = some (.dir stream) := by
  simp only [walked, visited, List.mem_flatMap, List.mem_cons, Line.opened.injEq, List.mem_map,
    reduceCtorEq, and_false, exists_false, or_false, List.nil_append]
  constructor
  · rintro ⟨⟨_, names⟩, member, rfl, rfl⟩
    obtain ⟨stream, found, _⟩ := (mem_walk wellFormed place names).mp member
    exact ⟨rfl, stream, found⟩
  · rintro ⟨rfl, stream, found⟩
    have member := (mem_walk wellFormed place (shown stream)).mpr ⟨stream, found, rfl⟩
    exact ⟨_, member, rfl, rfl⟩

theorem entry_mem_walked (place : Place) (name : Name) :
    .entry place name ∈ walked [] root.walk ↔
      ∃ stream, root.at place = some (.dir stream) ∧ name ∈ shown stream := by
  simp only [walked, visited, List.mem_flatMap, List.mem_cons, List.mem_map, reduceCtorEq,
    false_or, Line.entry.injEq, List.nil_append]
  constructor
  · rintro ⟨⟨other, names⟩, member, _, listed, rfl, rfl⟩
    obtain ⟨stream, found, rfl⟩ := (mem_walk wellFormed other names).mp member
    exact ⟨stream, found, listed⟩
  · rintro ⟨stream, found, listed⟩
    have member := (mem_walk wellFormed place (shown stream)).mpr ⟨stream, found, rfl⟩
    exact ⟨_, member, name, listed, rfl, rfl⟩

/-- The lines of one directory differ as its names do, and lines of two directories differ in the place. -/
theorem nodup_walked : (walked [] root.walk).Nodup := by
  rw [walked, List.nodup_flatMap]
  constructor
  · rintro ⟨place, names⟩ member
    obtain ⟨stream, found, rfl⟩ := (mem_walk wellFormed place names).mp member
    cases wellFormed.at found with
    | dir _ distinct dots names nodes =>
        have own : (shown stream).Nodup := distinct.filter _
        rw [visited, List.nodup_cons]
        refine ⟨by simp, own.map ?_⟩
        intro first second equal
        exact (Line.entry.inj equal).2
  · have places := List.pairwise_map.mp (nodup_walk wellFormed)
    refine places.imp ?_
    intro first second different line own other
    have same := (place_of_mem_visited own).symm.trans (place_of_mem_visited other)
    exact different (List.append_cancel_left same)

end

/-- `mylsr` prints the preorder listing, opens each real directory once by its path, and prints each name once. -/
theorem main_lists (stream : List (Name × Option Node))
    (follow : Place → List UInt8 → Option Place)
    (wellFormed : (Node.dir stream).WellFormed) :
    ∃ printed bound, (∀ fuel ≥ bound, main (.dir stream) follow fuel = some (.ok printed)) ∧
      printed.map Line.text = listing dot (.dir stream) ∧
      printed.Nodup ∧
      (∀ path place, .opened path place ∈ printed ↔
        path = pathOf place ∧ ∃ below, (Node.dir stream).at place = some (.dir below)) ∧
      ∀ place name, .entry place name ∈ printed ↔
        ∃ below, (Node.dir stream).at place = some (.dir below) ∧ name ∈ shown below := by
  obtain ⟨bound, walks⟩ := doit_walks wellFormed follow wellFormed [] rfl rfl
  refine ⟨walked [] (Node.dir stream).walk, bound, ?_, text_walked wellFormed [],
    nodup_walked wellFormed, opened_mem_walked wellFormed, entry_mem_walked wellFormed⟩
  intro fuel enough
  exact walks fuel enough []

/-- This directory has a directory with a link to its parent in it. -/
def looped : List (Name × Option Node) :=
  [(dot, none), ([97], some (.dir [([98], some (.link dotDot)), (dotDot, none)])), (dotDot, none)]

theorem wellFormed_looped : (Node.dir looped).WellFormed := by
  have inner : (Node.dir [([98], some (.link dotDot)), (dotDot, none)]).WellFormed := by
    refine .dir _ (by decide) ?_ ?_ ?_
    · intro name member
      simp_all
    · intro name node member
      obtain ⟨rfl, rfl⟩ : name = [98] ∧ node = .link dotDot := by simpa using member
      exact ⟨by decide, by decide, by decide, by decide⟩
    · intro name node member
      obtain ⟨rfl, rfl⟩ : name = [98] ∧ node = .link dotDot := by simpa using member
      exact .link _
  refine .dir _ (by decide) ?_ ?_ ?_
  · intro name member
    simpa [looped] using member
  · intro name node member
    obtain ⟨rfl, rfl⟩ : name = [97] ∧ node = _ := by simpa [looped] using member
    exact ⟨by decide, by decide, by decide, by decide⟩
  · intro name node member
    obtain ⟨rfl, rfl⟩ : name = [97] ∧ node = _ := by simpa [looped] using member
    exact inner

theorem main_lists_looped :
    ∃ printed bound, (∀ fuel ≥ bound, main (.dir looped) (fun place _ => some place.dropLast) fuel =
        some (.ok printed)) ∧
      printed.map Line.text = [dot, [97], [46, 47, 97], [98]] := by
  obtain ⟨printed, bound, returns, texts, _⟩ :=
    main_lists looped (fun place _ => some place.dropLast) wellFormed_looped
  exact ⟨printed, bound, returns, texts.trans (by decide)⟩

end Mylsr
