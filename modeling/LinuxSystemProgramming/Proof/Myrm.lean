/-
This file proves when `myrm` removes all its arguments, and what is left if it does not.
-/

import LinuxSystemProgramming.Construction.Myrm

namespace Myrm
open Directory

/-- Exactly these places are gone. -/
def Gone (root : Node) (places : List Place) (tree : Node) : Prop :=
  ∀ other, (tree.at other).isSome = true ↔ (root.at other).isSome = true ∧ other ∉ places

/-- The places can be removed in their order: each one is there once, and all that lies below it is removed before it. -/
structure Removable (root : Node) (places : List Place) : Prop where
  there : ∀ place ∈ places, (root.at place).isSome = true
  below : [] ∉ places
  once : places.Nodup
  before : ∀ place ∈ places, ∀ other, place <+: other → other ≠ place →
    (root.at other).isSome = true → [other, place].Sublist places

section Loop
variable {root later : Node} {place : Place} {places : List Place}
  (follow : Node → Place → List UInt8 → Option Place)

/-- One removal takes away one place. -/
theorem gone_of_remove (wellFormed : root.WellFormed) (reaches : root.Reaches place)
    (removed : remove root (follow root) (pathOf place) = some later) :
    Gone root [place] later ∧ later.WellFormed ∧
      ∀ other, root.Reaches other → later.Reaches other := by
  obtain ⟨below, _, nothing, rfl⟩ := (remove_pathOf wellFormed (follow root) reaches).mp removed
  refine ⟨fun other => ?_, wellFormed.without place, fun other way => way.without place⟩
  rw [Node.isSome_at_without root below, List.mem_singleton]
  refine and_congr_right fun there => not_congr ⟨fun begins => ?_, fun same => ?_⟩
  · by_contra different
    rw [nothing other begins different] at there
    cases there
  · exact same ▸ List.prefix_rfl

/-- The removals of two lists are those of one. -/
theorem Gone.append {tree final : Node} {others : List Place} (gone : Gone root places tree)
    (more : Gone tree others final) : Gone root (places ++ others) final := by
  intro other
  rw [more other, gone other, List.mem_append, not_or, and_assoc]

/-- The loop removes a beginning of its places, and it succeeds when this is the whole list. -/
theorem exists_gone (wellFormed : root.WellFormed)
    (reaches : ∀ place ∈ places, root.Reaches place) :
    ∃ done left tree, places = done ++ left ∧ Gone root done tree ∧
      (loop follow (places.map pathOf) root = .ok tree ∧ left = [] ∨
        loop follow (places.map pathOf) root = .error tree ∧ left ≠ []) := by
  induction places generalizing root with
  | nil => exact ⟨[], [], root, rfl, fun other => by simp, .inl ⟨rfl, rfl⟩⟩
  | cons place rest inductionHypothesis =>
      rw [List.map_cons, loop]
      cases removed : remove root (follow root) (pathOf place) with
      | none => exact ⟨[], place :: rest, root, rfl, fun other => by simp, .inr ⟨rfl, by simp⟩⟩
      | some later =>
          obtain ⟨first, wellFormed, keeps⟩ :=
            gone_of_remove follow wellFormed (reaches place List.mem_cons_self) removed
          obtain ⟨done, left, tree, split, gone, ends⟩ := inductionHypothesis wellFormed
            fun other member => keeps other (reaches other (.tail _ member))
          exact ⟨place :: done, left, tree, congrArg _ split, first.append gone, ends⟩

/-- A list of places can be removed if and only if its first one can, and the others can after that. -/
theorem removable_cons (gone : Gone root [place] later) (there : (root.at place).isSome = true)
    (below : place ≠ [])
    (nothing : ∀ other, place <+: other → other ≠ place → root.at other = none) :
    Removable root (place :: places) ↔ Removable later places := by
  constructor
  · intro removable
    obtain ⟨absent, once⟩ := List.nodup_cons.mp removable.once
    have different {other : Place} (member : other ∈ places) : other ≠ place := by
      rintro rfl
      exact absent member
    refine ⟨fun other member => ?_, fun member => removable.below (.tail _ member), once,
      fun other member last begins apart some' => ?_⟩
    · rw [gone other, List.mem_singleton]
      exact ⟨removable.there other (.tail _ member), different member⟩
    · rw [gone last, List.mem_singleton] at some'
      have order := removable.before other (.tail _ member) last begins apart some'.1
      cases order with
      | cons _ kept => exact kept
      | cons_cons => exact absurd rfl some'.2
  · intro removable
    have absent : place ∉ places := fun member => by
      have still := removable.there place member
      rw [gone place] at still
      exact still.2 List.mem_cons_self
    refine ⟨fun other member => ?_, fun member => ?_, List.nodup_cons.mpr ⟨absent, removable.once⟩,
      fun other member last begins apart some' => ?_⟩
    · rcases List.mem_cons.mp member with rfl | member
      · exact there
      · exact ((gone other).mp (removable.there other member)).1
    · rcases List.mem_cons.mp member with same | member
      · exact below same.symm
      · exact removable.below member
    · rcases List.mem_cons.mp member with rfl | inside
      · rw [nothing last begins apart] at some'
        cases some'
      · by_cases first : last = place
        · subst first
          exact .cons_cons _ (List.singleton_sublist.mpr inside)
        · refine .cons _ (removable.before other inside last begins apart ?_)
          rw [gone last, List.mem_singleton]
          exact ⟨some', first⟩

/-- The loop succeeds if and only if its places can be removed in their order. -/
theorem loop_iff (wellFormed : root.WellFormed) (reaches : ∀ place ∈ places, root.Reaches place) :
    (∃ final, loop follow (places.map pathOf) root = .ok final) ↔ Removable root places := by
  induction places generalizing root with
  | nil =>
      refine ⟨fun _ => ⟨nofun, nofun, List.nodup_nil, nofun⟩, fun _ => ⟨root, rfl⟩⟩
  | cons place rest inductionHypothesis =>
      have way := reaches place List.mem_cons_self
      rw [List.map_cons, loop]
      cases removed : remove root (follow root) (pathOf place) with
      | none =>
          refine ⟨nofun, fun removable => ?_⟩
          have success : remove root (follow root) (pathOf place) = some (root.without place) := by
            refine (remove_pathOf wellFormed (follow root) way).mpr
              ⟨fun same => removable.below (same ▸ List.mem_cons_self),
                removable.there place List.mem_cons_self, fun other begins different => ?_, rfl⟩
            by_contra some'
            have order := removable.before place List.mem_cons_self other begins different
              (Option.isSome_iff_ne_none.mpr some')
            have absent := (List.nodup_cons.mp removable.once).1
            cases order with
            | cons _ kept => exact absent (kept.subset (.tail _ List.mem_cons_self))
            | cons_cons => exact different rfl
          cases removed.symm.trans success
      | some later =>
          obtain ⟨gone, formed, keeps⟩ := gone_of_remove follow wellFormed way removed
          obtain ⟨below, there, nothing, _⟩ :=
            (remove_pathOf wellFormed (follow root) way).mp removed
          rw [removable_cons gone there below nothing]
          exact inductionHypothesis formed fun other member =>
            keeps other (reaches other (.tail _ member))

/-- The places that lie in a tree are reached without links. -/
theorem reaches_of_there (wellFormed : root.WellFormed)
    (there : ∀ place ∈ places, (root.at place).isSome = true) :
    ∀ place ∈ places.reverse, root.Reaches place := by
  intro place member
  obtain ⟨node, found⟩ := Option.isSome_iff_exists.mp (there place (List.mem_reverse.mp member))
  exact wellFormed.reaches found

/-- `main` runs the loop on its arguments if it has any. -/
theorem main_eq (some' : places ≠ []) : main follow (places.map pathOf) root =
    loop follow (places.reverse.map pathOf) root := by
  rw [main, if_neg (by simpa using some'), List.map_reverse]

/-- `myrm` succeeds if and only if its arguments can be removed from the last one to the first one. -/
theorem main_iff (wellFormed : root.WellFormed)
    (there : ∀ place ∈ places, (root.at place).isSome = true) :
    (∃ final, main follow (places.map pathOf) root = .ok final) ↔
      places ≠ [] ∧ [] ∉ places ∧ places.Nodup ∧
        ∀ place ∈ places, ∀ other, place <+: other → other ≠ place →
          (root.at other).isSome = true → [place, other].Sublist places := by
  by_cases empty : places = []
  · subst empty
    exact ⟨nofun, fun given => absurd rfl given.1⟩
  rw [main_eq follow empty, loop_iff follow wellFormed (reaches_of_there wellFormed there)]
  constructor
  · intro removable
    refine ⟨empty, fun member => removable.below (List.mem_reverse.mpr member),
      List.nodup_reverse.mp removable.once, fun place member other begins different some' => ?_⟩
    have order := removable.before place (List.mem_reverse.mpr member) other begins different some'
    exact List.reverse_sublist.mp order
  · rintro ⟨_, below, once, order⟩
    refine ⟨fun place member => there place (List.mem_reverse.mp member),
      fun member => below (List.mem_reverse.mp member), List.nodup_reverse.mpr once,
      fun place member other begins different some' => List.reverse_sublist.mp ?_⟩
    rw [List.reverse_reverse]
    exact order place (List.mem_reverse.mp member) other begins different some'

/-- `myrm` removes its last arguments, and it succeeds when these are all. -/
theorem main_gone (wellFormed : root.WellFormed)
    (there : ∀ place ∈ places, (root.at place).isSome = true) :
    ∃ kept gone final, places = kept ++ gone ∧ Gone root gone final ∧
      (main follow (places.map pathOf) root = .ok final ∧ kept = [] ∨
        main follow (places.map pathOf) root = .error final) := by
  by_cases empty : places = []
  · subst empty
    exact ⟨[], [], root, rfl, fun other => by simp, .inr rfl⟩
  obtain ⟨done, left, tree, split, gone, ends⟩ :=
    exists_gone follow wellFormed (reaches_of_there wellFormed there)
  rw [main_eq follow empty]
  refine ⟨left.reverse, done.reverse, tree, ?_, fun other => ?_, ends.imp ?_ And.left⟩
  · rw [← List.reverse_append, ← split, List.reverse_reverse]
  · rw [gone other, List.mem_reverse]
  · exact fun success => ⟨success.1, List.reverse_eq_nil_iff.mpr success.2⟩

/-- Given what lies in the tree, `myrm` succeeds if and only if each argument is given once and all below it is given behind it; then exactly the arguments are gone, and otherwise those behind the one that failed. -/
theorem removes_iff (wellFormed : root.WellFormed)
    (there : ∀ place ∈ places, (root.at place).isSome = true) :
    ((∃ final, main follow (places.map pathOf) root = .ok final) ↔
      places ≠ [] ∧ [] ∉ places ∧ places.Nodup ∧
        ∀ place ∈ places, ∀ other, place <+: other → other ≠ place →
          (root.at other).isSome = true → [place, other].Sublist places) ∧
    (∀ final, main follow (places.map pathOf) root = .ok final → Gone root places final) ∧
    ∀ final, main follow (places.map pathOf) root = .error final →
      ∃ kept gone, places = kept ++ gone ∧ Gone root gone final := by
  refine ⟨main_iff follow wellFormed there, ?_⟩
  obtain ⟨kept, gone, tree, split, away, ends⟩ := main_gone follow wellFormed there
  refine ⟨fun final success => ?_, fun final failure => ?_⟩
  · rcases ends with ⟨result, none⟩ | result
    · cases result.symm.trans success
      rw [none, List.nil_append] at split
      exact split ▸ away
    · cases result.symm.trans success
  · rcases ends with ⟨result, _⟩ | result
    · cases result.symm.trans failure
    · cases result.symm.trans failure
      exact ⟨kept, gone, split, away⟩

end Loop

/-- A directory `d` with a file `f` is removed by `myrm d d/f`, and not by `myrm d/f d`. -/
theorem removes_iff_below :
    let root : Node := .dir [([100], some (.dir [([102], some .file)]))]
    let follow (_ : Node) (_ : Place) (_ : List UInt8) : Option Place := none
    (∃ final, main follow ([[[100]], [[100], [102]]].map pathOf) root = .ok final ∧
      Gone root [[[100]], [[100], [102]]] final) ∧
    ¬ ∃ final, main follow ([[[100], [102]], [[100]]].map pathOf) root = .ok final := by
  intro root follow
  have proper (byte : UInt8) (letter : byte = 100 ∨ byte = 102) : Proper [byte] := by
    rcases letter with rfl | rfl <;> exact ⟨by decide, by decide, by decide, by decide⟩
  have inner : Node.WellFormed (.dir [([102], some .file)]) := by
    refine .dir _ (by decide) (fun name member => ?_) (fun name node member => ?_)
      fun name node member => ?_
    · cases List.mem_singleton.mp member
    · cases List.mem_singleton.mp member
      exact proper 102 (.inr rfl)
    · cases List.mem_singleton.mp member
      exact .file
  have wellFormed : root.WellFormed := by
    refine .dir _ (by decide) (fun name member => ?_) (fun name node member => ?_)
      fun name node member => ?_
    · cases List.mem_singleton.mp member
    · cases List.mem_singleton.mp member
      exact proper 100 (.inl rfl)
    · cases List.mem_singleton.mp member
      exact inner
  constructor
  · have removed : main follow ([[[100]], [[100], [102]]].map pathOf) root = .ok (.dir []) := rfl
    have there : ∀ place ∈ [[[100]], [[100], [102]]], (root.at place).isSome = true := by
      intro place member
      rcases List.mem_pair.mp member with rfl | rfl <;> rfl
    exact ⟨.dir [], removed, (removes_iff follow wellFormed there).2.1 _ removed⟩
  · have there : ∀ place ∈ [[[100], [102]], [[100]]], (root.at place).isSome = true := by
      intro place member
      rcases List.mem_pair.mp member with rfl | rfl <;> rfl
    intro success
    have order := ((removes_iff follow wellFormed there).1.mp success).2.2.2 [[100]] (by simp)
      [[100], [102]] (List.prefix_append [[100]] [[102]]) (by decide) rfl
    exact absurd order (by decide)

end Myrm
