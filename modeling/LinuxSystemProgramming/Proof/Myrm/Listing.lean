/-
This file proves that `myrm` removes all that `mylsr` lists.
-/

import LinuxSystemProgramming.Proof.Myrm
import LinuxSystemProgramming.Proof.Mylsr
import Mathlib.Data.List.Flatten

namespace Myrm
open Directory
open Mylsr (Line walked visited)

/-- The walk below an entry is a part of the walk below all of them. -/
theorem walk_sublist_walkAll {stream : List (Name × Option Node)} {name : Name} {node : Node}
    (member : (name, some node) ∈ stream) :
    (node.walk.map fun visit => (name :: visit.1, visit.2)).Sublist (walkAll stream) := by
  induction stream with
  | nil => cases member
  | cons entry rest inductionHypothesis =>
      rcases List.mem_cons.mp member with rfl | later
      · rw [walkAll]
        exact List.sublist_append_left _ _
      · have onward := inductionHypothesis later
        obtain ⟨other, none | next⟩ := entry
        · rw [walkAll]
          exact onward
        · rw [walkAll]
          exact onward.trans (List.sublist_append_right _ _)

/-- A walk visits a directory before those below it, by induction on the tree. -/
theorem preorder {node : Node} (wellFormed : node.WellFormed) {above below : Place × List Name}
    (member : above ∈ node.walk) (also : below ∈ node.walk) (begins : above.1 <+: below.1)
    (different : above.1 ≠ below.1) : [above, below].Sublist node.walk := by
  induction wellFormed generalizing above below with
  | file => cases member
  | link target => cases member
  | dir stream distinct dots names nodes inductionHypothesis =>
      obtain ⟨upper, listed⟩ := above
      obtain ⟨lower, others⟩ := below
      have inside : (lower, others) ∈ walkAll stream := by
        rcases List.mem_cons.mp also with same | inside
        · cases same
          exact absurd (List.prefix_nil.mp begins) different
        · exact inside
      rcases List.mem_cons.mp member with same | beside
      · cases same
        exact .cons_cons _ (List.singleton_sublist.mpr inside)
      · obtain ⟨name, node, rest, entry, rfl, visit⟩ := (mem_walkAll _ _ _).mp beside
        obtain ⟨_, other, tail, place, rfl, there⟩ := (mem_walkAll _ _ _).mp inside
        obtain ⟨rfl, shorter⟩ := List.cons_prefix_cons.mp begins
        have same := ((child_eq_some distinct name node).mpr entry).symm.trans
          ((child_eq_some distinct name other).mpr place)
        cases same
        have order := inductionHypothesis name node entry visit there shorter fun equal =>
          different (congrArg (List.cons name) equal)
        have lifted := order.map fun visit : Place × List Name => (name :: visit.1, visit.2)
        exact .cons _ (lifted.trans (walk_sublist_walkAll entry))

/-- The places of the entries among some lines. -/
def entries (printed : List Line) : List Place :=
  printed.filterMap fun line =>
    match line with
    | .entry place name => some (place ++ [name])
    | .opened _ _ => none

/-- The entries of a walk are the names of its directories. -/
theorem entries_walked (walk : List (Place × List Name)) :
    entries (walked [] walk) = walk.flatMap fun visit => visit.2.map fun name => visit.1 ++ [name] := by
  rw [entries, walked, List.filterMap_flatMap]
  refine List.flatMap_congr fun visit _ => ?_
  simp [visited, List.filterMap_map]

section
variable {root : Node} (wellFormed : root.WellFormed)

include wellFormed

/-- What lies below the root is shown by a visited directory. -/
theorem exists_visit {above : Place} {name : Name} (there : (root.at (above ++ [name])).isSome = true) :
    ∃ visit ∈ root.walk, visit.1 = above ∧ name ∈ visit.2 := by
  obtain ⟨node, found⟩ := Option.isSome_iff_exists.mp there
  obtain ⟨stream, parent, entry⟩ := Node.at_entry_inv found
  refine ⟨(above, shown stream), (mem_walk wellFormed _ _).mpr ⟨stream, parent, rfl⟩, rfl, ?_⟩
  rw [mem_shown (wellFormed.at parent), entry]
  rfl

/-- The listed entries are what lies below the root. -/
theorem mem_entries (place : Place) : place ∈ entries (walked [] root.walk) ↔
    place ≠ [] ∧ (root.at place).isSome = true := by
  rw [entries_walked, List.mem_flatMap]
  constructor
  · rintro ⟨⟨above, names⟩, member, listed⟩
    obtain ⟨name, shows, rfl⟩ := List.mem_map.mp listed
    obtain ⟨stream, found, rfl⟩ := (mem_walk wellFormed above names).mp member
    refine ⟨by simp, ?_⟩
    rw [Node.at_append, found, Option.bind_some, Node.at_dir]
    exact (mem_shown (wellFormed.at found) name).mp shows
  · rintro ⟨below, there⟩
    cases place using List.reverseRecOn with
    | nil => exact absurd rfl below
    | append_singleton above name =>
        obtain ⟨visit, member, rfl, shows⟩ := exists_visit wellFormed there
        exact ⟨visit, member, List.mem_map.mpr ⟨name, shows, rfl⟩⟩

/-- No entry is listed twice. -/
theorem nodup_entries : (entries (walked [] root.walk)).Nodup := by
  refine (Mylsr.nodup_walked wellFormed).filterMap fun first second place member also => ?_
  cases first with
  | opened => cases member
  | entry above name =>
      cases second with
      | opened => cases also
      | entry other last =>
          have same := (Option.some.inj member).trans (Option.some.inj also).symm
          obtain ⟨rfl, tail⟩ := List.append_inj' same rfl
          rw [List.head_eq_of_cons_eq tail]

/-- An entry is listed before those below it. -/
theorem entries_ordered {place below : Place} (member : place ∈ entries (walked [] root.walk))
    (begins : place <+: below) (different : below ≠ place)
    (there : (root.at below).isSome = true) :
    [place, below].Sublist (entries (walked [] root.walk)) := by
  obtain ⟨filled, above⟩ := (mem_entries wellFormed place).mp member
  cases place using List.reverseRecOn with
  | nil => exact absurd rfl filled
  | append_singleton upper name =>
      cases below using List.reverseRecOn with
      | nil => exact absurd (List.prefix_nil.mp begins) filled
      | append_singleton lower last =>
          have shorter : upper ++ [name] <+: lower :=
            (List.prefix_concat_iff.mp begins).resolve_left (Ne.symm different)
          obtain ⟨first, one, rfl, shows⟩ := exists_visit wellFormed above
          obtain ⟨second, two, rfl, also⟩ := exists_visit wellFormed there
          have apart : first.1 ≠ second.1 := by
            intro same
            have length := shorter.length_le
            rw [← same, List.length_append, List.length_singleton] at length
            exact absurd length (Nat.not_succ_le_self _)
          have order := preorder wellFormed one two
            ((List.prefix_append _ _).trans shorter) apart
          have names := order.flatMap fun visit => visit.2.map fun name => visit.1 ++ [name]
          rw [entries_walked]
          refine List.Sublist.trans ?_ names
          rw [List.flatMap_cons, List.flatMap_cons, List.flatMap_nil, List.append_nil]
          have head : first.1 ++ [name] ∈ first.2.map fun name => first.1 ++ [name] :=
            List.mem_map.mpr ⟨name, shows, rfl⟩
          have tail : second.1 ++ [last] ∈ second.2.map fun name => second.1 ++ [name] :=
            List.mem_map.mpr ⟨last, also, rfl⟩
          exact (List.singleton_sublist.mpr head).append (List.singleton_sublist.mpr tail)

end

/-- The paths of the entries in the order in which `mylsr` prints them let `myrm` remove all that it lists. -/
theorem removes_listing {stream : List (Name × Option Node)}
    (wellFormed : (Node.dir stream).WellFormed) (filled : shown stream ≠ [])
    (leads : Place → List UInt8 → Option Place)
    (follow : Node → Place → List UInt8 → Option Place) :
    ∃ printed bound, (∀ fuel ≥ bound,
        Mylsr.main (.dir stream) leads fuel = some (.ok printed)) ∧
      ∃ final, main follow ((entries printed).map pathOf) (.dir stream) = .ok final ∧
        ∀ place, place ≠ [] → final.at place = none := by
  obtain ⟨bound, walks⟩ := Mylsr.doit_walks wellFormed leads wellFormed [] rfl rfl
  refine ⟨walked [] (Node.dir stream).walk, bound, fun fuel enough => walks fuel enough [], ?_⟩
  have there : ∀ place ∈ entries (walked [] (Node.dir stream).walk),
      ((Node.dir stream).at place).isSome = true := fun place member =>
    ((mem_entries wellFormed place).mp member).2
  have some' : entries (walked [] (Node.dir stream).walk) ≠ [] := by
    obtain ⟨name, rest, listed⟩ := List.exists_cons_of_ne_nil filled
    refine List.ne_nil_of_mem ((mem_entries wellFormed [name]).mpr ⟨by simp, ?_⟩)
    rw [Node.at_dir]
    exact (mem_shown wellFormed name).mp (listed ▸ List.mem_cons_self)
  obtain ⟨final, success⟩ := (main_iff follow wellFormed there).mpr
    ⟨some', fun member => ((mem_entries wellFormed []).mp member).1 rfl, nodup_entries wellFormed,
      fun place member other => entries_ordered wellFormed member⟩
  obtain ⟨kept, gone, tree, split, away, ends⟩ := main_gone follow wellFormed there
  refine ⟨final, success, fun place below => ?_⟩
  rcases ends with ⟨result, none⟩ | result
  · cases result.symm.trans success
    rw [none, List.nil_append] at split
    by_contra some'
    obtain ⟨before, listed⟩ := (away place).mp (Option.isSome_iff_ne_none.mpr some')
    exact listed (split ▸ (mem_entries wellFormed place).mpr ⟨below, before⟩)
  · cases result.symm.trans success

/-- A file and a directory with a link in it are listed and removed. -/
theorem removes_listing_link :
    let stream : List (Name × Option Node) := [([97], some .file), ([98], some (.dir [
      ([99], some (.link [97]))]))]
    ∃ printed bound, (∀ fuel ≥ bound,
        Mylsr.main (.dir stream) (fun _ _ => some [[97]]) fuel = some (.ok printed)) ∧
      ∃ final, main (fun _ _ _ => some [[97]]) ((entries printed).map pathOf) (.dir stream) =
        .ok final ∧ ∀ place, place ≠ [] → final.at place = none := by
  intro stream
  have letter {byte : UInt8} (member : byte ∈ [97, 98, 99]) : Proper [byte] := by
    simp only [List.mem_cons, List.not_mem_nil, or_false] at member
    rcases member with rfl | rfl | rfl <;> exact ⟨by decide, by decide, by decide, by decide⟩
  have inner : Node.WellFormed (.dir [([99], some (.link [97]))]) := by
    refine .dir _ (by decide) (fun name member => ?_) (fun name node member => ?_)
      fun name node member => ?_
    · cases List.mem_singleton.mp member
    · cases List.mem_singleton.mp member
      exact letter (by decide)
    · cases List.mem_singleton.mp member
      exact .link _
  have wellFormed : (Node.dir stream).WellFormed := by
    refine .dir _ (by decide) (fun name member => ?_) (fun name node member => ?_)
      fun name node member => ?_
    · rcases List.mem_pair.mp member with same | same <;> cases same
    · rcases List.mem_pair.mp member with same | same <;> cases same <;> exact letter (by decide)
    · rcases List.mem_pair.mp member with same | same <;> cases same
      · exact .file
      · exact inner
  exact removes_listing wellFormed (by decide) _ _

end Myrm
