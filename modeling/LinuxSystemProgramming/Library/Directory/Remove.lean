/-
This file removes entries from a tree of directories.
-/

import LinuxSystemProgramming.Library.Directory

namespace Directory

/-- The tree without what lies at a place and below it. -/
def Node.without : Place → Node → Node
  | [], node => node
  | name :: rest, .dir stream =>
      if rest = [] then .dir (stream.filter fun entry => entry.1 ≠ name)
      else .dir (stream.map fun entry =>
        if entry.1 = name then (entry.1, entry.2.map (Node.without rest)) else entry)
  | _ :: _, node => node

/-- `remove` unlinks a file or a link, and it removes a directory without names. A path that ends in a slash is that of a directory, and the names `.` and `..` cannot be removed. -/
def remove (root : Node) (follow : Place → List UInt8 → Option Place) (path : List UInt8) :
    Option Node :=
  (components path).getLast?.bind fun name =>
    if name = dot ∨ name = dotDot then none
    else (resolve root follow false [] (components path).dropLast).bind fun parent =>
      (root.at (parent ++ [name])).bind fun node =>
        match node with
        | .dir stream => if shown stream = [] then some (root.without (parent ++ [name])) else none
        | _ => if path.getLast? = some 47 then none else some (root.without (parent ++ [name]))

theorem child_cons (entry : Name × Option Node) (stream : List (Name × Option Node))
    (name : Name) :
    child (entry :: stream) name = if entry.1 = name then entry.2 else child stream name := by
  by_cases own : entry.1 = name <;> simp [child, own]

theorem child_filter (stream : List (Name × Option Node)) (name other : Name) :
    child (stream.filter fun entry => entry.1 ≠ name) other =
      if other = name then none else child stream other := by
  induction stream with
  | nil => simp [child]
  | cons entry rest inductionHypothesis =>
      by_cases gone : entry.1 = name
      · rw [List.filter_cons_of_neg (by simpa using gone), inductionHypothesis, child_cons]
        by_cases same : other = name
        · rw [if_pos same, if_pos same]
        · rw [if_neg same, if_neg same, if_neg fun own => same (own.symm.trans gone)]
      · rw [List.filter_cons_of_pos (by simpa using gone), child_cons, child_cons,
          inductionHypothesis]
        by_cases own : entry.1 = other
        · rw [if_pos own, if_pos own, if_neg fun same => gone (own.trans same)]
        · rw [if_neg own, if_neg own]

theorem child_map (stream : List (Name × Option Node)) (change : Node → Node)
    (name other : Name) :
    child (stream.map fun entry =>
        if entry.1 = name then (entry.1, entry.2.map change) else entry) other =
      if other = name then (child stream name).map change else child stream other := by
  induction stream with
  | nil => simp [child]
  | cons entry rest inductionHypothesis =>
      have changed : (if entry.1 = name then (entry.1, entry.2.map change) else entry).1 =
          entry.1 := by
        split <;> rfl
      rw [List.map_cons, child_cons, child_cons, child_cons, changed, inductionHypothesis]
      by_cases own : entry.1 = other
      · subst own
        by_cases same : entry.1 = name <;> simp [same]
      · by_cases same : other = name
        · subst same
          rw [if_neg own, if_pos rfl, if_pos rfl, if_neg own]
        · rw [if_neg own, if_neg same, if_neg same, if_neg own]

/-- What lies elsewhere stays, and nothing lies at the place or below it. -/
theorem Node.isSome_at_without (root : Node) {place : Place} (below : place ≠ []) (other : Place) :
    ((root.without place).at other).isSome = true ↔
      (root.at other).isSome = true ∧ ¬ place <+: other := by
  induction place generalizing root other with
  | nil => exact absurd rfl below
  | cons name rest inductionHypothesis =>
      cases other with
      | nil => simp [Node.at]
      | cons next others =>
          cases root with
          | file => simp [Node.without, Node.at]
          | link target => simp [Node.without, Node.at]
          | dir stream =>
              rw [Node.without]
              by_cases last : rest = []
              · subst last
                rw [if_pos rfl, Node.at, Node.at, child_filter]
                by_cases same : next = name
                · simp [same]
                · simp [same, Ne.symm same]
              · rw [if_neg last, Node.at, Node.at, child_map]
                by_cases same : next = name
                · subst same
                  rw [if_pos rfl, List.cons_prefix_cons]
                  cases child stream next with
                  | none => simp
                  | some node => simpa using inductionHypothesis node last others
                · simp [same, Ne.symm same]

/-- A file or link that stays is the same one. -/
theorem Node.at_without {root node : Node} {place other : Place}
    (found : (root.without place).at other = some node) (leaf : node.isDir = false) :
    root.at other = some node := by
  induction place generalizing root other with
  | nil => exact found
  | cons name rest inductionHypothesis =>
      cases root with
      | file => exact found
      | link target => exact found
      | dir stream =>
          rw [Node.without] at found
          cases other with
          | nil =>
              rw [apply_ite (fun node : Node => node.at [])] at found
              simp only [Node.at] at found
              split at found <;> cases found <;> cases leaf
          | cons next others =>
              by_cases last : rest = []
              · rw [if_pos last, Node.at, child_filter] at found
                rw [Node.at]
                split at found
                case isTrue => cases found
                case isFalse => exact found
              · rw [if_neg last, Node.at, child_map] at found
                rw [Node.at]
                split at found
                case isTrue same =>
                  subst same
                  rw [Option.bind_eq_some_iff] at found ⊢
                  obtain ⟨changed, entry, later⟩ := found
                  obtain ⟨node, there, rfl⟩ := Option.map_eq_some_iff.mp entry
                  exact ⟨node, there, inductionHypothesis later⟩
                case isFalse => exact found

/-- The tree without an entry is a tree. -/
theorem Node.WellFormed.without {root : Node} (wellFormed : root.WellFormed) (place : Place) :
    (root.without place).WellFormed := by
  induction place generalizing root with
  | nil => exact wellFormed
  | cons name rest inductionHypothesis =>
      cases wellFormed with
      | file => exact .file
      | link target => exact .link target
      | dir stream distinct dots names nodes =>
          rw [Node.without]
          split
          · have kept (entry : Name × Option Node)
                (member : entry ∈ stream.filter fun entry => entry.1 ≠ name) : entry ∈ stream :=
              (List.mem_filter.mp member).1
            exact .dir _ (distinct.sublist (List.filter_sublist.map _))
              (fun name member => dots name (kept _ member))
              (fun name node member => names name node (kept _ member))
              (fun name node member => nodes name node (kept _ member))
          · have changed {name' : Name} {node : Option Node}
                (member : (name', node) ∈ stream.map fun entry =>
                  if entry.1 = name then (entry.1, entry.2.map (Node.without rest)) else entry) :
                ∃ before, (name', before) ∈ stream ∧
                  (node = before ∨ node = before.map (Node.without rest)) := by
              obtain ⟨entry, inside, same⟩ := List.mem_map.mp member
              split at same
              · cases same
                exact ⟨entry.2, inside, .inr rfl⟩
              · exact ⟨node, same ▸ inside, .inl rfl⟩
            refine .dir _ ?_ (fun name' member => ?_) (fun name' node member => ?_)
              fun name' node member => ?_
            · have same : (stream.map fun entry =>
                  if entry.1 = name then (entry.1, entry.2.map (Node.without rest)) else entry).map
                    Prod.fst = stream.map Prod.fst := by
                rw [List.map_map]
                refine List.map_congr_left fun entry _ => ?_
                simp only [Function.comp_apply]
                split <;> rfl
              rw [same]
              exact distinct
            · obtain ⟨before, inside, rfl | same⟩ := changed member
              · exact dots name' inside
              · rw [Option.map_eq_none_iff.mp same.symm] at inside
                exact dots name' inside
            · obtain ⟨before, inside, rfl | same⟩ := changed member
              · exact names name' node inside
              · obtain ⟨old, rfl, _⟩ := Option.map_eq_some_iff.mp same.symm
                exact names name' old inside
            · obtain ⟨before, inside, rfl | same⟩ := changed member
              · exact nodes name' node inside
              · obtain ⟨old, rfl, rfl⟩ := Option.map_eq_some_iff.mp same.symm
                exact inductionHypothesis (nodes name' old inside)

/-- The names on the way to a place are proper, and no link lies on the way. -/
structure Node.Reaches (root : Node) (place : Place) : Prop where
  proper : ∀ name ∈ place, Proper name
  real : ∀ above, above <+: place → above ≠ place → ∀ target, root.at above ≠ some (.link target)

theorem Node.at_append_place (root : Node) (above below : Place) :
    root.at (above ++ below) = (root.at above).bind fun node => node.at below := by
  induction above generalizing root with
  | nil => rfl
  | cons name rest inductionHypothesis =>
      cases root with
      | file => rfl
      | link target => rfl
      | dir stream =>
          simp only [List.cons_append, Node.at, Option.bind_assoc]
          exact congrArg _ (funext fun node => inductionHypothesis node)

/-- The way to what lies in a tree has no links. -/
theorem Node.WellFormed.reaches {root node : Node} (wellFormed : root.WellFormed) {place : Place}
    (found : root.at place = some node) : root.Reaches place := by
  refine ⟨?_, ?_⟩
  · induction place using List.reverseRecOn generalizing node with
    | nil => exact nofun
    | append_singleton above name inductionHypothesis =>
        obtain ⟨stream, parent, entry⟩ := Node.at_entry_inv found
        intro other member
        rcases List.mem_append.mp member with before | last
        · exact inductionHypothesis parent other before
        · exact List.mem_singleton.mp last ▸ proper_of_child wellFormed parent entry
  · rintro above ⟨below, rfl⟩ different target link
    rw [Node.at_append_place, link, Option.bind_some] at found
    cases below with
    | nil => exact different (List.append_nil above).symm
    | cons name rest => cases found

/-- The way to the parent of a place has no links, and there is none at the parent. -/
theorem Node.Reaches.parent {root : Node} {above : Place} {name : Name}
    (reaches : root.Reaches (above ++ [name])) :
    root.Reaches above ∧ ∀ target, root.at above ≠ some (.link target) := by
  have shorter {other : Place} (begins : other <+: above) : other ≠ above ++ [name] := by
    rintro rfl
    have length := begins.length_le
    rw [List.length_append, List.length_singleton] at length
    exact absurd length (Nat.not_succ_le_self _)
  refine ⟨⟨fun other member => reaches.proper other (List.mem_append_left _ member), ?_⟩, ?_⟩
  · intro other begins _
    exact reaches.real other (begins.trans (List.prefix_append _ _)) (shorter begins)
  · exact reaches.real above (List.prefix_append _ _) (shorter List.prefix_rfl)

/-- A way without links stays one when something is removed. -/
theorem Node.Reaches.without {root : Node} {place : Place} (reaches : root.Reaches place)
    (removed : Place) : (root.without removed).Reaches place :=
  ⟨reaches.proper, fun above begins different target link =>
    reaches.real above begins different target (Node.at_without link rfl)⟩

/-- A path without links leads to its own place, if it leads anywhere. -/
theorem resolve_eq_of_reaches {root : Node} (follow : Place → List UInt8 → Option Place)
    {place other : Place} (reaches : root.Reaches place)
    (real : ∀ target, root.at place ≠ some (.link target))
    (resolved : resolve root follow false [] (components (pathOf place)) = some other) :
    other = place := by
  induction place using List.reverseRecOn generalizing other with
  | nil =>
      change resolve root follow false [] (components dot) = some other at resolved
      rw [components_dot, resolve, step] at resolved
      split at resolved
      · simpa [resolve, eq_comm] using resolved
      · cases resolved
  | append_singleton above name inductionHypothesis =>
      have proper := reaches.proper name (List.mem_append_right _ List.mem_cons_self)
      obtain ⟨before, notLink⟩ := reaches.parent
      rw [pathOf_append, components_append _ proper, resolve_append,
        Option.bind_eq_some_iff] at resolved
      obtain ⟨next, parent, last⟩ := resolved
      obtain rfl := inductionHypothesis before notLink parent
      rw [step] at last
      split at last
      case h_1 stream here =>
        rw [if_neg proper.notDot, if_neg proper.notDotDot] at last
        have there := (Node.at_append root next name).trans (congrArg (Option.bind · _) here)
        rw [Option.bind_some, Node.at_dir] at there
        cases entry : child stream name with
        | none =>
            rw [entry] at last
            cases last
        | some node =>
            rw [entry] at last there
            cases node with
            | link target => exact absurd there (real target)
            | file => exact (Option.some.inj last).symm
            | dir entries => exact (Option.some.inj last).symm
      case h_2 => cases last

/-- A directory shows the names of its entries that have a node. -/
theorem mem_shown {stream : List (Name × Option Node)} (wellFormed : (Node.dir stream).WellFormed)
    (name : Name) : name ∈ shown stream ↔ (child stream name).isSome = true := by
  cases wellFormed with
  | dir _ distinct dots names nodes =>
      rw [shown, List.mem_filter, List.mem_map, Option.isSome_iff_exists]
      constructor
      · rintro ⟨⟨⟨_, node⟩, entry, rfl⟩, shows⟩
        have visible := of_decide_eq_true shows
        cases node with
        | none => exact ((dots _ entry).elim visible.1 visible.2).elim
        | some node => exact ⟨node, (child_eq_some distinct _ node).mpr entry⟩
      · rintro ⟨node, entry⟩
        have member := (child_eq_some distinct name node).mp entry
        have proper := names name node member
        exact ⟨⟨_, member, rfl⟩, decide_eq_true ⟨proper.notDot, proper.notDotDot⟩⟩

/-- A directory shows no names if and only if nothing lies below it. -/
theorem shown_eq_nil {root : Node} (wellFormed : root.WellFormed) {place : Place}
    {stream : List (Name × Option Node)} (found : root.at place = some (.dir stream)) :
    shown stream = [] ↔ ∀ below, place <+: below → below ≠ place → root.at below = none := by
  have shows := mem_shown (wellFormed.at found)
  constructor
  · rintro empty _ ⟨rest, rfl⟩ different
    cases rest with
    | nil => exact absurd (List.append_nil place) different
    | cons name others =>
        have hidden := mt (shows name).mpr (empty ▸ List.not_mem_nil)
        rw [Option.not_isSome_iff_eq_none] at hidden
        rw [Node.at_append_place, found, Option.bind_some, Node.at, hidden]
        rfl
  · intro nothing
    by_contra filled
    obtain ⟨name, rest, listed⟩ := List.exists_cons_of_ne_nil filled
    have some' := (shows name).mp (listed ▸ List.mem_cons_self)
    have none := nothing (place ++ [name]) (List.prefix_append _ _) (by simp)
    rw [Node.at_append, found, Option.bind_some, Node.at_dir] at none
    rw [none] at some'
    cases some'

/-- What lies below a place lies below a directory. -/
theorem at_below_of_not_isDir {root node : Node} {place : Place} (found : root.at place = some node)
    (leaf : node.isDir = false) {below : Place} (begins : place <+: below)
    (different : below ≠ place) : root.at below = none := by
  obtain ⟨rest, rfl⟩ := begins
  cases rest with
  | nil => exact absurd (List.append_nil place) different
  | cons name others =>
      rw [Node.at_append_place, found, Option.bind_some]
      cases node with
      | file => rfl
      | link target => rfl
      | dir stream => cases leaf

/-- A place is removed by its path if and only if something lies there and nothing below it. -/
theorem remove_pathOf {root later : Node} (wellFormed : root.WellFormed)
    (follow : Place → List UInt8 → Option Place) {place : Place} (reaches : root.Reaches place) :
    remove root follow (pathOf place) = some later ↔
      place ≠ [] ∧ (root.at place).isSome = true ∧
        (∀ below, place <+: below → below ≠ place → root.at below = none) ∧
        later = root.without place := by
  cases place using List.reverseRecOn with
  | nil =>
      have none : remove root follow (pathOf []) = none := by
        change remove root follow dot = none
        rw [remove, components_dot]
        rfl
      simp [none]
  | append_singleton above name =>
      have proper := reaches.proper name (List.mem_append_right _ List.mem_cons_self)
      obtain ⟨before, notLink⟩ := reaches.parent
      have slash : ¬ (pathOf above ++ 47 :: name).getLast? = some 47 := by
        rw [List.getLast?_append_cons]
        intro last
        obtain ⟨first, rest, same⟩ := List.exists_cons_of_ne_nil proper.nonempty
        rw [same, List.getLast?_cons_cons, ← same] at last
        exact proper.whole (List.mem_of_getLast? last)
      have visible : ¬ (name = dot ∨ name = dotDot) := fun dots =>
        dots.elim proper.notDot proper.notDotDot
      rw [remove, pathOf_append, components_append _ proper, List.getLast?_concat,
        Option.bind_some, if_neg visible, List.dropLast_concat, Option.bind_eq_some_iff]
      simp only [slash, if_false]
      constructor
      · rintro ⟨parent, resolved, removed⟩
        obtain rfl := resolve_eq_of_reaches follow before notLink resolved
        obtain ⟨node, found, same⟩ := Option.bind_eq_some_iff.mp removed
        refine ⟨by simp, Option.isSome_iff_exists.mpr ⟨node, found⟩, ?_⟩
        cases node with
        | file => exact ⟨fun _ => at_below_of_not_isDir found rfl, (Option.some.inj same).symm⟩
        | link target =>
            exact ⟨fun _ => at_below_of_not_isDir found rfl, (Option.some.inj same).symm⟩
        | dir stream =>
            obtain ⟨empty, same⟩ := Option.ite_none_right_eq_some.mp same
            exact ⟨(shown_eq_nil wellFormed found).mp empty, (Option.some.inj same).symm⟩
      · rintro ⟨_, some', nothing, rfl⟩
        obtain ⟨node, found⟩ := Option.isSome_iff_exists.mp some'
        obtain ⟨_, parent, _⟩ := Node.at_entry_inv found
        refine ⟨above, resolve_pathOf wellFormed follow above parent, ?_⟩
        rw [found, Option.bind_some]
        cases node with
        | file => rfl
        | link target => rfl
        | dir stream => exact if_pos ((shown_eq_nil wellFormed found).mpr nothing)

end Directory
