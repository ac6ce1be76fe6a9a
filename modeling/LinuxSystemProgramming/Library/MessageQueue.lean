import Mathlib.Data.List.Basic

namespace MessageQueue

variable {Text : Type*}

/-- A message of a queue has its type. -/
structure Message (Text : Type*) where
  type : Nat
  text : Text
  deriving DecidableEq

/-- A receiver takes the first message of its type. -/
def receive (type : Nat) : List (Message Text) → Option (Text × List (Message Text))
  | [] => none
  | message :: rest =>
      if message.type = type then some (message.text, rest)
      else (receive type rest).map fun taken => (taken.1, message :: taken.2)

/-- The texts of one type stand in their order. -/
def texts (type : Nat) (queue : List (Message Text)) : List Text :=
  (queue.filter fun message => message.type = type).map Message.text

@[simp] theorem texts_nil (type : Nat) : texts type ([] : List (Message Text)) = [] := rfl

@[simp] theorem texts_append (type : Nat) (first second : List (Message Text)) :
    texts type (first ++ second) = texts type first ++ texts type second := by
  rw [texts, List.filter_append, List.map_append, texts, texts]

theorem texts_cons (type : Nat) (message : Message Text) (rest : List (Message Text)) :
    texts type (message :: rest) =
      if message.type = type then message.text :: texts type rest else texts type rest := by
  by_cases own : message.type = type
  · simp [texts, own]
  · simp [texts, own]

/-- A receiver finds the first text of its type, if any. -/
theorem texts_receive (type : Nat) (queue : List (Message Text)) :
    match receive type queue with
    | none => texts type queue = []
    | some (text, rest) => texts type queue = text :: texts type rest := by
  induction queue with
  | nil => rfl
  | cons message rest inductionHypothesis =>
      rw [receive]
      by_cases own : message.type = type
      · simp [texts_cons, own]
      · rw [if_neg own]
        cases taken : receive type rest with
        | none =>
            rw [taken] at inductionHypothesis
            simpa [texts_cons, own] using inductionHypothesis
        | some found =>
            rw [taken] at inductionHypothesis
            simpa [texts_cons, own] using inductionHypothesis

/-- A receiver waits if and only if there is no message of its type. -/
theorem receive_eq_none (type : Nat) (queue : List (Message Text)) :
    receive type queue = none ↔ texts type queue = [] := by
  have found := texts_receive type queue
  cases taken : receive type queue with
  | none =>
      rw [taken] at found
      simp [found]
  | some found' =>
      rw [taken] at found
      simp [found]

/-- A receiver takes the first text of its type. -/
theorem texts_of_receive {type : Nat} {queue rest : List (Message Text)} {text : Text}
    (taken : receive type queue = some (text, rest)) :
    texts type queue = text :: texts type rest := by
  have found := texts_receive type queue
  rwa [taken] at found

/-- A receiver keeps the messages of the other types. -/
theorem texts_other {type other : Nat} {queue rest : List (Message Text)} {text : Text}
    (taken : receive type queue = some (text, rest)) (different : other ≠ type) :
    texts other rest = texts other queue := by
  induction queue generalizing rest with
  | nil => cases taken
  | cons message tail inductionHypothesis =>
      rw [receive] at taken
      by_cases own : message.type = type
      · rw [if_pos own] at taken
        cases taken
        rw [texts_cons, if_neg (fun same => different (same.symm.trans own))]
      · rw [if_neg own, Option.map_eq_some_iff] at taken
        obtain ⟨⟨found, short⟩, later, same⟩ := taken
        cases same
        rw [texts_cons, texts_cons, inductionHypothesis later]

/-- A receiver takes one message. -/
theorem length_receive {type : Nat} {queue rest : List (Message Text)} {text : Text}
    (taken : receive type queue = some (text, rest)) : queue.length = rest.length + 1 := by
  induction queue generalizing rest with
  | nil => cases taken
  | cons message tail inductionHypothesis =>
      rw [receive] at taken
      by_cases own : message.type = type
      · rw [if_pos own] at taken
        cases taken
        rfl
      · rw [if_neg own, Option.map_eq_some_iff] at taken
        obtain ⟨⟨found, short⟩, later, same⟩ := taken
        cases same
        rw [List.length_cons, List.length_cons, inductionHypothesis later]

end MessageQueue
