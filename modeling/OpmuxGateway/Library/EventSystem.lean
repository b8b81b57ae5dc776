import Mathlib

/-- An event system accepts or refuses each event in each state. -/
structure EventSystem (State Event : Type) where
  step : State → Event → Option State

namespace EventSystem

variable {State Event : Type} (system : EventSystem State Event)

/-- A run applies its events in order and stops at the first refusal. -/
def run (state : State) : List Event → Option State
  | [] => some state
  | event :: rest => (system.step state event).bind fun next => run next rest

/-- The visited states of a run, oldest first, start with the initial state. -/
def visited (state : State) : List Event → List State
  | [] => [state]
  | event :: rest => state :: (system.step state event).elim [] fun next => visited next rest

/-- The newest value that a partial observation gives along the visited states. -/
def latest {Value : Type} (observe : State → Option Value) (state : State)
    (events : List Event) : Option Value :=
  (system.visited state events).reverse.findSome? observe

@[simp] theorem run_nil (state : State) : system.run state [] = some state := rfl

@[simp] theorem run_cons (state : State) (event : Event) (rest : List Event) :
    system.run state (event :: rest) =
      (system.step state event).bind fun next => system.run next rest := rfl

/-- A predicate that every accepted event keeps holds after every run. -/
theorem run_invariant (Holds : State → Prop)
    (kept : ∀ state event next, Holds state → system.step state event = some next → Holds next)
    {state final : State} {events : List Event} (start : Holds state)
    (reached : system.run state events = some final) : Holds final := by
  induction events generalizing state with
  | nil =>
      cases reached
      exact start
  | cons event rest ih =>
      rw [run_cons, Option.bind_eq_some_iff] at reached
      obtain ⟨next, stepped, tail⟩ := reached
      exact ih (kept state event next start stepped) tail

/-- A step-by-step simulation relates a run to the abstract run of its projected events. -/
theorem run_simulates {Abstract Action : Type} (act : Abstract → Action → Abstract)
    (project : Event → Option Action) {Represents : State → Abstract → Prop}
    (matched : ∀ state abstract event next, Represents state abstract →
      system.step state event = some next →
      Represents next ((project event).elim abstract (act abstract)))
    {state final : State} {abstract : Abstract} {events : List Event}
    (start : Represents state abstract) (reached : system.run state events = some final) :
    Represents final ((events.filterMap project).foldl act abstract) := by
  induction events generalizing state abstract with
  | nil =>
      cases reached
      exact start
  | cons event rest ih =>
      rw [run_cons, Option.bind_eq_some_iff] at reached
      obtain ⟨next, stepped, tail⟩ := reached
      have related := matched state abstract event next start stepped
      cases projected : project event with
      | none =>
          rw [projected, Option.elim_none] at related
          simpa only [List.filterMap_cons, projected] using ih related tail
      | some action =>
          rw [projected, Option.elim_some] at related
          simpa only [List.filterMap_cons, projected, List.foldl_cons] using ih related tail

/-- Each event of a run meets a condition on the state before it. -/
def Meets (condition : State → Event → Prop) (state : State) : List Event → Prop
  | [] => True
  | event :: rest => condition state event ∧
      ∀ next, system.step state event = some next → Meets condition next rest

/-- A predicate on the past events and the state holds after a run that keeps it. -/
theorem run_history {condition : State → Event → Prop} (Holds : List Event → State → Prop)
    (kept : ∀ past state event next, Holds past state → condition state event →
      system.step state event = some next → Holds (past ++ [event]) next)
    {past events : List Event} {state final : State} (start : Holds past state)
    (meets : system.Meets condition state events)
    (reached : system.run state events = some final) : Holds (past ++ events) final := by
  induction events generalizing past state with
  | nil =>
      cases reached
      rw [List.append_nil]
      exact start
  | cons event rest ih =>
      rw [run_cons, Option.bind_eq_some_iff] at reached
      obtain ⟨next, stepped, tail⟩ := reached
      obtain ⟨met, later⟩ := meets
      have extended := ih (kept past state event next start met stepped) (later next stepped) tail
      rwa [List.append_assoc] at extended

/-- The last visited state of a finished run is its final state. -/
theorem visited_final {state final : State} {events : List Event}
    (reached : system.run state events = some final) :
    ∃ earlier, system.visited state events = earlier ++ [final] := by
  induction events generalizing state with
  | nil =>
      cases reached
      exact ⟨[], rfl⟩
  | cons event rest ih =>
      rw [run_cons, Option.bind_eq_some_iff] at reached
      obtain ⟨next, stepped, tail⟩ := reached
      obtain ⟨earlier, same⟩ := ih tail
      exact ⟨state :: earlier, by simp [visited, stepped, same]⟩

/-- A value observed in the final state is the newest one of the run. -/
theorem latest_final {Value : Type} {observe : State → Option Value} {state final : State}
    {events : List Event} {value : Value} (reached : system.run state events = some final)
    (observed : observe final = some value) :
    system.latest observe state events = some value := by
  obtain ⟨earlier, same⟩ := system.visited_final reached
  simp [latest, same, observed]

end EventSystem
