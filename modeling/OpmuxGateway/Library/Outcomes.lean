import OpmuxGateway.Library.Interaction

/-
This file gives the values and the errors that a program can return.
-/

namespace Program

variable {Request : Type} {Reply : Request → Type} {Stamp Value Result Error : Type}

/-- Each value that a program returns is possible, whatever it is answered. -/
inductive Returns (possible : Value → Prop) : Program Request Reply Value → Prop
  | pure {value : Value} : possible value → Returns possible (.pure value)
  | halt : Returns possible .halt
  | ask {request : Request} {next : Reply request → Program Request Reply Value} :
      (∀ reply, Returns possible (next reply)) → Returns possible (.ask request next)

/-- A program that can fail fails only with possible errors. -/
def Fails (possible : Error → Prop) (program : ExceptT Error (Program Request Reply) Value) :
    Prop :=
  Returns (fun result => ∀ error, result = .error error → possible error) program.run

section Returns

variable {possible : Value → Prop} {program : Program Request Reply Value}

theorem returns_all (program : Program Request Reply Value) : program.Returns fun _ => True := by
  induction program with
  | pure value => exact .pure trivial
  | halt => exact .halt
  | ask request next ih => exact .ask ih

/-- The second program starts with a possible value of the first one. -/
theorem returns_bind {next : Value → Program Request Reply Result} {last : Result → Prop}
    (first : program.Returns possible)
    (second : ∀ value, possible value → (next value).Returns last) :
    (program >>= next).Returns last := by
  change (program.bind next).Returns last
  induction first with
  | pure found => exact second _ found
  | halt => exact .halt
  | ask _ ih => exact .ask ih

/-- A cleanup returns nothing. -/
theorem returns_onDrop {cleanup : Program Request Reply Unit} (returns : program.Returns possible) :
    (program.onDrop cleanup).Returns possible := by
  induction returns with
  | pure found => exact .pure found
  | halt => exact returns_bind (returns_all cleanup) fun _ _ => .halt
  | ask _ ih => exact .ask ih

theorem Returns.runs {trace : List (Exchange Request Reply Stamp)} {value : Value}
    (returns : program.Returns possible) (run : program.Runs trace (some value)) :
    possible value := by
  induction returns generalizing trace with
  | pure found =>
      obtain ⟨_, same⟩ := run
      cases same
      exact found
  | halt =>
      obtain ⟨_, missing⟩ := run
      cases missing
  | ask _ ih =>
      obtain ⟨reply, _, _, _, later⟩ := run
      exact ih reply later

end Returns

section Fails

variable {possible : Error → Prop}

theorem fails_pure {value : Value} :
    Fails possible (Pure.pure value : ExceptT Error (Program Request Reply) Value) :=
  .pure (by rintro _ ⟨⟩)

theorem fails_throw {error : Error} (found : possible error) :
    Fails possible (throw error : ExceptT Error (Program Request Reply) Value) :=
  .pure (by
    rintro _ ⟨⟩
    exact found)

/-- A known result fails with its own error. -/
theorem fails_known {result : Except Error Value}
    (found : ∀ error, result = .error error → possible error) :
    Fails possible (ExceptT.mk (Pure.pure result) : ExceptT Error (Program Request Reply) Value) :=
  .pure found

theorem fails_lift (program : Program Request Reply Value) :
    Fails possible (liftM program : ExceptT Error (Program Request Reply) Value) :=
  returns_bind (returns_all program) fun _ _ => .pure (by rintro _ ⟨⟩)

/-- A sequence fails with an error of one of its parts. -/
theorem fails_bind {program : ExceptT Error (Program Request Reply) Value}
    {next : Value → ExceptT Error (Program Request Reply) Result}
    (first : Fails possible program) (second : ∀ value, Fails possible (next value)) :
    Fails possible (program >>= next) := by
  change Returns _ (program.run >>= ExceptT.bindCont next)
  apply returns_bind first
  intro result found
  cases result with
  | ok value => exact second value
  | error error =>
      refine .pure ?_
      rintro _ ⟨⟩
      exact found error rfl

end Fails

section Embed

variable {Outer : Type} {OuterReply : Outer → Type} {inject : Request → Outer}
  {replies : ∀ request, OuterReply (inject request) ≃ Reply request} {allowed : Outer → Prop}
  {possible : Value → Prop} {program : Program Request Reply Value}

/-- An embedded program returns its own values. -/
theorem Returns.embed (returns : program.Returns possible) :
    (program.embed inject replies).Returns possible := by
  induction returns with
  | pure found => exact .pure found
  | halt => exact .halt
  | ask _ ih => exact .ask fun reply => ih _

/-- An embedded program asks its embedded requests. -/
theorem asks_embed (asks : ∀ request, allowed (inject request)) :
    (program.embed inject replies).Asks allowed := by
  induction program with
  | pure value => trivial
  | halt => trivial
  | ask request next ih => exact ⟨asks request, fun reply => ih _⟩

/-- An embedded program asks what its own requests become. -/
theorem Asks.embed (asks : program.Asks fun request => allowed (inject request)) :
    (program.embed inject replies).Asks allowed := by
  induction program with
  | pure value => trivial
  | halt => trivial
  | ask request next ih => exact ⟨asks.1, fun reply => ih _ (asks.2 _)⟩

end Embed

end Program

namespace Except

variable {Value Result Error Item : Type} {possible : Error → Prop}

/-- A sequence of two checks succeeds exactly when each of them does. -/
theorem bind_eq_ok {first : Except Error Value} {next : Value → Except Error Result}
    {result : Result} :
    first >>= next = .ok result ↔ ∃ value, first = .ok value ∧ next value = .ok result := by
  cases first with
  | error error => simp [bind, Except.bind]
  | ok value => simp [bind, Except.bind]

/-- A checked value is rejected only with possible errors. -/
def Rejects (possible : Error → Prop) (result : Except Error Value) : Prop :=
  ∀ error, result = .error error → possible error

theorem rejects_ok {value : Value} : (.ok value : Except Error Value).Rejects possible := by
  rintro _ ⟨⟩

theorem rejects_error {error : Error} (found : possible error) :
    (.error error : Except Error Value).Rejects possible := by
  rintro _ ⟨⟩
  exact found

theorem Rejects.bind {result : Except Error Value} {next : Value → Except Error Result}
    (first : result.Rejects possible) (second : ∀ value, (next value).Rejects possible) :
    (result >>= next).Rejects possible := by
  cases result with
  | error error => exact rejects_error (first error rfl)
  | ok value => exact second value

/-- A checked fold rejects only with the errors of its steps. -/
theorem rejects_foldlM {step : Value → Item → Except Error Value}
    (steps : ∀ value item, (step value item).Rejects possible) (items : List Item)
    (value : Value) : (items.foldlM step value).Rejects possible := by
  induction items generalizing value with
  | nil => exact rejects_ok
  | cons item rest ih =>
      rw [List.foldlM_cons]
      exact (steps value item).bind ih

theorem rejects_mapM {step : Item → Except Error Value}
    (steps : ∀ item, (step item).Rejects possible) (items : List Item) :
    (items.mapM step).Rejects possible := by
  induction items with
  | nil => exact rejects_ok
  | cons item rest ih =>
      rw [List.mapM_cons]
      exact (steps item).bind fun _ => ih.bind fun _ => rejects_ok

end Except
