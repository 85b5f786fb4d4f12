set_option autoImplicit false

namespace FieldConfig

variable {ε α β : Type}

theorem map_ok (f : α → β) (result : Except ε α) (value : β) (mapped : result.map f = .ok value) :
    ∃ part, result = .ok part ∧ f part = value := by
  cases result with
  | error fault => cases mapped
  | ok part => exact ⟨part, rfl, by simpa [Except.map] using mapped⟩

theorem bind_ok (f : α → Except ε β) (result : Except ε α) (value : β)
    (bound : result >>= f = .ok value) : ∃ part, result = .ok part ∧ f part = .ok value := by
  cases result with
  | error fault => cases bound
  | ok part => exact ⟨part, rfl, bound⟩

@[simp] theorem map_toOption (f : α → β) (result : Except ε α) :
    (result.map f).toOption = result.toOption.map f := by
  cases result <;> rfl

theorem toOption_some (result : Except ε α) (value : α) :
    result.toOption = some value ↔ result = .ok value := by
  cases result <;> simp [Except.toOption]

theorem ok_kept (results : List (Except ε α)) (each : ∀ result ∈ results, ∃ value, result = .ok value) :
    results = (results.filterMap Except.toOption).map .ok := by
  induction results with
  | nil => rfl
  | cons result rest ih =>
      obtain ⟨⟨value, rfl⟩, others⟩ := List.forall_mem_cons.mp each
      have kept : (Except.ok value : Except ε α).toOption = some value := rfl
      rw [List.filterMap_cons_some kept, List.map_cons, ← ih others]

theorem in_turn_ok (results : List (Except ε α)) (values : List α) :
    results.mapM id = .ok values ↔ results = values.map .ok := by
  induction results generalizing values with
  | nil => cases values <;> simp [pure, Except.pure]
  | cons result rest ih =>
      cases result with
      | error fault => cases values <;> simp [bind, Except.bind]
      | ok first =>
          cases values with
          | nil => cases later : rest.mapM id <;> simp [later, bind, Except.bind, pure, Except.pure]
          | cons value others =>
              simp only [List.map_cons, List.cons.injEq, Except.ok.injEq, ← ih others]
              cases later : rest.mapM id <;>
                simp [later, bind, Except.bind, pure, Except.pure]

def FailsOnly (kind : ε → Prop) (result : Except ε α) : Prop :=
  ∀ fault, result = .error fault → kind fault

theorem fails_ok (kind : ε → Prop) (value : α) : FailsOnly kind (.ok value) := nofun

theorem fails_error (kind : ε → Prop) (fault : ε) (of : kind fault) :
    FailsOnly kind (.error fault : Except ε α) := by
  intro other same
  exact Except.error.inj same ▸ of

theorem fails_map (kind : ε → Prop) (f : α → β) (result : Except ε α)
    (fails : FailsOnly kind result) : FailsOnly kind (result.map f) := by
  cases result with
  | error fault => exact fails_error kind fault (fails fault rfl)
  | ok value => exact fails_ok kind (f value)

theorem fails_bind (kind : ε → Prop) (f : α → Except ε β) (result : Except ε α)
    (fails : FailsOnly kind result) (next : ∀ value, FailsOnly kind (f value)) :
    FailsOnly kind (result >>= f) := by
  cases result with
  | error fault => exact fails_error kind fault (fails fault rfl)
  | ok value => exact next value

theorem in_turn_fails (kind : ε → Prop) (results : List (Except ε α))
    (each : ∀ result ∈ results, FailsOnly kind result) : FailsOnly kind (results.mapM id) := by
  induction results with
  | nil => exact fails_ok kind []
  | cons result rest ih =>
      obtain ⟨here, later⟩ := List.forall_mem_cons.mp each
      rw [List.mapM_cons]
      refine fails_bind kind _ _ here fun value => ?_
      exact fails_bind kind _ _ (ih later) fun others => fails_ok kind (value :: others)

end FieldConfig
