import Scribe.Action

/-!
# Outcomes of actions

An action is a function: on a world it has a result, and it leaves a world, also when it fails.
`outcome` is that function. The equations below compute it along the structure of an action, so that
nothing has to be said of the monad underneath.
-/

namespace Scribe

/-- A check behind a check: the first one had a result to go on with. -/
theorem ok_of_bind {ε α β : Type} {x : Except ε α} {f : α → Except ε β} {b : β}
    (h : (x >>= f) = .ok b) : ∃ a, x = .ok a ∧ f a = .ok b := by
  cases x with
  | error e => cases h
  | ok a => exact ⟨a, rfl, h⟩

namespace Action

variable {σ α β : Type}

/-- The result of an action on a world, and the world that it leaves. -/
def outcome (a : Action σ α) (w : World σ) : Except Fault α × World σ := a.run.run w

@[simp] theorem outcome_pure (x : α) (w : World σ) :
    outcome (pure x : Action σ α) w = (.ok x, w) := rfl

@[simp] theorem outcome_throw (f : Fault) (w : World σ) :
    outcome (throw f : Action σ α) w = (.error f, w) := rfl

@[simp] theorem outcome_ofExcept (e : Except Fault α) (w : World σ) :
    outcome (ofExcept e : Action σ α) w = (e, w) := by
  cases e <;> rfl

@[simp] theorem outcome_store (w : World σ) : outcome store w = (.ok w.store, w) := rfl

@[simp] theorem outcome_modifyStore (f : σ → σ) (w : World σ) :
    outcome (modifyStore f) w = (.ok (), { w with store := f w.store }) := rfl

@[simp] theorem outcome_report (level : Log.Level) (origin : Log.Origin) (message : String)
    (w : World σ) :
    outcome (report level origin message) w =
      (.ok (), { w with events := w.events ++ [⟨level, origin, message⟩] }) := rfl

/-! ### Sequences -/

/-- A sequence goes on behind a success, and only there. -/
theorem outcome_bind (a : Action σ α) (f : α → Action σ β) (w : World σ) :
    outcome (a >>= f) w =
      match outcome a w with
      | (.ok x, w') => outcome (f x) w'
      | (.error e, w') => (.error e, w') := by
  unfold outcome
  simp only [ExceptT.run_bind, StateT.run_bind]
  rcases a.run.run w with ⟨_ | _, w'⟩ <;> rfl

theorem outcome_bind_ok {a : Action σ α} {w w' : World σ} {x : α} (h : outcome a w = (.ok x, w'))
    (f : α → Action σ β) : outcome (a >>= f) w = outcome (f x) w' := by
  rw [outcome_bind, h]

/-- What is made of a result at the end leaves the world as it is. -/
theorem outcome_bind_pure (a : Action σ α) (f : α → β) (w : World σ) :
    outcome (a >>= fun x => pure (f x)) w = ((outcome a w).1.map f, (outcome a w).2) := by
  rw [outcome_bind]
  rcases outcome a w with ⟨_ | x, w'⟩ <;> rfl

/-! ### What an action leaves alone -/

/-- An action that leaves a store in a relation to the one that it finds, also when it fails. -/
def Relates (R : σ → σ → Prop) (a : Action σ α) : Prop :=
  ∀ w, R w.store (outcome a w).2.store

theorem Relates.bind {γ : Type} {R : σ → σ → Prop} {a : Action σ α} {f : α → Action σ γ}
    (htrans : ∀ {m m₁ m'}, R m m₁ → R m₁ m' → R m m') (ha : Relates R a)
    (hf : ∀ x, Relates R (f x)) : Relates R (a >>= f) := by
  intro w
  have hfirst := ha w
  rw [outcome_bind]
  generalize outcome a w = first at hfirst
  match first with
  | (.error _, _) => exact hfirst
  | (.ok x, w') => exact htrans hfirst (hf x w')

/-- An action that leaves a part of the store as it is, also when it fails. -/
def Preserves (part : σ → β) (a : Action σ α) : Prop :=
  ∀ w, part (outcome a w).2.store = part w.store

variable {part : σ → β}

theorem Preserves.bind {γ : Type} {a : Action σ α} {f : α → Action σ γ} (ha : Preserves part a)
    (hf : ∀ x, Preserves part (f x)) : Preserves part (a >>= f) :=
  Relates.bind (R := fun m m' => part m' = part m) (fun h h' => h'.trans h) ha hf

theorem preserves_pure (x : α) : Preserves part (pure x : Action σ α) := fun _ => rfl

theorem preserves_throw (f : Fault) : Preserves part (throw f : Action σ α) := fun _ => rfl

theorem preserves_ofExcept (e : Except Fault α) : Preserves part (ofExcept e : Action σ α) := by
  intro w
  rw [outcome_ofExcept]

theorem preserves_store : Preserves part (store : Action σ σ) := fun _ => rfl

theorem preserves_modifyStore {f : σ → σ} (h : ∀ m, part (f m) = part m) :
    Preserves part (modifyStore f) := fun w => h w.store

theorem preserves_report (level : Log.Level) (origin : Log.Origin) (message : String) :
    Preserves part (report level origin message) := fun _ => rfl

/-! ### Actions that fail first -/

/-- An action that succeeds on every world. -/
def Total (a : Action σ α) : Prop := ∀ w, ∃ x w', outcome a w = (.ok x, w')

/-- An action that fails only before it has done anything: then the world is as it was, with its
store and its events. -/
def FailsFirst (a : Action σ α) : Prop :=
  ∀ w f, (outcome a w).1 = .error f → (outcome a w).2 = w

/-- A check in front fails first. -/
theorem FailsFirst.check {e : Except Fault α} {f : α → Action σ β}
    (hf : ∀ x, e = .ok x → FailsFirst (f x)) : FailsFirst (ofExcept e >>= f) := by
  intro w
  rw [outcome_bind, outcome_ofExcept]
  cases e with
  | error _ => exact fun _ _ => rfl
  | ok x => exact hf x rfl w

/-- What succeeds behind an action that fails first does not change that. -/
theorem FailsFirst.bind {a : Action σ α} {f : α → Action σ β} (ha : FailsFirst a)
    (hf : ∀ x, Total (f x)) : FailsFirst (a >>= f) := by
  intro w g
  have hfirst := ha w
  rw [outcome_bind]
  generalize outcome a w = first at hfirst
  match first with
  | (.error e, w') => exact fun _ => hfirst e rfl
  | (.ok x, w') =>
    obtain ⟨y, w'', hy⟩ := hf x w'
    change (outcome (f x) w').1 = _ → _
    rw [hy]
    intro herror
    cases herror

theorem total_pure (x : α) : Total (pure x : Action σ α) := fun w => ⟨x, w, rfl⟩

end Action

end Scribe
