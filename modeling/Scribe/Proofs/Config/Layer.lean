import Scribe.Config.Layer

/-!
# Layers on top of each other

Each setting of a stack of layers is that of the last layer which sets it, where the credentials are
one setting (`Overlays.foldl_merge`). The layer of the environment sets something exactly if one of
its variables is not blank (`isEmpty_ofVariables_eq_false_iff`).
-/

namespace Scribe.Config

open Files

namespace Layer

variable {α : Type} {setting : Layer → Option α}

/-- The credentials of a layer as one setting, which is set if any of them is. -/
def credentials? (l : Layer) : Option Auth := if l.auth = .unset then none else some l.auth

/-- The value of a setting in the last layer that sets it. -/
def lastSet? (setting : Layer → Option α) (layers : List Layer) : Option α :=
  layers.reverse.findSome? setting

theorem lastSet?_cons (setting : Layer → Option α) (l : Layer) (rest : List Layer) :
    lastSet? setting (l :: rest) = (lastSet? setting rest).or (setting l) := by
  unfold lastSet?
  rw [List.reverse_cons, List.findSome?_append, List.findSome?_singleton]

theorem lastSet?_append (setting : Layer → Option α) (lower upper : List Layer) :
    lastSet? setting (lower ++ upper) = (lastSet? setting upper).or (lastSet? setting lower) := by
  unfold lastSet?
  rw [List.reverse_append, List.findSome?_append]

/-- A setting of merged layers is that of the upper one, unless only the lower one sets it. -/
def Overlays (setting : Layer → Option α) : Prop :=
  ∀ lower upper, setting (lower.merge upper) = (setting upper).or (setting lower)

/-- A setting of a stack of layers is that of the last layer which sets it. -/
theorem Overlays.foldl_merge (h : Overlays setting) (layers : List Layer) (base : Layer) :
    setting (layers.foldl merge base) = (lastSet? setting layers).or (setting base) := by
  induction layers generalizing base with
  | nil => rfl
  | cons l rest ih =>
    rw [List.foldl_cons, ih, h, lastSet?_cons, Option.or_assoc]

theorem Overlays.foldl_defaults (h : Overlays setting) (layers : List Layer) :
    setting (layers.foldl merge defaults) = lastSet? setting (defaults :: layers) := by
  rw [lastSet?_cons, h.foldl_merge]

/-- A setting with a default is set. -/
theorem Overlays.some_foldl_defaults (h : Overlays setting) {v : α}
    (hv : setting defaults = some v) (layers : List Layer) :
    some ((setting (layers.foldl merge defaults)).getD v) =
      lastSet? setting (defaults :: layers) := by
  rw [h.foldl_defaults, lastSet?_cons, hv]
  cases lastSet? setting layers <;> rfl

theorem isEmpty_auth_iff {a : Auth} : a.isEmpty = true ↔ a = .unset := by
  obtain ⟨key, keyFile, token, tokenFile⟩ := a
  simp [Auth.isEmpty, Auth.unset, and_assoc]

theorem overlays_credentials? : Overlays credentials? := by
  intro lower upper
  unfold credentials? merge
  by_cases h : upper.auth = .unset
  · rw [if_pos (isEmpty_auth_iff.2 h), if_pos h, Option.none_or]
  · rw [if_neg (mt isEmpty_auth_iff.1 h), if_neg h, Option.some_or]

theorem auth_eq_credentials? (l : Layer) : l.auth = l.credentials?.getD .unset := by
  unfold credentials?
  split
  · next h => exact h
  · rfl

theorem isEmpty_iff {l : Layer} : l.isEmpty = true ↔ l = .empty := by
  obtain ⟨rootFolder, auth, docs, drive, maxContentUnits, logFilter⟩ := l
  simp [isEmpty, empty, isEmpty_auth_iff, and_assoc]

theorem merge_empty (l : Layer) : l.merge empty = l := rfl

/-! ### The band of layers -/

theorem empty_merge (l : Layer) : empty.merge l = l := by
  have hauth : l.auth.isEmpty = true → Auth.unset = l.auth := fun h => (isEmpty_auth_iff.1 h).symm
  simp only [merge, empty, Option.or_none]
  split
  · next h => rw [hauth h]
  · rfl

theorem merge_assoc (x y z : Layer) : (x.merge y).merge z = x.merge (y.merge z) := by
  simp only [merge, Option.or_assoc]
  -- The credentials come from the highest of the three layers that sets any.
  congr 1
  by_cases hz : z.auth.isEmpty = true
  · simp only [hz, if_true]
  · simp only [hz, Bool.false_eq_true, if_false]

/-- A layer that is applied again makes no difference to what it was applied below. -/
theorem merge_merge_self (x y : Layer) : (x.merge y).merge x = y.merge x := by
  have hor : ∀ {α : Type} (a b : Option α), a.or (b.or a) = a.or b := by
    intro α a b
    cases a <;> cases b <;> rfl
  simp only [merge, hor]
  congr 1
  by_cases hx : x.auth.isEmpty = true
  · by_cases hy : y.auth.isEmpty = true
    · rw [if_pos hx, if_pos hx, if_pos hy, isEmpty_auth_iff.1 hx, isEmpty_auth_iff.1 hy]
    · rw [if_pos hx, if_pos hx, if_neg hy]
  · rw [if_neg hx, if_neg hx]

/-- A layer that sets nothing but what the top one sets makes no difference below it, whatever lies
between them. -/
theorem merge_merge_of_covered {l top : Layer} (h : l.merge top = top) (between : Layer) :
    l.merge (between.merge top) = between.merge top := by
  calc l.merge (between.merge top) = (l.merge between).merge (l.merge top) := by
        rw [h, merge_assoc]
    _ = ((l.merge between).merge l).merge top := (merge_assoc _ _ _).symm
    _ = between.merge top := by rw [merge_merge_self, merge_assoc, h]

/-! ### The environment -/

variable {vars : Variables}

theorem isEmpty_ofVariables_iff {workingDir : Path} :
    (ofVariables workingDir vars).isEmpty = true ↔
      ∀ name ∈ variableNames, vars.get? name = none := by
  simp [isEmpty, ofVariables, Auth.isEmpty, empty, variableNames, and_assoc]

theorem get?_ne_none_iff {name : String} :
    vars.get? name ≠ none ↔
      ∃ value, vars.lookup name = some value ∧ Text.allBlank value = false := by
  unfold Variables.get?
  cases vars.lookup name with
  | none => simp
  | some value => simp [Option.filter_eq_none_iff]

/-- The environment sets something if one of its variables is not blank. -/
theorem isEmpty_ofVariables_eq_false_iff (workingDir : Path) :
    (ofVariables workingDir vars).isEmpty = false ↔ ∃ name ∈ variableNames,
      ∃ value, vars.lookup name = some value ∧ Text.allBlank value = false := by
  rw [← Bool.not_eq_true, isEmpty_ofVariables_iff]
  simp only [← get?_ne_none_iff, Classical.not_forall, exists_prop, ne_eq]

end Layer

end Scribe.Config
