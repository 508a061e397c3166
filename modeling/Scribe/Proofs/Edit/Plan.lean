import Scribe.Edit.Plan

/-!
# Which plans are made

A plan is made for every content within the limit, and for no other. It deletes some units from the
start of the body, none if the body is new, and goes on as the requests that bring the content into
an empty body (`Plan.Made.eq`).
-/

namespace Scribe.Edit

open Text

variable {markdown : String} {limit : Nat} {plan : Plan}

/-- Behind the limit check, a plan is made exactly for the contents within the limit. -/
theorem checkLimit_bind_eq_ok_iff {p : Plan} :
    (checkLimit markdown limit >>= fun _ => pure p) = .ok plan ↔
      units markdown ≤ limit ∧ plan = p := by
  unfold checkLimit
  split
  · next h =>
    constructor
    · intro herror
      cases herror
    · rintro ⟨hle, -⟩
      exact absurd hle (Nat.not_le.2 h)
  · next h =>
    constructor
    · intro hok
      cases hok
      exact ⟨Nat.not_lt.1 h, rfl⟩
    · rintro ⟨-, rfl⟩
      rfl

theorem Plan.forNew_eq_ok_iff :
    Plan.forNew markdown limit = .ok plan ↔
      units markdown ≤ limit ∧ plan = (compile markdown).requests :=
  checkLimit_bind_eq_ok_iff

theorem Plan.forReplacement_eq_ok_iff {stop : Option Nat} :
    Plan.forReplacement markdown stop limit = .ok plan ↔
      units markdown ≤ limit ∧
        plan = Plan.clearing (stop.getD emptyBodyEnd) ++ (compile markdown).requests :=
  checkLimit_bind_eq_ok_iff

/-- The plans that are made for a content, each with the number of units that it deletes from the
start of the body. The end of the body is what the maker of the plan believes it to be. -/
inductive Plan.Made (markdown : String) (limit : Nat) : Plan → Nat → Prop where
  | fill {plan : Plan} : Plan.forNew markdown limit = .ok plan → Made markdown limit plan 0
  | replace {plan : Plan} (stop : Option Nat) : Plan.forReplacement markdown stop limit = .ok plan →
      Made markdown limit plan (max (stop.getD emptyBodyEnd) emptyBodyEnd - emptyBodyEnd)

/-- A body that ends at `stop` is cleared like one that ends where an empty body does, if it cannot
end before. -/
theorem Plan.clearing_max (stop : Nat) :
    Plan.clearing (max stop emptyBodyEnd) = Plan.clearing stop := by
  unfold Plan.clearing
  rcases Nat.le_total stop emptyBodyEnd with h | h
  · rw [Nat.max_eq_right h, if_neg (Nat.lt_irrefl _), if_neg (Nat.not_lt.2 h)]
  · rw [Nat.max_eq_left h]

/-- The requests of a plan: the deletion, if there is something to delete, and then those that bring
the content into an empty body. -/
theorem Plan.Made.eq {k : Nat} (h : Plan.Made markdown limit plan k) :
    plan = Plan.clearing (k + emptyBodyEnd) ++ (compile markdown).requests := by
  cases h with
  | fill h => exact (Plan.forNew_eq_ok_iff.1 h).2
  | replace stop h =>
    rw [Nat.sub_add_cancel (Nat.le_max_right ..), Plan.clearing_max]
    exact (Plan.forReplacement_eq_ok_iff.1 h).2

/-! ### What a plan inserts, and how long it is -/

/-- A compiled text takes one request for itself, and one for each of its formattings. -/
theorem length_requests_le (c : Compiled) : c.requests.length ≤ c.formattings.length + 1 := by
  unfold Compiled.requests
  split
  · exact Nat.zero_le _
  · exact Nat.le_of_eq (by rw [List.length_cons, List.length_map])

/-- All that a compiled text inserts is the text. -/
theorem eq_of_insert_mem_requests {c : Compiled} {offset : Nat} {text : String}
    (h : .insert offset text ∈ c.requests) : text = c.text := by
  unfold Compiled.requests at h
  split at h
  · cases h
  · rcases List.mem_cons.1 h with h | h
    · cases h
      rfl
    · obtain ⟨f, -, hf⟩ := List.mem_map.1 h
      cases hf

theorem Plan.length_clearing_le (stop : Nat) : (Plan.clearing stop).length ≤ 1 := by
  unfold Plan.clearing
  split
  · exact Nat.le_refl _
  · exact Nat.zero_le _

/-- Clearing a body inserts nothing. -/
theorem Plan.insert_notMem_clearing (stop offset : Nat) (text : String) :
    .insert offset text ∉ Plan.clearing stop := by
  unfold Plan.clearing
  split
  · intro h
    cases List.mem_singleton.1 h
  · exact List.not_mem_nil

/-- What a plan for a content inserts is the compiled content. -/
theorem Plan.Made.insert_mem {k : Nat} (h : Plan.Made markdown limit plan k) {offset : Nat}
    {text : String} (hmem : .insert offset text ∈ plan) : text = (compile markdown).text := by
  rw [h.eq] at hmem
  rcases List.mem_append.1 hmem with hmem | hmem
  · exact absurd hmem (Plan.insert_notMem_clearing _ _ _)
  · exact eq_of_insert_mem_requests hmem

/-- A plan is only made for a content within the limit. -/
theorem Plan.Made.units_le {k : Nat} (h : Plan.Made markdown limit plan k) :
    units markdown ≤ limit := by
  cases h with
  | fill h => exact (Plan.forNew_eq_ok_iff.1 h).1
  | replace stop h => exact (Plan.forReplacement_eq_ok_iff.1 h).1

end Scribe.Edit
