import Scribe.Text.Search

/-!
# Links

A link `[text](target)` is read as its text, while an image `![text](target)` stays as it is. The
text reaches to the first closing bracket and the target to the first closing parenthesis.
-/

namespace Scribe.Export

open Text

/-- The text of the link that starts here, its target, and what follows it. -/
def link? (cs : List Char) : Option (List Char × List Char × List Char) :=
  match cs with
  | '[' :: rest =>
    match rest.dropWhile (· != ']') with
    | ']' :: '(' :: behind =>
      match behind.dropWhile (· != ')') with
      | ')' :: after => some (rest.takeWhile (· != ']'), behind.takeWhile (· != ')'), after)
      | _ => none
    | _ => none
  | _ => none

theorem length_link?_lt {cs text target rest : List Char}
    (h : link? cs = some (text, target, rest)) : rest.length < cs.length := by
  simp only [link?] at h
  split at h
  · next r =>
    split at h
    · next behind hb =>
      split at h
      · next after ha =>
        simp only [Option.some.injEq, Prod.mk.injEq] at h
        obtain ⟨-, -, rfl⟩ := h
        have h1 := (List.dropWhile_sublist (· != ')') (l := behind)).length_le
        have h2 := (List.dropWhile_sublist (· != ']') (l := r)).length_le
        rw [ha] at h1
        rw [hb] at h2
        simp only [List.length_cons] at h1 h2 ⊢
        omega
      · simp at h
    · simp at h
  · simp at h

/-- A text with the targets of its links dropped. -/
def dropTargets (cs : List Char) : List Char :=
  match cs with
  | [] => []
  | '!' :: rest =>
    match _h : link? rest with
    | some (text, target, after) =>
      '!' :: '[' :: text ++ ']' :: '(' :: target ++ ')' :: dropTargets after
    | none => '!' :: dropTargets rest
  | c :: rest =>
    match _h : link? (c :: rest) with
    | some (text, _, after) => text ++ dropTargets after
    | none => c :: dropTargets rest
termination_by cs.length
decreasing_by
  all_goals try have := length_link?_lt _h
  all_goals simp_all
  all_goals omega

end Scribe.Export
