import Scribe.Config
import Scribe.Proofs.Config.Layer
import Scribe.Proofs.Files.Path

/-!
# The sources of settings

The disk, the working directory, the file named by hand and the variables call for sources of
settings, in the order of their precedence and no file twice (`Called`). Loading applies exactly
these (`called_sourcesOf`).
-/

namespace Scribe.Config

open Files

/-! ### The repository -/

/-- The nearest folder at or above another that holds a repository. -/
inductive Nearest (disk : Disk) : Path → Path → Prop where
  | here {folder : Path} :
      disk.has (Path.under folder ".git") = true → Nearest disk folder folder
  | above {folder parent root : Path} :
      disk.has (Path.under folder ".git") = false → Path.parent? folder = some parent →
        Nearest disk parent root → Nearest disk folder root

/-- The ascent has fuel for all folders above, as each is shorter than the one before. -/
theorem gitRoot?_eq_some_iff {disk : Disk} {fuel : Nat} {folder root : Path}
    (h : folder.length < fuel) :
    gitRoot? disk fuel folder = some root ↔ Nearest disk folder root := by
  induction fuel generalizing folder with
  | zero => exact absurd h (Nat.not_lt_zero _)
  | succ fuel ih =>
    rw [gitRoot?]
    -- What holds at the folder decides which of the two constructors can apply.
    cases hhere : disk.has (Path.under folder ".git") with
    | true =>
      constructor
      · rintro ⟨⟩
        exact .here hhere
      · intro hnearest
        cases hnearest with
        | here => rfl
        | above hnot => rw [hhere] at hnot; cases hnot
    | false =>
      rw [if_neg Bool.false_ne_true]
      cases hparent : Path.parent? folder with
      | none =>
        refine iff_of_false (fun h => nomatch h) fun hnearest => ?_
        cases hnearest with
        | here hholds => rw [hhere] at hholds; cases hholds
        | above _ hup => rw [hparent] at hup; cases hup
      | some parent =>
        have hshorter := Path.length_parent?_lt hparent
        rw [Option.bind_some, ih (by omega)]
        constructor
        · exact .above hhere hparent
        · intro hnearest
          cases hnearest with
          | here hholds => rw [hhere] at hholds; cases hholds
          | above _ hup hrest =>
            rw [hparent] at hup
            cases hup
            exact hrest

/-! ### The sources -/

/-- The place of a source in the order of precedence. -/
def Source.rank : Source → Nat
  | .defaults => 0
  | .gitRoot _ => 1
  | .localFile _ => 2
  | .overrideFile _ => 3
  | .environment => 4

/-- The sources that are called for, in the order of their precedence. -/
structure Called (disk : Disk) (workingDir : Path) (overridePath : Option Path)
    (vars : Layer.Variables) (sources : List Source) : Prop where
  ascending : (sources.map Source.rank).Pairwise (· < ·)
  defaults : .defaults ∈ sources
  gitRoot : ∀ path, .gitRoot path ∈ sources ↔
    (∃ root, Nearest disk workingDir root ∧ path = Path.under root fileName) ∧
      disk.has path = true ∧ Path.alike path (Path.under workingDir fileName) = false ∧
      ∀ other ∈ overridePath, Path.alike path other = false
  localFile : ∀ path, .localFile path ∈ sources ↔
    path = Path.under workingDir fileName ∧ disk.has path = true ∧
      ∀ other ∈ overridePath, Path.alike path other = false
  overrideFile : ∀ path, .overrideFile path ∈ sources ↔ overridePath = some path
  environment : .environment ∈ sources ↔ ∃ name ∈ Layer.variableNames,
    ∃ value, vars.lookup name = some value ∧ Text.allBlank value = false
  distinct : (sources.filterMap Source.path?).Pairwise fun p q => Path.alike p q = false

section Called

variable {disk : Disk} {workingDir : Path} {overridePath : Option Path} {vars : Layer.Variables}

/-- The file at the root of the repository, if it is applied. -/
def rootFile? (disk : Disk) (workingDir : Path) (overridePath : Option Path) : Option Path :=
  ((gitRoot? disk (workingDir.length + 1) workingDir).map (Path.under · fileName)).filter
    fun path => disk.has path && !overridePath.any (Path.alike path) &&
      !Path.alike path (Path.under workingDir fileName)

/-- The file in the working directory, if it is applied. -/
def ownFile? (disk : Disk) (workingDir : Path) (overridePath : Option Path) : Option Path :=
  (some (Path.under workingDir fileName)).filter
    fun path => disk.has path && !overridePath.any (Path.alike path)

theorem files_eq : files disk workingDir overridePath =
    ((rootFile? disk workingDir overridePath).map .gitRoot).toList ++
      ((ownFile? disk workingDir overridePath).map .localFile).toList ++
      (overridePath.map .overrideFile).toList := by
  unfold files rootFile? ownFile?
  dsimp only [Option.filter]
  congr 2
  split <;> rfl

theorem any_alike_eq_false_iff {path : Path} :
    overridePath.any (Path.alike path) = false ↔
      ∀ other ∈ overridePath, Path.alike path other = false := by
  cases overridePath <;> simp

theorem rootFile?_eq_some_iff {path : Path} :
    rootFile? disk workingDir overridePath = some path ↔
      (∃ root, Nearest disk workingDir root ∧ path = Path.under root fileName) ∧
        disk.has path = true ∧ Path.alike path (Path.under workingDir fileName) = false ∧
        ∀ other ∈ overridePath, Path.alike path other = false := by
  unfold rootFile?
  rw [Option.filter_eq_some_iff, Option.map_eq_some_iff, ← any_alike_eq_false_iff]
  simp only [gitRoot?_eq_some_iff (Nat.lt_succ_self _), Bool.and_eq_true, Bool.not_eq_true',
    and_assoc]
  refine and_congr (exists_congr fun root => and_congr_right fun _ => eq_comm) ?_
  exact and_congr_right fun _ => and_comm

theorem ownFile?_eq_some_iff {path : Path} :
    ownFile? disk workingDir overridePath = some path ↔
      path = Path.under workingDir fileName ∧ disk.has path = true ∧
        ∀ other ∈ overridePath, Path.alike path other = false := by
  unfold ownFile?
  rw [Option.filter_eq_some_iff, ← any_alike_eq_false_iff, Option.some_inj, Bool.and_eq_true,
    Bool.not_eq_true']
  exact and_congr_left fun _ => eq_comm

/-- The paths of the files that are applied. -/
theorem filterMap_files : (files disk workingDir overridePath).filterMap Source.path? =
    (rootFile? disk workingDir overridePath).toList ++
      (ownFile? disk workingDir overridePath).toList ++ overridePath.toList := by
  rw [files_eq, List.filterMap_append, List.filterMap_append]
  congr 1
  · congr 1
    · cases rootFile? disk workingDir overridePath <;> rfl
    · cases ownFile? disk workingDir overridePath <;> rfl
  · cases overridePath <;> rfl

theorem pairwise_toList {R : Path → Path → Prop} (o : Option Path) : o.toList.Pairwise R := by
  cases o with
  | none => exact .nil
  | some path => exact List.pairwise_singleton R path

theorem distinct_files : ((files disk workingDir overridePath).filterMap Source.path?).Pairwise
    fun p q => Path.alike p q = false := by
  rw [filterMap_files, List.pairwise_append, List.pairwise_append]
  refine ⟨⟨pairwise_toList _, pairwise_toList _, ?_⟩, pairwise_toList _, ?_⟩
  · intro p hp q hq
    obtain ⟨-, -, hown, -⟩ := rootFile?_eq_some_iff.1 (Option.mem_toList.1 hp)
    obtain ⟨rfl, -⟩ := ownFile?_eq_some_iff.1 (Option.mem_toList.1 hq)
    exact hown
  · intro p hp other hother
    have hother := Option.mem_toList.1 hother
    rcases List.mem_append.1 hp with hp | hp
    · obtain ⟨-, -, -, hothers⟩ := rootFile?_eq_some_iff.1 (Option.mem_toList.1 hp)
      exact hothers other hother
    · obtain ⟨-, -, hothers⟩ := ownFile?_eq_some_iff.1 (Option.mem_toList.1 hp)
      exact hothers other hother

theorem map_rank_sublist {β : Type} (f : β → Source) {k : Nat} (h : ∀ b, (f b).rank = k)
    (o : Option β) : ((o.map f).toList.map Source.rank).Sublist [k] := by
  cases o with
  | none => exact List.nil_sublist _
  | some b => exact h b ▸ List.Sublist.refl [(f b).rank]

/-- All sources of settings. -/
def sourcesOf (disk : Disk) (workingDir : Path) (overridePath : Option Path)
    (vars : Layer.Variables) : List Source :=
  [.defaults] ++ files disk workingDir overridePath ++
    if (Layer.ofVariables workingDir vars).isEmpty then [] else [.environment]

theorem ascending_sourcesOf :
    ((sourcesOf disk workingDir overridePath vars).map Source.rank).Pairwise (· < ·) := by
  have hranks : ((sourcesOf disk workingDir overridePath vars).map Source.rank).Sublist
      ([0] ++ ([1] ++ [2] ++ [3]) ++ [4]) := by
    unfold sourcesOf
    rw [files_eq]
    simp only [List.map_append]
    refine ((List.Sublist.refl _).append (((?_ : List.Sublist _ _).append ?_).append ?_)).append ?_
    · exact map_rank_sublist .gitRoot (fun _ => rfl) _
    · exact map_rank_sublist .localFile (fun _ => rfl) _
    · exact map_rank_sublist .overrideFile (fun _ => rfl) _
    · split
      · exact List.nil_sublist _
      · exact List.Sublist.refl _
  exact List.Pairwise.sublist hranks (by decide)

theorem mem_sourcesOf {source : Source} :
    source ∈ sourcesOf disk workingDir overridePath vars ↔
      source = .defaults ∨
      (∃ path, rootFile? disk workingDir overridePath = some path ∧ .gitRoot path = source) ∨
      (∃ path, ownFile? disk workingDir overridePath = some path ∧ .localFile path = source) ∨
      (∃ path, overridePath = some path ∧ .overrideFile path = source) ∨
      (Layer.ofVariables workingDir vars).isEmpty = false ∧ source = .environment := by
  unfold sourcesOf
  rw [files_eq]
  simp only [List.mem_append, List.mem_singleton, Option.mem_toList, Option.map_eq_some_iff,
    or_assoc]
  split <;> simp [*]

theorem called_sourcesOf :
    Called disk workingDir overridePath vars (sourcesOf disk workingDir overridePath vars) where
  ascending := ascending_sourcesOf
  defaults := mem_sourcesOf.2 (.inl rfl)
  gitRoot path := by
    rw [← rootFile?_eq_some_iff]
    simp [mem_sourcesOf]
  localFile path := by
    rw [← ownFile?_eq_some_iff]
    simp [mem_sourcesOf]
  overrideFile path := by
    simp [mem_sourcesOf]
  environment := by
    rw [← Layer.isEmpty_ofVariables_eq_false_iff workingDir]
    simp [mem_sourcesOf]
  distinct := by
    unfold sourcesOf
    rw [List.filterMap_append, List.filterMap_append]
    have hend : (if (Layer.ofVariables workingDir vars).isEmpty then []
        else [Source.environment]).filterMap Source.path? = [] := by
      split <;> rfl
    rw [hend, List.append_nil]
    exact distinct_files

end Called

end Scribe.Config
