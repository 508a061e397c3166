import Mathlib.Data.List.Nodup
import Scribe.Proofs.Store.Identity

/-!
# Folders by name

A name stands for the folder of that name under the root, and no name for the root itself
(`folderFor?`). Two facts keep these apart: the folders carry different numbers (`FoldersNumbered`),
so that two names never stand for one folder (`folderFor?_injective`); and a store only adds folders
at the end, so that a name which stands for a folder goes on to do so (`folderFor?_of_prefix`).
-/

namespace Scribe.Store.Memory

variable {m m' : Memory} {n k : Nat} {root id : String}

/-- No two folders share a parent and a name. -/
def Unshared (m : Memory) : Prop := (m.folders.map fun f => (f.parent, f.name)).Nodup

/-! ### Numbered folders -/

/-- The folders of a store carry different numbers from 1 to `n`. -/
structure FoldersNumbered (n : Nat) (m : Memory) : Prop where
  numbered : ∀ id ∈ m.folders.map (·.id), ∃ k, 0 < k ∧ k ≤ n ∧ id = numbered "folder" k
  distinct : (m.folders.map (·.id)).Nodup

/-- A step that draws `k` ids, the first of them perhaps for a new folder. -/
inductive Founds (m m' : Memory) : Nat → Prop where
  | none {k : Nat} : m'.folders = m.folders → Founds m m' k
  | folder {k : Nat} {f : Folder} : f.id = numbered "folder" (m.clock + 1).toNat →
      m'.folders = m.folders ++ [f] → Founds m m' (k + 1)

/-- What comes behind the new folder may draw more ids. -/
theorem Founds.mono {m₁ : Memory} {j : Nat} (h : Founds m m₁ k) (hfolders : m'.folders = m₁.folders)
    (hk : k ≤ j) : Founds m m' j := by
  cases h with
  | none hsame => exact .none (hfolders.trans hsame)
  | folder hid hadded =>
    obtain ⟨i, rfl⟩ := Nat.exists_eq_add_of_lt hk
    exact .folder hid (hfolders.trans hadded)

theorem FoldersNumbered.empty : FoldersNumbered 0 .empty :=
  ⟨(Series.nil "folder").numbered, List.nodup_nil⟩

theorem FoldersNumbered.series (h : FoldersNumbered n m) :
    Series "folder" n (m.folders.map (·.id)) :=
  ⟨h.numbered, h.distinct⟩

/-- The step of the numbering. -/
theorem FoldersNumbered.step (h : FoldersNumbered n m) (hclock : m.clock = UInt32.ofNat n)
    (hfounds : Founds m m' k) (hlt : n + k < UInt32.size) : FoldersNumbered (n + k) m' := by
  have hseries : Series "folder" (n + k) (m'.folders.map (·.id)) := by
    cases hfounds with
    | none hfolders =>
      rw [hfolders]
      exact h.series.mono (Nat.le_add_right n k)
    | @folder k f hid hfolders =>
      have hnew : (m.clock + 1).toNat = n + 1 := by
        rw [hclock]
        change (UInt32.ofNat n + UInt32.ofNat 1).toNat = _
        rw [← UInt32.ofNat_add, UInt32.toNat_ofNat_of_lt' (by omega)]
      rw [hfolders, List.map_append, List.map_singleton, hid, hnew]
      exact h.series.append (Nat.lt_succ_self n) (by omega)
  exact ⟨hseries.numbered, hseries.distinct⟩

/-- A folder is the only one with its id. -/
theorem FoldersNumbered.eq_of_id (h : FoldersNumbered n m) {f g : Folder} (hf : f ∈ m.folders)
    (hg : g ∈ m.folders) (hid : f.id = g.id) : f = g :=
  List.inj_on_of_nodup_map h.distinct hf hg hid

/-! ### Names -/

/-- The folder with a name under the root. -/
def folderNamed? (m : Memory) (root name : String) : Option Folder :=
  m.folders.find? fun f => f.parent == root && f.name == name

/-- The folder that a name stands for; no name stands for the root. -/
def folderFor? (m : Memory) (root : String) : Option String → Option String
  | none => some root
  | some name => (m.folderNamed? root name).map (·.id)

theorem folderNamed?_eq_some {name : String} {f : Folder} (h : m.folderNamed? root name = some f) :
    f ∈ m.folders ∧ f.parent = root ∧ f.name = name := by
  have htest := List.find?_some h
  simp only [Bool.and_eq_true, beq_iff_eq] at htest
  exact ⟨List.mem_of_find?_eq_some h, htest.1, htest.2⟩

theorem folderNamed?_eq_none {name : String} (h : m.folderNamed? root name = none) :
    ∀ f ∈ m.folders, f.parent = root → f.name ≠ name := by
  intro f hf hparent hname
  have htest := List.find?_eq_none.1 h f hf
  simp [hparent, hname] at htest

/-- A name goes on to stand for a folder. -/
theorem folderFor?_of_prefix (h : m.folders <+: m'.folders) {name : Option String}
    (hid : m.folderFor? root name = some id) : m'.folderFor? root name = some id := by
  cases name with
  | none => exact hid
  | some name =>
    obtain ⟨f, hf, hname⟩ := Option.map_eq_some_iff.1 hid
    obtain ⟨added, hadded⟩ := h
    have hfound : m'.folderNamed? root name = some f := by
      rw [folderNamed?] at hf
      rw [folderNamed?, ← hadded, List.find?_append, hf, Option.some_or]
    rw [folderFor?, hfound, Option.map_some, hname]

/-- Two names stand for two folders, if the root is none of the folders that the store creates. -/
theorem folderFor?_injective (h : FoldersNumbered n m) (hlt : n < UInt32.size)
    (hroot : ∀ k, 0 < k → k < UInt32.size → root ≠ numbered "folder" k) {a b : Option String}
    (ha : m.folderFor? root a = some id) (hb : m.folderFor? root b = some id) : a = b := by
  have hfound : ∀ {name : String}, m.folderFor? root (some name) = some id →
      ∃ f ∈ m.folders, f.name = name ∧ f.id = id := by
    intro name hname
    obtain ⟨f, hf, hid⟩ := Option.map_eq_some_iff.1 hname
    obtain ⟨hmem, -, hname⟩ := folderNamed?_eq_some hf
    exact ⟨f, hmem, hname, hid⟩
  have hother : ∀ f ∈ m.folders, f.id ≠ root := by
    intro f hf hid
    obtain ⟨k, hpos, hk, hnumbered⟩ := h.numbered _ (List.mem_map_of_mem hf)
    exact hroot k hpos (by omega) (hid ▸ hnumbered)
  cases a with
  | none =>
    cases ha
    cases b with
    | none => rfl
    | some b =>
      obtain ⟨f, hf, -, hid⟩ := hfound hb
      exact absurd hid (hother f hf)
  | some a =>
    obtain ⟨f, hf, rfl, hid⟩ := hfound ha
    cases b with
    | none =>
      cases hb
      exact absurd hid (hother f hf)
    | some b =>
      obtain ⟨g, hg, rfl, hid'⟩ := hfound hb
      rw [h.eq_of_id hf hg (hid.trans hid'.symm)]

end Scribe.Store.Memory
