import Scribe.Files.Tree
import Scribe.Proofs.Files.Path

/-!
# Where paths lead

A path is followed part by part, so that what is behind a part depends only on the place to which
the parts in front of it lead (`follow_append`), and parts that do not count lead nowhere else
(`follow_filter_counts`). Two consequences: paths that are alike lead to the same place, if they
lead anywhere (`locate_eq_of_alike`); and the parent of the path of a file leads to the folder which
holds the file, so that paths below the parents of two paths of one file lead to the same places
(`SameFile.locate_under`).
-/

namespace Scribe.Files

/-! ### Parts of a path -/

/-- A part of a text that is split at a mark holds no mark, and nothing that the text does not hold. -/
theorem mem_of_mem_splitOn {x c : Char} {cs part : List Char} (h : part ∈ cs.splitOn x)
    (hc : c ∈ part) : c ≠ x ∧ c ∈ cs := by
  induction cs generalizing part with
  | nil =>
    simp at h
    simp [h] at hc
  | cons d cs ih =>
    rw [List.splitOn_cons_eq_if_modifyHead] at h
    split at h
    · rcases List.mem_cons.1 h with rfl | h
      · cases hc
      · exact (ih h hc).imp_right (List.mem_cons_of_mem d)
    · next hd =>
      obtain ⟨first, rest, hsplit⟩ := List.exists_cons_of_ne_nil (List.splitOn_ne_nil x cs)
      rw [hsplit, List.modifyHead_cons, List.mem_cons] at h
      rcases h with rfl | h
      · rcases List.mem_cons.1 hc with rfl | hc
        · exact ⟨by simpa using hd, List.mem_cons_self⟩
        · exact (ih (hsplit ▸ List.mem_cons_self) hc).imp_right (List.mem_cons_of_mem d)
      · exact (ih (hsplit ▸ List.mem_cons_of_mem first h) hc).imp_right (List.mem_cons_of_mem d)

namespace Path

variable {p q : Path} {part : String}

theorem parts_ne_nil (p : Path) : parts p ≠ [] := by
  simp [parts, List.splitOn_ne_nil]

theorem mem_of_mem_parts {c : Char} (h : part ∈ parts p) (hc : c ∈ part.toList) :
    c ≠ '/' ∧ c ∈ p.toList := by
  obtain ⟨cs, hcs, rfl⟩ := List.mem_map.1 h
  rw [String.toList_ofList] at hc
  exact mem_of_mem_splitOn hcs hc

/-- The parts of two texts with a slash between them. -/
theorem parts_append_slash (p q : Path) : parts (p ++ "/" ++ q) = parts p ++ parts q := by
  have hslash : (p ++ "/" ++ q).toList = p.toList ++ '/' :: q.toList := by simp
  rw [parts, hslash, List.splitOn_append_cons_self, List.map_append]
  rfl

/-- Texts without slashes are the parts of the path that they make up. -/
theorem parts_intercalate {ps : List String} (hne : ps ≠ [])
    (h : ∀ part ∈ ps, '/' ∉ part.toList) : parts ("/".intercalate ps) = ps := by
  rw [parts, String.toList_intercalate]
  have hsplit : (['/'].intercalate (ps.map String.toList)).splitOn '/' = ps.map String.toList :=
    List.splitOn_intercalate '/' (by simpa using h) (by simpa using hne)
  show ((['/'].intercalate (ps.map String.toList)).splitOn '/').map String.ofList = ps
  rw [hsplit]
  simp

/-- An absolute path has an empty part at its start, and further ones. -/
theorem isAbsolute_iff : p.isAbsolute = true ↔ ∃ rest, rest ≠ [] ∧ parts p = "" :: rest := by
  have hiff : p.isAbsolute = true ↔ ∃ q, p = "" ++ "/" ++ q := by
    have hhead : p.isAbsolute = true ↔ p.toList.head? = some '/' := by simp [isAbsolute]
    rw [hhead, List.head?_eq_some_iff]
    constructor
    · rintro ⟨cs, hcs⟩
      refine ⟨.ofList cs, ?_⟩
      rw [← String.toList_inj]
      simp [hcs]
    · rintro ⟨q, rfl⟩
      exact ⟨q.toList, by simp⟩
  rw [hiff]
  constructor
  · rintro ⟨q, rfl⟩
    exact ⟨parts q, parts_ne_nil q, parts_append_slash "" q⟩
  · rintro ⟨rest, hrest, hparts⟩
    obtain ⟨next, rest, rfl⟩ := List.exists_cons_of_ne_nil hrest
    refine ⟨"/".intercalate (next :: rest), ?_⟩
    rw [← intercalate_parts p, hparts, String.intercalate_cons_cons]

/-- What is below an absolute path is absolute. -/
theorem isAbsolute_under (h : p.isAbsolute = true) (q : Path) : (under p q).isAbsolute = true := by
  obtain ⟨cs, hcs⟩ : ∃ cs, p.toList = '/' :: cs := List.head?_eq_some_iff.1 (by
    simpa [isAbsolute] using h)
  unfold under
  split
  · next hq => exact hq
  · split
    · next hlast => simp [hcs] at hlast
    · simp [isAbsolute, hcs]
    · simp [isAbsolute, hcs]

theorem mem_of_mem_intercalate {ps : List String} {c : Char}
    (h : c ∈ ("/".intercalate ps).toList) : c = '/' ∨ ∃ part ∈ ps, c ∈ part.toList := by
  induction ps with
  | nil => simp at h
  | cons part ps ih =>
    cases ps with
    | nil =>
      rw [String.intercalate_singleton] at h
      exact .inr ⟨part, List.mem_cons_self, h⟩
    | cons next ps =>
      rw [String.intercalate_cons_cons, String.toList_append, String.toList_append,
        List.mem_append, List.mem_append] at h
      rcases h with (h | h) | h
      · exact .inr ⟨part, List.mem_cons_self, h⟩
      · exact .inl (List.mem_singleton.1 h)
      · rcases ih h with hslash | ⟨part', hpart', hc⟩
        · exact .inl hslash
        · exact .inr ⟨part', List.mem_cons_of_mem part hpart', hc⟩

theorem dropIdle_ne_nil {ps : List String} (h : ps ≠ []) : dropIdle true ps ≠ [] := by
  induction ps with
  | nil => exact absurd rfl h
  | cons part before ih =>
    rw [dropIdle]
    split
    · exact List.cons_ne_nil part before
    · next hdrop =>
      apply ih
      rintro rfl
      simp at hdrop

/-- What is dropped at the end of a path does not count. -/
theorem exists_dropIdle (rooted : Bool) (ps : List String) :
    ∃ idle, ps = idle ++ dropIdle rooted ps ∧ ∀ part ∈ idle, counts part = false := by
  induction ps with
  | nil => exact ⟨[], rfl, by simp⟩
  | cons part before ih =>
    rw [dropIdle]
    split
    · exact ⟨[], rfl, by simp⟩
    · next hdrop =>
      obtain ⟨idle, hidle, hall⟩ := ih
      refine ⟨part :: idle, by rw [List.cons_append, ← hidle], ?_⟩
      simp only [Bool.or_eq_true, not_or, Bool.not_eq_true] at hdrop
      simpa [hdrop.1] using hall

/-- The parent of an absolute path that ends in a name has the parts in front of the name, but for
those at their end which do not count. -/
theorem parent?_of_parts {front : List String} {name : String} (habs : p.isAbsolute = true)
    (hparts : parts p = "" :: front ++ [name]) (hcounts : counts name = true) :
    ∃ more idle, front = more ++ idle ∧ (∀ part ∈ idle, counts part = false) ∧
      parent? p = some (if more = [] then "/" else "/".intercalate ("" :: more)) := by
  obtain ⟨idle, hidle, hall⟩ := exists_dropIdle true ("" :: front).reverse
  have hne : dropIdle true ("" :: front).reverse ≠ [] := dropIdle_ne_nil (by simp)
  obtain ⟨first, more, hkept⟩ := List.exists_cons_of_ne_nil (List.reverse_ne_nil_iff.2 hne)
  have hsplit : "" :: front = first :: more ++ idle.reverse := by
    rw [← hkept, ← List.reverse_append, ← hidle, List.reverse_reverse]
  obtain ⟨rfl, hfront⟩ := List.cons.inj hsplit
  rw [List.reverse_eq_iff] at hkept
  have hlast : dropIdle true (parts p).reverse = name :: ("" :: front).reverse := by
    rw [hparts, List.reverse_append, List.reverse_singleton, List.singleton_append, dropIdle,
      hcounts, Bool.true_or, if_pos rfl]
  refine ⟨more, idle.reverse, hfront, by simpa using hall, ?_⟩
  rw [parent?, habs, hlast]
  split
  · next heq => cases heq
  · next heq => simp at heq
  · next before heq =>
    obtain rfl := (List.cons.inj heq).2
    rw [hkept]
    split
    · next hroot =>
      rw [if_pos (by simpa using hroot)]
    · next hroot =>
      rw [if_neg (by simpa using hroot), List.reverse_reverse]

/-- The parent of an absolute path is absolute. -/
theorem isAbsolute_parent? (h : p.isAbsolute = true) (hparent : parent? p = some q) :
    q.isAbsolute = true := by
  obtain ⟨rest, -, hparts⟩ := isAbsolute_iff.1 h
  rw [parent?, h] at hparent
  split at hparent
  · cases hparent
  · cases hparent
  · next part before hnonempty hleft =>
    -- What is left of the parts, the last one first, still ends with the empty part of the root.
    have hsuffix : before <:+ rest.reverse ++ [""] := by
      have hdropped := dropIdle_suffix true (parts p).reverse
      rw [hleft, hparts, List.reverse_cons] at hdropped
      exact (List.suffix_cons part before).trans hdropped
    have hne : before ≠ [] := by
      rintro rfl
      exact hnonempty rfl
    obtain ⟨more, hmore⟩ : ∃ more, (dropIdle true before).reverse = "" :: more := by
      obtain ⟨front, hfront⟩ := (dropIdle_suffix true before).trans hsuffix
      rw [← List.dropLast_concat_getLast (dropIdle_ne_nil hne), ← List.append_assoc] at hfront
      obtain ⟨-, hroot⟩ := List.append_inj' hfront rfl
      rw [← List.dropLast_concat_getLast (dropIdle_ne_nil hne), hroot]
      exact ⟨(dropIdle true before).dropLast.reverse, by simp⟩
    split at hparent
    · cases hparent
      rfl
    · next hother =>
      cases hparent
      rw [hmore]
      cases more with
      | nil => exact absurd (by simpa using congrArg List.reverse hmore) hother
      | cons next more =>
        rw [String.intercalate_cons_cons]
        simp [isAbsolute]

end Path

/-! ### Following parts -/

namespace Tree

open Scribe.Files.Path

/-- One part leads from a place to another. A file leads nowhere. -/
inductive Step : Place → String → Place → Prop where
  | idle {way : List (String × Tree)} {entries : List (String × Tree)} {part : String} :
      counts part = false → Step ⟨way, .folder entries⟩ part ⟨way, .folder entries⟩
  | root {entries : List (String × Tree)} : Step ⟨[], .folder entries⟩ ".." ⟨[], .folder entries⟩
  | up {way entries : List (String × Tree)} {name : String} {outer : Tree} :
      Step ⟨(name, outer) :: way, .folder entries⟩ ".." ⟨way, outer⟩
  | enter {way entries : List (String × Tree)} {name : String} {inner : Tree} :
      counts name = true → name ≠ ".." → entries.lookup name = some inner →
      Step ⟨way, .folder entries⟩ name ⟨(name, .folder entries) :: way, inner⟩

variable {place there : Place} {part : String} {parts : List String} {d : Disk} {p q : Path}

theorem counts_eq_false_iff : counts part = false ↔ part = "" ∨ part = "." := by
  rw [counts, Bool.and_eq_false_iff]
  simp

/-- The parts of a path are followed one by one. -/
theorem follow_cons (place : Place) (part : String) (rest : List String) :
    follow place (part :: rest) = (follow place [part]).bind (follow · rest) := by
  rw [follow, follow]
  split
  · rfl
  · split
    · rfl
    · split
      · split <;> rfl
      · split <;> rfl

theorem follow_append (place : Place) (front back : List String) :
    follow place (front ++ back) = (follow place front).bind (follow · back) := by
  induction front generalizing place with
  | nil => rfl
  | cons part front ih =>
    rw [List.cons_append, follow_cons, follow_cons place part front]
    cases follow place [part] with
    | error fault => rfl
    | ok next => exact ih next

theorem step_of_follow (h : follow place [part] = .ok there) : Step place part there := by
  obtain ⟨way, here⟩ := place
  cases here with
  | file => cases h
  | folder entries =>
    rw [follow] at h
    dsimp only at h
    split at h
    · next hidle =>
      cases h
      exact .idle (counts_eq_false_iff.2 hidle)
    · next hcounts =>
      split at h
      · next hup =>
        subst hup
        cases way with
        | nil => cases h; exact .root
        | cons entry way => cases h; exact .up
      · next hname =>
        cases hinner : entries.lookup part with
        | none =>
          rw [hinner] at h
          cases h
        | some inner =>
          rw [hinner] at h
          cases h
          refine .enter ?_ hname hinner
          rwa [← Bool.not_eq_false, counts_eq_false_iff]

theorem follow_of_step (h : Step place part there) : follow place [part] = .ok there := by
  cases h with
  | idle hidle =>
    rw [follow]
    dsimp only
    rw [if_pos (counts_eq_false_iff.1 hidle), follow]
  | root => rfl
  | up => rfl
  | enter hcounts hname hinner =>
    rw [← Bool.not_eq_false, counts_eq_false_iff] at hcounts
    rw [follow]
    dsimp only
    rw [if_neg hcounts, if_neg hname, hinner]
    rfl

theorem follow_singleton : follow place [part] = .ok there ↔ Step place part there :=
  ⟨step_of_follow, follow_of_step⟩

theorem follow_cons_eq_ok_iff : follow place (part :: parts) = .ok there ↔
    ∃ next, Step place part next ∧ follow next parts = .ok there := by
  simp only [← follow_singleton]
  rw [follow_cons]
  cases follow place [part] with
  | error fault => simp [Except.bind]
  | ok next => simp [Except.bind]

/-- Parts that do not count lead nowhere else. -/
theorem follow_filter_counts (h : follow place parts = .ok there) :
    follow place (parts.filter counts) = .ok there := by
  induction parts generalizing place with
  | nil => exact h
  | cons part parts ih =>
    obtain ⟨next, hstep, hrest⟩ := follow_cons_eq_ok_iff.1 h
    cases hcounts : counts part with
    | false =>
      rw [List.filter_cons_of_neg (by simp [hcounts])]
      cases hstep with
      | idle => exact ih hrest
      | root => cases hcounts
      | up => cases hcounts
      | enter h => rw [hcounts] at h; cases h
    | true =>
      rw [List.filter_cons_of_pos hcounts]
      exact follow_cons_eq_ok_iff.2 ⟨next, hstep, ih hrest⟩

/-- Parts that do not count can be left out behind others. -/
theorem follow_of_append_idle {idle : List String} (hidle : ∀ part ∈ idle, counts part = false)
    (h : follow place (parts ++ idle) = .ok there) : follow place parts = .ok there := by
  rw [follow_append] at h
  cases hfront : follow place parts with
  | error fault =>
    rw [hfront] at h
    cases h
  | ok next =>
    rw [hfront] at h
    have hstay := follow_filter_counts (show follow next idle = .ok there from h)
    rwa [List.filter_eq_nil_iff.2 (by simpa using hidle)] at hstay

/-- The way to a place goes through folders. -/
def Place.InFolders (place : Place) : Prop :=
  ∀ entry ∈ place.way, ∃ entries, entry.2 = .folder entries

theorem Step.inFolders (h : Step place part there) (hplace : place.InFolders) :
    there.InFolders := by
  cases h with
  | idle => exact hplace
  | root => exact hplace
  | up => exact fun entry hentry => hplace entry (List.mem_cons_of_mem _ hentry)
  | enter => exact List.forall_mem_cons.2 ⟨⟨_, rfl⟩, hplace⟩

theorem inFolders_follow (h : follow place parts = .ok there) (hplace : place.InFolders) :
    there.InFolders := by
  induction parts generalizing place with
  | nil =>
    cases h
    exact hplace
  | cons part parts ih =>
    obtain ⟨next, hstep, hrest⟩ := follow_cons_eq_ok_iff.1 h
    exact ih hrest (hstep.inFolders hplace)

/-- **A path to a file ends in the name of the file**, and what is in front of the name leads to the
folder which holds the file. -/
theorem exists_holder {way : List (String × Tree)} {content : List UInt8} (hparts : parts ≠ [])
    (h : follow place parts = .ok ⟨way, .file content⟩) (hplace : place.InFolders) :
    ∃ front name entries rest, parts = front ++ [name] ∧ counts name = true ∧
      way = (name, .folder entries) :: rest ∧
      follow place front = .ok ⟨rest, .folder entries⟩ := by
  obtain ⟨front, name, rfl⟩ : ∃ front name, parts = front ++ [name] :=
    ⟨_, _, (List.dropLast_concat_getLast hparts).symm⟩
  rw [follow_append] at h
  cases hfront : follow place front with
  | error fault =>
    rw [hfront] at h
    cases h
  | ok next =>
    rw [hfront] at h
    have hnext := inFolders_follow hfront hplace
    cases follow_singleton.1 (show follow next [name] = _ from h) with
    | enter hcounts hname hinner => exact ⟨front, name, _, _, rfl, hcounts, rfl, hfront⟩
    | up =>
      -- Two dots lead to a folder.
      obtain ⟨entries, hentries⟩ := hnext _ List.mem_cons_self
      cases hentries

end Tree

/-! ### Places of a disk -/

open Scribe.Files.Tree

variable {disk : Disk} {p q base rel : Path} {place there : Place}

namespace Path

theorem components_of_isAbsolute (h : p.isAbsolute = true) :
    components p = "/" :: (parts p).filter counts := by
  obtain ⟨rest, -, hrest⟩ := isAbsolute_iff.1 h
  rw [components, hrest]
  simp [h, counts]

/-- The first part of a relative path is a component, unless nothing is written. -/
theorem components_of_relative (h : p.isAbsolute = false) :
    (parts p = [""] ∧ components p = []) ∨
      ∃ first rest, parts p = first :: rest ∧ components p = first :: rest.filter counts := by
  obtain ⟨first, rest, hparts⟩ := List.exists_cons_of_ne_nil (parts_ne_nil p)
  have hcomponents : components p = (if first = "" then [] else [first]) ++ rest.filter counts := by
    rw [components, hparts]
    simp [h]
  by_cases hfirst : first = ""
  · subst hfirst
    cases rest with
    | nil => exact .inl ⟨hparts, by rw [hcomponents]; rfl⟩
    | cons next rest =>
      rw [isAbsolute_iff.2 ⟨next :: rest, List.cons_ne_nil next rest, hparts⟩] at h
      cases h
  · exact .inr ⟨first, rest, hparts, by rw [hcomponents, if_neg hfirst]; rfl⟩

/-- The root is no component of a relative path. -/
theorem components_ne_root (h : p.isAbsolute = false) (rest : List String) :
    components p ≠ "/" :: rest := by
  intro hroot
  rcases components_of_relative h with ⟨-, hnil⟩ | ⟨first, others, hparts, hcons⟩
  · rw [hnil] at hroot
    cases hroot
  · rw [hcons] at hroot
    cases (List.cons.inj hroot).1
    have hmem : "/" ∈ parts p := by simp [hparts]
    exact (mem_of_mem_parts hmem (List.mem_singleton_self '/')).1 rfl

/-- Paths that are alike both start at the root, or neither does, and the parts that count are the
same. -/
theorem eq_of_alike (h : alike p q = true) :
    p.isAbsolute = q.isAbsolute ∧ (parts p).filter counts = (parts q).filter counts := by
  have heq : components p = components q := by simpa [alike] using h
  cases hp : p.isAbsolute with
  | true =>
    rw [components_of_isAbsolute hp] at heq
    cases hq : q.isAbsolute with
    | true =>
      rw [components_of_isAbsolute hq] at heq
      exact ⟨rfl, List.tail_eq_of_cons_eq heq⟩
    | false => exact absurd heq.symm (components_ne_root hq _)
  | false =>
    cases hq : q.isAbsolute with
    | true =>
      rw [components_of_isAbsolute hq] at heq
      exact absurd heq (components_ne_root hp _)
    | false =>
      refine ⟨rfl, ?_⟩
      rcases components_of_relative hp with ⟨hparts, hcomp⟩ | ⟨first, rest, hparts, hcomp⟩
      · rcases components_of_relative hq with ⟨hparts', -⟩ | ⟨_, _, -, hcomp'⟩
        · rw [hparts, hparts']
        · rw [hcomp, hcomp'] at heq
          cases heq
      · rcases components_of_relative hq with ⟨-, hcomp'⟩ | ⟨first', rest', hparts', hcomp'⟩
        · rw [hcomp, hcomp'] at heq
          cases heq
        · rw [hcomp, hcomp'] at heq
          obtain ⟨rfl, hrest⟩ := List.cons.inj heq
          rw [hparts, hparts', List.filter_cons, List.filter_cons, hrest]

end Path

namespace Disk

/-- The parts in front of those of a path, on the way from the root. -/
def front? (disk : Disk) (p : Path) : Option (List String) :=
  if p.isAbsolute then some [] else disk.currentDir.map Path.parts

theorem exists_follow_of_locate (h : disk.locate p = .ok place) :
    ∃ front, disk.front? p = some front ∧
      follow ⟨[], disk.root⟩ (front ++ Path.parts p) = .ok place := by
  unfold locate at h
  split at h
  · cases h
  · split at h
    · cases h
    · split at h
      · next habs => exact ⟨[], if_pos habs, h⟩
      · next hrel =>
        cases hdir : disk.currentDir with
        | none =>
          rw [hdir] at h
          cases h
        | some base =>
          rw [hdir] at h
          exact ⟨Path.parts base, by rw [front?, if_neg hrel, hdir]; rfl, h⟩

theorem exists_locate (h : disk.has p = true) : ∃ place, disk.locate p = .ok place := by
  unfold has at h
  cases hp : disk.locate p with
  | error fault =>
    rw [hp] at h
    cases h
  | ok place => exact ⟨place, rfl⟩

/-- **Paths that are alike lead to the same place**, if they lead anywhere. -/
theorem locate_eq_of_alike (h : Path.alike p q = true) (hp : disk.locate p = .ok place)
    (hq : disk.locate q = .ok there) : place = there := by
  obtain ⟨habs, hcounts⟩ := Path.eq_of_alike h
  obtain ⟨front, hfront, hplace⟩ := exists_follow_of_locate hp
  obtain ⟨front', hfront', hthere⟩ := exists_follow_of_locate hq
  have hsame : front = front' := by
    rw [front?, habs] at hfront
    exact Option.some.inj (hfront.symm.trans hfront')
  have hplace := follow_filter_counts hplace
  have hthere := follow_filter_counts hthere
  rw [List.filter_append, hsame, hcounts, ← List.filter_append, hthere] at hplace
  cases hplace
  rfl

/-! ### The folder of a file -/

theorem locate_of_isAbsolute (h : p.isAbsolute = true) :
    disk.locate p =
      if '\x00' ∈ p.toList then .error .invalidName else follow ⟨[], disk.root⟩ (Path.parts p) := by
  have hne : p ≠ "" := by
    rintro rfl
    cases h
  simp [locate, h, hne]

/-- A path below another leads on from where the other one leads. -/
theorem locate_under (hbase : base.isAbsolute = true) (hplace : disk.locate base = .ok place)
    (hrel : rel.isAbsolute = false) :
    disk.locate (Path.under base rel) =
      if '\x00' ∈ rel.toList then .error .invalidName else follow place (Path.parts rel) := by
  obtain ⟨cs, hcs⟩ : ∃ cs, base.toList = '/' :: cs := List.head?_eq_some_iff.1 (by
    simpa [Path.isAbsolute] using hbase)
  rw [locate_of_isAbsolute hbase] at hplace
  split at hplace
  · cases hplace
  · next hnul =>
    -- The parts of the base lead to the place, also without an empty one at the end.
    have hsplit : ∃ front, Path.under base rel = front ++ "/" ++ rel ∧
        (∃ cs, (front ++ "/").toList = '/' :: cs) ∧ '\x00' ∉ front.toList ∧
        follow ⟨[], disk.root⟩ (Path.parts front) = .ok place := by
      unfold Path.under
      rw [if_neg (by simp [hrel])]
      split
      · next hlast => simp [hcs] at hlast
      · next hlast =>
        obtain ⟨cs', hcs'⟩ := List.getLast?_eq_some_iff.1 hlast
        have hslash : base = .ofList cs' ++ "/" := by
          rw [← String.toList_inj]
          simp [hcs']
        refine ⟨.ofList cs', by rw [hslash], ⟨cs, by rw [← hslash, hcs]⟩, ?_, ?_⟩
        · rw [hcs'] at hnul
          rw [String.toList_ofList]
          exact fun h => hnul (List.mem_append_left _ h)
        · have hidle : base = .ofList cs' ++ "/" ++ "" := by rw [hslash, String.append_empty]
          rw [hidle, Path.parts_append_slash] at hplace
          exact follow_of_append_idle (by simp [Path.parts, Path.counts]) hplace
      · exact ⟨base, rfl, ⟨cs ++ ['/'], by simp [hcs]⟩, hnul, hplace⟩
    obtain ⟨front, hunder, ⟨cs', hcs'⟩, hfront, hfollow⟩ := hsplit
    have hhead : (front ++ "/" ++ rel).isAbsolute = true := by
      rw [Path.isAbsolute, String.toList_append, hcs']
      rfl
    have hmem : '\x00' ∈ (front ++ "/" ++ rel).toList ↔ '\x00' ∈ rel.toList := by
      simp [hfront]
    rw [hunder, locate_of_isAbsolute hhead, Path.parts_append_slash, follow_append, hfollow]
    simp only [hmem]
    rfl

/-- **The parent of the path of a file leads to the folder that holds the file.** -/
theorem locate_parent {way : List (String × Tree)} {content : List UInt8}
    (habs : p.isAbsolute = true) (h : disk.locate p = .ok ⟨way, .file content⟩) :
    ∃ folder name entries rest, Path.parent? p = some folder ∧ folder.isAbsolute = true ∧
      way = (name, .folder entries) :: rest ∧
      disk.locate folder = .ok ⟨rest, .folder entries⟩ := by
  rw [locate_of_isAbsolute habs] at h
  split at h
  · cases h
  · next hnul =>
    obtain ⟨front, name, entries, rest, hparts, hcounts, hway, hfront⟩ :=
      exists_holder (Path.parts_ne_nil p) h (by simp [Place.InFolders])
    obtain ⟨others, hothers, hrooted⟩ := Path.isAbsolute_iff.1 habs
    -- In front of the name there is at least the empty part of the root.
    obtain ⟨front, rfl⟩ : ∃ front', front = "" :: front' := by
      rw [hrooted] at hparts
      cases front with
      | nil => exact absurd (List.tail_eq_of_cons_eq hparts) hothers
      | cons first front => exact ⟨front, by rw [(List.cons.inj hparts).1]⟩
    obtain ⟨more, idle, rfl, hall, hparent⟩ := Path.parent?_of_parts habs hparts hcounts
    rw [← List.cons_append] at hparts hfront
    have hfolder := follow_of_append_idle hall hfront
    cases more with
    | nil =>
      -- Only the root is left.
      refine ⟨"/", name, entries, rest, hparent, rfl, hway, ?_⟩
      rw [locate_of_isAbsolute rfl]
      have hroot : Path.parts "/" = [""] ++ [""] := rfl
      rw [if_neg (by simp), hroot, follow_append, hfolder]
      rfl
    | cons next more =>
      have hmem : ∀ part ∈ "" :: next :: more, part ∈ Path.parts p := by
        intro part hpart
        rw [hparts]
        exact List.mem_append_left _ (List.mem_append_left idle hpart)
      have hslash : ∀ part ∈ "" :: next :: more, '/' ∉ part.toList :=
        fun part hpart hc => (Path.mem_of_mem_parts (hmem part hpart) hc).1 rfl
      have hfolderParts := Path.parts_intercalate (List.cons_ne_nil _ _) hslash
      have hfolderAbs := Path.isAbsolute_iff.2 ⟨next :: more, List.cons_ne_nil _ _, hfolderParts⟩
      refine ⟨"/".intercalate ("" :: next :: more), name, entries, rest, hparent, hfolderAbs, hway,
        ?_⟩
      rw [locate_of_isAbsolute hfolderAbs, hfolderParts, if_neg, hfolder]
      intro hc
      rcases Path.mem_of_mem_intercalate hc with hc | ⟨part, hpart, hc⟩
      · cases hc
      · exact hnul (Path.mem_of_mem_parts (hmem part hpart) hc).2

/-- Two paths lead to one place. -/
def SameFile (disk : Disk) (p q : Path) : Prop :=
  ∃ place, disk.locate p = .ok place ∧ disk.locate q = .ok place

theorem SameFile.symm (h : disk.SameFile p q) : disk.SameFile q p := by
  obtain ⟨place, hp, hq⟩ := h
  exact ⟨place, hq, hp⟩

theorem SameFile.readText (h : disk.SameFile p q) : disk.readText p = disk.readText q := by
  obtain ⟨place, hp, hq⟩ := h
  simp only [Disk.readText, Disk.readBytes, hp, hq]

/-- Below the parents of two paths of one file, the same paths lead to the same places. -/
theorem SameFile.locate_under (h : disk.SameFile p q) (hp : p.isAbsolute = true)
    (hq : q.isAbsolute = true) {text : String} (hfile : disk.readText p = .ok text) (rel : Path) :
    disk.locate (Path.under ((Path.parent? p).getD ".") rel) =
      disk.locate (Path.under ((Path.parent? q).getD ".") rel) := by
  obtain ⟨⟨way, here⟩, hp', hq'⟩ := h
  cases here with
  | folder entries =>
    rw [Disk.readText, Disk.readBytes, hp'] at hfile
    cases hfile
  | file content =>
    obtain ⟨folder, name, entries, rest, hparent, habs, rfl, hfolder⟩ := locate_parent hp hp'
    obtain ⟨folder', _, _, _, hparent', habs', hway, hfolder'⟩ := locate_parent hq hq'
    cases hway
    rw [hparent, hparent', Option.getD_some, Option.getD_some]
    cases hrel : rel.isAbsolute with
    | true => rw [Path.under, Path.under, if_pos hrel, if_pos hrel]
    | false => rw [Disk.locate_under habs hfolder hrel, Disk.locate_under habs' hfolder' hrel]

end Disk

end Scribe.Files
