import Scribe.Proofs.Config.Precedence
import Scribe.Proofs.Files.Tree

/-!
# Files that are applied twice

Layers on top of each other form a band: merging is associative, the empty layer is neutral, and a
layer that comes a second time makes no difference to the first (`Layer.merge_merge_self`). So the
settings do not tell whether the file at the root of the repository or the file in the working
directory was skipped, where it is the file named by hand, or was applied and then once more
(`mergeFiles_filter`). All that shows is how that file was spelled, in the paths of credentials that
it gives relative to its folder (`Respelled`).
-/

namespace Scribe.Config

open Files

/-! ### Two spellings -/

/-- The folder of a settings file, from which relative paths in it start. -/
def folderOf (path : Path) : Path := (Path.parent? path).getD "."

/-- Two paths are equal, or the same relative path below one folder and below another. -/
def Respelled (folder folder' : Path) (o o' : Option Path) : Prop :=
  o = o' ∨ ∃ rel : Path, rel.isAbsolute = false ∧
    o = some (Path.under folder rel) ∧ o' = some (Path.under folder' rel)

/-- Credentials that differ at most in how relative paths are spelled. -/
structure Auth.Respelled (folder folder' : Path) (a a' : Auth) : Prop where
  key : a.key = a'.key
  keyFile : Config.Respelled folder folder' a.keyFile a'.keyFile
  token : a.token = a'.token
  tokenFile : Config.Respelled folder folder' a.tokenFile a'.tokenFile

/-- Layers that differ at most in how relative paths are spelled. -/
structure Layer.Respelled (folder folder' : Path) (l l' : Layer) : Prop where
  auth : l.auth.Respelled folder folder' l'.auth
  others : l' = { l with auth := l'.auth }

/-- Settings that differ at most in their sources and in how relative paths are spelled. -/
structure Respells (folder folder' : Path) (c c' : Config) : Prop where
  auth : c.auth.Respelled folder folder' c'.auth
  others : c' = { c with auth := c'.auth, sources := c'.sources }

variable {disk : Disk} {folder folder' p q : Path} {o o' : Option Path} {a a' : Auth}
  {l l' lower base top : Layer} {vars : Layer.Variables}

theorem respelled_map_under (folder folder' : Path) (o : Option Path) :
    Respelled folder folder' (o.map (Path.under folder)) (o.map (Path.under folder')) := by
  cases o with
  | none => exact .inl rfl
  | some path =>
    cases hrel : path.isAbsolute with
    | true =>
      refine .inl ?_
      simp only [Option.map_some, Path.under, if_pos hrel]
    | false => exact .inr ⟨path, hrel, rfl, rfl⟩

theorem Respelled.isNone_eq (h : Respelled folder folder' o o') : o.isNone = o'.isNone := by
  rcases h with rfl | ⟨rel, -, rfl, rfl⟩
  · rfl
  · rfl

namespace Auth

theorem respelled_refl (folder folder' : Path) (a : Auth) : a.Respelled folder folder' a :=
  ⟨rfl, .inl rfl, rfl, .inl rfl⟩

theorem Respelled.isEmpty_eq (h : a.Respelled folder folder' a') : a.isEmpty = a'.isEmpty := by
  rw [isEmpty, isEmpty, h.key, h.keyFile.isNone_eq, h.token, h.tokenFile.isNone_eq]

end Auth

namespace Layer

/-- A text is read into the same layer in every folder, but for the spelling of paths. -/
theorem ofFile_respelled {text : String} (h : ofFile folder text = .ok l) (folder' : Path) :
    ∃ l', ofFile folder' text = .ok l' ∧ l.Respelled folder folder' l' := by
  unfold ofFile at h ⊢
  split at h
  · cases h
  · next v _ =>
    split at h
    · cases h
    · next v hdecode =>
      cases h
      refine ⟨_, rfl, ⟨rfl, ?_, rfl, ?_⟩, rfl⟩
      · exact respelled_map_under folder folder' _
      · exact respelled_map_under folder folder' _

/-- A layer makes no difference below another spelling of itself. -/
theorem Respelled.merge_eq (h : l.Respelled folder folder' l') : l.merge l' = l' := by
  have hauth : (if l'.auth.isEmpty then l.auth else l'.auth) = l'.auth := by
    split
    · next hempty =>
      have hlower := h.auth.isEmpty_eq.trans hempty
      rw [isEmpty_auth_iff.1 hlower, isEmpty_auth_iff.1 hempty]
    · rfl
  rw [merge, hauth, h.others]
  simp only [Option.or_self]

/-- What two spellings of a layer make of a layer below them are two spellings again. -/
theorem Respelled.merge_left (h : l.Respelled folder folder' l') (lower : Layer) :
    (lower.merge l).Respelled folder folder' (lower.merge l') where
  auth := by
    simp only [merge, h.auth.isEmpty_eq]
    split
    · exact Auth.respelled_refl folder folder' lower.auth
    · exact h.auth
  others := by
    rw [h.others]
    rfl

theorem Respelled.merge_right (h : l.Respelled folder folder' l') (upper : Layer) :
    (l.merge upper).Respelled folder folder' (l'.merge upper) where
  auth := by
    simp only [merge]
    split
    · exact h.auth
    · exact Auth.respelled_refl folder folder' upper.auth
  others := by
    rw [h.others]
    rfl

/-- Two spellings of a layer pass the same checks, and give two spellings of the same settings. -/
theorem Respelled.finish (h : l.Respelled folder folder' l') {workingDir : Path}
    {sources : List Source} {c : Config} (hfinish : l.finish workingDir sources = .ok c)
    (sources' : List Source) :
    ∃ c', l'.finish workingDir sources' = .ok c' ∧ Respells folder folder' c c' := by
  obtain ⟨hunits, hdocs, hdrive, rfl⟩ := finish_eq_ok_iff.1 hfinish
  refine ⟨l'.settled workingDir sources', finish_eq_ok_iff.2 ⟨?_, ?_, ?_, rfl⟩, h.auth, ?_⟩
  · rw [h.others]
    exact hunits
  · rw [h.others]
    exact hdocs
  · rw [h.others]
    exact hdrive
  · rw [h.others]
    rfl

end Layer

/-- A file is read into the same layer under each of its paths, but for the spelling. -/
theorem readLayer_respelled (h : disk.SameFile p q) (hread : readLayer disk p = .ok l) :
    ∃ l', readLayer disk q = .ok l' ∧ l.Respelled (folderOf p) (folderOf q) l' := by
  unfold readLayer at hread ⊢
  rw [h.readText] at hread
  split at hread
  · cases hread
  · next text htext =>
    split at hread
    · cases hread
    · next layer hlayer =>
      cases hread
      obtain ⟨l', hl', hrespelled⟩ := Layer.ofFile_respelled hlayer (folderOf q)
      refine ⟨l', ?_, hrespelled⟩
      rw [show Layer.ofFile ((Path.parent? q).getD ".") text = .ok l' from hl']

/-! ### Files on top of each other -/

/-- Files lie on a layer as one layer. -/
theorem mergeFiles_eq_map (disk : Disk) (base : Layer) (sources : List Source) :
    mergeFiles disk base sources = (mergeFiles disk .empty sources).map base.merge := by
  induction sources generalizing base with
  | nil => rfl
  | cons source rest ih =>
    rw [mergeFiles, mergeFiles]
    split
    · exact ih base
    · next path _ =>
      cases readLayer disk path with
      | error fault => rfl
      | ok layer =>
        show mergeFiles disk (base.merge layer) rest =
          (mergeFiles disk (Layer.empty.merge layer) rest).map base.merge
        rw [ih (base.merge layer), ih (Layer.empty.merge layer), Layer.empty_merge]
        cases mergeFiles disk .empty rest with
        | error fault => rfl
        | ok upper => exact congrArg Except.ok (Layer.merge_assoc base layer upper)

theorem mergeFiles_append (disk : Disk) (base : Layer) (front back : List Source) :
    mergeFiles disk base (front ++ back) =
      (mergeFiles disk base front).bind (mergeFiles disk · back) := by
  induction front generalizing base with
  | nil => rfl
  | cons source front ih =>
    rw [List.cons_append, mergeFiles, mergeFiles]
    split
    · exact ih base
    · next path _ =>
      cases readLayer disk path with
      | error fault => rfl
      | ok layer => exact ih (base.merge layer)

/-- A file makes no difference below itself under another path. -/
theorem exists_readLayer_covered {path : Path} (h : disk.SameFile path p)
    (hread : readLayer disk p = .ok top) :
    ∃ layer, readLayer disk path = .ok layer ∧ layer.merge top = top := by
  obtain ⟨layer, hlayer, -⟩ := readLayer_respelled h.symm hread
  obtain ⟨top', htop', hrespelled⟩ := readLayer_respelled h hlayer
  rw [hread] at htop'
  cases htop'
  exact ⟨layer, hlayer, hrespelled.merge_eq⟩

theorem map_merge_map (top layer : Layer) (merged : Except LoadFault Layer) :
    (merged.map layer.merge).map (·.merge top) = (merged.map (·.merge top)).map layer.merge := by
  cases merged with
  | error fault => rfl
  | ok upper => exact congrArg Except.ok (Layer.merge_assoc layer upper top)

/-- **Files make no difference below themselves**, whatever lies between. -/
theorem mergeFiles_filter {keep : Source → Bool} (hread : readLayer disk p = .ok top)
    {front : List Source} (h : ∀ source ∈ front, keep source = false →
      ∃ path, source.path? = some path ∧ disk.SameFile path p) :
    (mergeFiles disk .empty (front.filter keep)).map (·.merge top) =
      (mergeFiles disk .empty front).map (·.merge top) := by
  induction front with
  | nil => rfl
  | cons source front ih =>
    obtain ⟨hsource, hfront⟩ := List.forall_mem_cons.1 h
    cases hkeep : keep source with
    | true =>
      rw [List.filter_cons_of_pos hkeep]
      cases hpath : source.path? with
      | none =>
        rw [mergeFiles, mergeFiles, hpath]
        exact ih hfront
      | some path =>
        cases hlayer : readLayer disk path with
        | error fault =>
          rw [mergeFiles, mergeFiles, hpath]
          dsimp only
          rw [hlayer]
          rfl
        | ok layer =>
          rw [mergeFiles_cons hpath hlayer, mergeFiles_cons hpath hlayer, mergeFiles_eq_map,
            mergeFiles_eq_map disk _ front, map_merge_map, map_merge_map, ih hfront]
    | false =>
      rw [List.filter_cons_of_neg (by simp [hkeep]), ih hfront]
      obtain ⟨path, hpath, hsame⟩ := hsource hkeep
      obtain ⟨layer, hlayer, hcovered⟩ := exists_readLayer_covered hsame hread
      rw [mergeFiles_cons hpath hlayer, Layer.empty_merge, mergeFiles_eq_map disk layer]
      cases mergeFiles disk .empty front with
      | error fault => rfl
      | ok upper =>
        refine congrArg Except.ok ?_
        show upper.merge top = (layer.merge upper).merge top
        rw [Layer.merge_assoc, Layer.merge_merge_of_covered hcovered]

/-- The layer of the file named by hand lies on those of the other files. -/
theorem mergeFiles_override (hread : readLayer disk p = .ok top) (base : Layer)
    (front : List Source) :
    mergeFiles disk base (front ++ [.overrideFile p]) =
      ((mergeFiles disk .empty front).map (·.merge top)).map base.merge := by
  rw [mergeFiles_append, mergeFiles_eq_map]
  cases mergeFiles disk .empty front with
  | error fault => rfl
  | ok lower =>
    show mergeFiles disk (base.merge lower) [.overrideFile p] = .ok (base.merge (lower.merge top))
    rw [mergeFiles_cons rfl hread, Layer.merge_assoc]
    rfl

theorem exists_readLayer {front : List Source}
    (h : mergeFiles disk base (front ++ [.overrideFile p]) = .ok l) :
    ∃ top, readLayer disk p = .ok top := by
  rw [mergeFiles_append] at h
  cases hread : readLayer disk p with
  | ok top => exact ⟨top, rfl⟩
  | error fault =>
    have hfails : ∀ lower, mergeFiles disk lower [.overrideFile p] = .error fault := by
      intro lower
      show (readLayer disk p).bind _ = _
      rw [hread]
      rfl
    cases hfront : mergeFiles disk base front with
    | error fault' =>
      rw [hfront] at h
      cases h
    | ok lower =>
      rw [hfront] at h
      cases (hfails lower).symm.trans h

theorem exists_readText (h : readLayer disk p = .ok top) : ∃ text, disk.readText p = .ok text := by
  unfold readLayer at h
  split at h
  · cases h
  · next text htext => exact ⟨text, htext⟩

theorem has_of_readLayer (h : readLayer disk p = .ok top) : disk.has p = true := by
  obtain ⟨text, htext⟩ := exists_readText h
  unfold Disk.has
  cases hplace : disk.locate p with
  | ok place => rfl
  | error fault =>
    simp only [Disk.readText, Disk.readBytes, hplace] at htext
    cases htext

/-- **It does not matter which of the files that are the one named by hand are skipped.** -/
theorem mergeFiles_skip {keep : Source → Bool} {front : List Source}
    (h : ∀ source ∈ front, keep source = false →
      ∃ path, source.path? = some path ∧ disk.SameFile path p) :
    mergeFiles disk base (front.filter keep ++ [.overrideFile p]) = .ok l ↔
      mergeFiles disk base (front ++ [.overrideFile p]) = .ok l := by
  constructor
  · intro hmerged
    obtain ⟨top, hread⟩ := exists_readLayer hmerged
    rw [mergeFiles_override hread] at hmerged ⊢
    rwa [← mergeFiles_filter hread h]
  · intro hmerged
    obtain ⟨top, hread⟩ := exists_readLayer hmerged
    rw [mergeFiles_override hread] at hmerged ⊢
    rwa [mergeFiles_filter hread h]

/-! ### The settings that files give -/

/-- The settings that files give on top of the defaults and below the environment. -/
def settingsFrom (disk : Disk) (workingDir : Path) (vars : Layer.Variables)
    (applied : List Source) : Except LoadFault Config :=
  (mergeFiles disk .defaults applied).bind fun merged =>
    (merged.merge (.ofVariables workingDir vars)).finish workingDir []

variable {given : Option Path} {workingDir : Path} {c : Config} {applied : List Source}

theorem settingsFrom_eq_ok_iff : settingsFrom disk workingDir vars applied = .ok c ↔
    ∃ merged, mergeFiles disk .defaults applied = .ok merged ∧
      (merged.merge (.ofVariables workingDir vars)).finish workingDir [] = .ok c := by
  unfold settingsFrom
  cases mergeFiles disk .defaults applied with
  | error fault => simp [Except.bind]
  | ok merged => simp [Except.bind]

theorem settingsFrom_skip {keep : Source → Bool} {front : List Source}
    (h : ∀ source ∈ front, keep source = false →
      ∃ path, source.path? = some path ∧ disk.SameFile path p) :
    settingsFrom disk workingDir vars (front.filter keep ++ [.overrideFile p]) = .ok c ↔
      settingsFrom disk workingDir vars (front ++ [.overrideFile p]) = .ok c := by
  simp only [settingsFrom_eq_ok_iff, mergeFiles_skip h]

theorem sources_of_settingsFrom (h : settingsFrom disk workingDir vars applied = .ok c) :
    c.sources = [] := by
  obtain ⟨merged, -, hfinish⟩ := settingsFrom_eq_ok_iff.1 h
  obtain ⟨-, -, -, rfl⟩ := finish_eq_ok_iff.1 hfinish
  rfl

/-- The sources are kept with the settings and have no part in them. -/
theorem finish_sources {sources : List Source} (h : l.finish workingDir sources = .ok c) :
    l.finish workingDir [] = .ok { c with sources := [] } ∧ c.sources = sources := by
  obtain ⟨hunits, hdocs, hdrive, rfl⟩ := finish_eq_ok_iff.1 h
  exact ⟨finish_eq_ok_iff.2 ⟨hunits, hdocs, hdrive, rfl⟩, rfl⟩

theorem workingDir_of_finish {sources : List Source} (h : l.finish workingDir sources = .ok c) :
    c.workingDir = workingDir := by
  obtain ⟨-, -, -, rfl⟩ := finish_eq_ok_iff.1 h
  rfl

theorem exists_finish (h : l.finish workingDir [] = .ok c) (sources : List Source) :
    l.finish workingDir sources = .ok { c with sources := sources } := by
  obtain ⟨hunits, hdocs, hdrive, rfl⟩ := finish_eq_ok_iff.1 h
  exact finish_eq_ok_iff.2 ⟨hunits, hdocs, hdrive, rfl⟩

theorem filter_toList_map {f : Path → Source} (hf : ∀ path, (f path).path? = some path)
    (skip : Path → Bool) (o : Option Path) :
    (o.map f).toList.filter (fun source => !source.path?.any skip) =
      ((o.filter fun path => !skip path).map f).toList := by
  cases o with
  | none => rfl
  | some path => cases hskip : skip path <;> simp [hf, hskip, Option.filter]

/-- Those files are skipped whose path is like that of the file named by hand. -/
theorem files_some (disk : Disk) (workingDir p : Path) :
    files disk workingDir (some p) =
      (files disk workingDir none).filter (fun source => !source.path?.any (Path.alike · p)) ++
        [.overrideFile p] := by
  have hfilter : ∀ (o : Option Path) {f g : Path → Bool},
      (∀ path, f path = (g path && !Path.alike path p)) →
      o.filter f = (o.filter g).filter fun path => !Path.alike path p := by
    intro o f g hf
    rw [Option.filter_filter]
    congr 1
    funext path
    rw [hf, Bool.and_comm]
  have hroot : rootFile? disk workingDir (some p) =
      (rootFile? disk workingDir none).filter fun path => !Path.alike path p := by
    apply hfilter
    intro path
    cases halike : Path.alike path p <;> simp [halike]
  have hown : ownFile? disk workingDir (some p) =
      (ownFile? disk workingDir none).filter fun path => !Path.alike path p := by
    apply hfilter
    intro path
    cases halike : Path.alike path p <;> simp [halike]
  rw [files_eq, files_eq, List.filter_append, List.filter_append, filter_toList_map fun _ => rfl,
    filter_toList_map fun _ => rfl, hroot, hown]
  simp

theorem has_of_mem_files {source : Source} (h : source ∈ files disk workingDir none) :
    ∃ path, source.path? = some path ∧ disk.has path = true := by
  rw [files_eq] at h
  simp only [Option.map_none, Option.toList_none, List.append_nil, List.mem_append,
    Option.mem_toList, Option.map_eq_some_iff] at h
  rcases h with ⟨path, hpath, rfl⟩ | ⟨path, hpath, rfl⟩
  · obtain ⟨-, hhas, -⟩ := rootFile?_eq_some_iff.1 hpath
    exact ⟨path, rfl, hhas⟩
  · obtain ⟨-, hhas, -⟩ := ownFile?_eq_some_iff.1 hpath
    exact ⟨path, rfl, hhas⟩

/-- A file that is skipped is the file named by hand. -/
theorem sameFile_of_alike {source : Source} (hsource : source ∈ files disk workingDir none)
    (hp : disk.has p = true) (hskip : source.path?.any (Path.alike · p) = true) :
    ∃ path, source.path? = some path ∧ disk.SameFile path p := by
  obtain ⟨path, hpath, hhas⟩ := has_of_mem_files hsource
  rw [hpath, Option.any_some] at hskip
  obtain ⟨place, hplace⟩ := Disk.exists_locate hhas
  obtain ⟨place', hplace'⟩ := Disk.exists_locate hp
  have hsame := Disk.locate_eq_of_alike hskip hplace hplace'
  exact ⟨path, hpath, place, hplace, hsame ▸ hplace'⟩

/-- Loading gives the settings of all files, with none of them skipped. -/
theorem load_override_eq_ok_iff : load disk given (some p) vars = .ok c ↔
    ∃ workingDir, workingDirectory disk given = .ok workingDir ∧
      settingsFrom disk workingDir vars
          (files disk workingDir none ++ [.overrideFile (Path.under workingDir p)]) =
        .ok { c with sources := [] } ∧
      c.sources = sourcesOf disk workingDir (some (Path.under workingDir p)) vars := by
  have hskips : ∀ {workingDir merged}, disk.has (Path.under workingDir p) = true →
      (mergeFiles disk .defaults (files disk workingDir (some (Path.under workingDir p))) =
          .ok merged ↔
        mergeFiles disk .defaults
          (files disk workingDir none ++ [.overrideFile (Path.under workingDir p)]) =
          .ok merged) := by
    intro workingDir merged hhas
    rw [files_some]
    refine mergeFiles_skip fun source hsource hskip => sameFile_of_alike hsource hhas ?_
    simpa using hskip
  rw [load_eq_ok_iff]
  simp only [settingsFrom_eq_ok_iff, Option.map_some]
  constructor
  · rintro ⟨workingDir, merged, hdir, hfound, hmerged, hfinish⟩
    obtain ⟨hsettings, hsources⟩ := finish_sources hfinish
    have hhas := hfound _ rfl
    exact ⟨workingDir, hdir, ⟨merged, (hskips hhas).1 hmerged, hsettings⟩, hsources⟩
  · rintro ⟨workingDir, hdir, ⟨merged, hmerged, hsettings⟩, hsources⟩
    obtain ⟨top, hread⟩ := exists_readLayer hmerged
    have hhas := has_of_readLayer hread
    refine ⟨workingDir, merged, hdir, ?_, (hskips hhas).2 hmerged, ?_⟩
    · rintro path ⟨⟩
      exact hhas
    · have hfinish := exists_finish hsettings c.sources
      rw [← hsources]
      exact hfinish

/-- Whichever files are skipped that are the one named by hand, the settings are those that are
loaded. -/
theorem settingsFrom_filter_eq_ok_iff {keep : Source → Bool}
    (hdir : workingDirectory disk given = .ok workingDir)
    (hkeep : ∀ source ∈ files disk workingDir none, keep source = false →
      ∃ path, source.path? = some path ∧ disk.SameFile path (Path.under workingDir p)) :
    settingsFrom disk workingDir vars ((files disk workingDir none).filter keep ++
        [.overrideFile (Path.under workingDir p)]) = .ok c ↔
      ∃ loaded, load disk given (some p) vars = .ok loaded ∧ c = { loaded with sources := [] } := by
  rw [settingsFrom_skip hkeep]
  constructor
  · intro hsettings
    -- Settings that were made from files only have no sources yet.
    have hsources : { c with sources := [] } = c := by rw [← sources_of_settingsFrom hsettings]
    let sources := sourcesOf disk workingDir (some (Path.under workingDir p)) vars
    refine ⟨{ c with sources }, load_override_eq_ok_iff.2 ⟨workingDir, hdir, ?_, rfl⟩,
      hsources.symm⟩
    exact hsettings.trans (congrArg _ hsources.symm)
  · rintro ⟨loaded, hload, rfl⟩
    obtain ⟨workingDir', hdir', hsettings, -⟩ := load_override_eq_ok_iff.1 hload
    rw [hdir] at hdir'
    cases hdir'
    exact hsettings

/-- **Another spelling of the file named by hand shows in relative paths at most**, whether the file
is skipped under one spelling and applied twice under the other or not. -/
theorem load_respelled (h : load disk given (some p) vars = .ok c)
    (hsame : disk.SameFile (Path.under c.workingDir p) (Path.under c.workingDir q)) :
    ∃ c', load disk given (some q) vars = .ok c' ∧
      Respells (folderOf (Path.under c.workingDir p)) (folderOf (Path.under c.workingDir q))
        c c' := by
  obtain ⟨workingDir, hdir, hsettings, -⟩ := load_override_eq_ok_iff.1 h
  obtain ⟨merged, hmerged, hfinish⟩ := settingsFrom_eq_ok_iff.1 hsettings
  obtain rfl := workingDir_of_finish hfinish
  obtain ⟨top, hread⟩ := exists_readLayer hmerged
  obtain ⟨top', hread', hrespelled⟩ := readLayer_respelled hsame hread
  rw [mergeFiles_override hread] at hmerged
  cases hlower : mergeFiles disk .empty (files disk c.workingDir none) with
  | error fault =>
    rw [hlower] at hmerged
    cases hmerged
  | ok lower =>
    rw [hlower] at hmerged
    cases hmerged
    have hmerged' := mergeFiles_override hread' .defaults (files disk c.workingDir none)
    rw [hlower] at hmerged'
    -- The two layers lie on the same ones and below the same environment.
    have hlayers := ((hrespelled.merge_left lower).merge_left .defaults).merge_right
      (.ofVariables c.workingDir vars)
    obtain ⟨c', hfinish', hc'⟩ := hlayers.finish hfinish []
    let sources := sourcesOf disk c.workingDir (some (Path.under c.workingDir q)) vars
    refine ⟨{ c' with sources }, load_override_eq_ok_iff.2 ⟨c.workingDir, hdir, ?_, rfl⟩,
      hc'.auth, ?_⟩
    · exact settingsFrom_eq_ok_iff.2 ⟨_, hmerged', (finish_sources hfinish').1⟩
    · rw [hc'.others]

/-- The relative paths that are spelled in two ways lead to the same places. -/
theorem locate_under_folderOf (h : load disk given (some p) vars = .ok c)
    (hsame : disk.SameFile (Path.under c.workingDir p) (Path.under c.workingDir q))
    (habs : c.workingDir.isAbsolute = true) (rel : Path) :
    disk.locate (Path.under (folderOf (Path.under c.workingDir p)) rel) =
      disk.locate (Path.under (folderOf (Path.under c.workingDir q)) rel) := by
  obtain ⟨workingDir, -, hsettings, -⟩ := load_override_eq_ok_iff.1 h
  obtain ⟨merged, hmerged, hfinish⟩ := settingsFrom_eq_ok_iff.1 hsettings
  obtain rfl := workingDir_of_finish hfinish
  obtain ⟨top, hread⟩ := exists_readLayer hmerged
  obtain ⟨text, htext⟩ := exists_readText hread
  exact hsame.locate_under (Path.isAbsolute_under habs p) (Path.isAbsolute_under habs q) htext rel

/-- **Layers form a band, and so files that are applied twice do not show.** Merging is associative,
the empty layer is neutral on both sides, and a layer that comes again makes no difference to where
it came first. Consequently the settings that are loaded with a file named by hand are, their
sources aside, those of all files in their order, whichever of the other files that are the same as
the one named by hand are skipped; and another spelling of that file leads to the same settings, but
for the spelling of the credential paths that it gives relative to its folder, which lead to the
same places. -/
theorem layers_form_band :
    (∀ x y z : Layer, (x.merge y).merge z = x.merge (y.merge z)) ∧
    (∀ x : Layer, Layer.empty.merge x = x ∧ x.merge .empty = x) ∧
    (∀ x y : Layer, (x.merge y).merge x = y.merge x) ∧
    (∀ (disk : Disk) (given : Option Path) (vars : Layer.Variables) (p workingDir : Path),
      workingDirectory disk given = .ok workingDir → ∀ keep : Source → Bool,
      (∀ source ∈ files disk workingDir none, keep source = false →
        ∃ path, source.path? = some path ∧ disk.SameFile path (Path.under workingDir p)) →
      ∀ c, settingsFrom disk workingDir vars ((files disk workingDir none).filter keep ++
            [.overrideFile (Path.under workingDir p)]) = .ok c ↔
          ∃ loaded, load disk given (some p) vars = .ok loaded ∧
            c = { loaded with sources := [] }) ∧
    ∀ (disk : Disk) (given : Option Path) (vars : Layer.Variables) (p q : Path) (c : Config),
      load disk given (some p) vars = .ok c →
      disk.SameFile (Path.under c.workingDir p) (Path.under c.workingDir q) →
      (∃ c', load disk given (some q) vars = .ok c' ∧
        Respells (folderOf (Path.under c.workingDir p)) (folderOf (Path.under c.workingDir q))
          c c') ∧
      (c.workingDir.isAbsolute = true → ∀ rel,
        disk.locate (Path.under (folderOf (Path.under c.workingDir p)) rel) =
          disk.locate (Path.under (folderOf (Path.under c.workingDir q)) rel)) := by
  refine ⟨Layer.merge_assoc, fun x => ⟨x.empty_merge, x.merge_empty⟩, Layer.merge_merge_self, ?_,
    ?_⟩
  · intro disk given vars p workingDir hdir keep hkeep c
    exact settingsFrom_filter_eq_ok_iff hdir hkeep
  · intro disk given vars p q c hload hsame
    exact ⟨load_respelled hload hsame, locate_under_folderOf hload hsame⟩

/-- Under one spelling the file in the working directory is skipped, and under another it is applied
before the file named by hand. The log is filtered in the same way. -/
theorem layers_form_band_twice :
    let text : Tree := .file (Text.bytesOf "log.filter='a'\n".toList)
    let disk : Disk :=
      ⟨.folder [("w", .folder [(".docs-mcp.toml", text), ("v", .folder [])])], some "/w"⟩
    files disk "/w" (some "/w/.docs-mcp.toml") = [.overrideFile "/w/.docs-mcp.toml"] ∧
      files disk "/w" (some "/w/v/../.docs-mcp.toml") =
        [.localFile "/w/.docs-mcp.toml", .overrideFile "/w/v/../.docs-mcp.toml"] ∧
      ∃ c c', load disk none (some "/w/.docs-mcp.toml") [] = .ok c ∧
        load disk none (some "/w/v/../.docs-mcp.toml") [] = .ok c' ∧
        c.logFilter = "a" ∧ c'.logFilter = "a" := by
  intro text disk
  let layer : Layer := { Layer.empty with logFilter := some "a" }
  have hread : readLayer disk "/w/.docs-mcp.toml" = .ok layer := by
    have hbytes : disk.readBytes "/w/.docs-mcp.toml" =
        .ok (Text.bytesOf "log.filter='a'\n".toList) := rfl
    exact readLayer_of_text hbytes (by decide +kernel)
  have hfiles : files disk "/w" (some "/w/.docs-mcp.toml") =
      [.overrideFile "/w/.docs-mcp.toml"] := rfl
  have hmerged : mergeFiles disk .defaults (files disk "/w" (some "/w/.docs-mcp.toml")) =
      .ok (Layer.defaults.merge layer) := by
    rw [hfiles, mergeFiles_cons rfl hread]
    rfl
  let c := ((Layer.defaults.merge layer).merge (.ofVariables "/w" [])).settled "/w"
    (sourcesOf disk "/w" (some "/w/.docs-mcp.toml") [])
  have hload : load disk none (some "/w/.docs-mcp.toml") [] = .ok c := by
    refine load_eq_ok_iff.2 ⟨"/w", _, rfl, ?_, hmerged, ?_⟩
    · rintro path ⟨⟩
      decide
    · exact finish_eq_ok_iff.2 ⟨by decide, by decide, by decide, rfl⟩
  have hsame : disk.SameFile "/w/.docs-mcp.toml" "/w/v/../.docs-mcp.toml" := by
    let folder : Tree := .folder [(".docs-mcp.toml", text), ("v", .folder [])]
    exact ⟨⟨[(".docs-mcp.toml", folder), ("w", disk.root)], text⟩, rfl, rfl⟩
  obtain ⟨-, -, -, -, hspelling⟩ := layers_form_band
  obtain ⟨⟨c', hload', hrespelled⟩, -⟩ :=
    hspelling disk none [] "/w/.docs-mcp.toml" "/w/v/../.docs-mcp.toml" c hload hsame
  refine ⟨hfiles, rfl, c, c', hload, hload', rfl, ?_⟩
  rw [hrespelled.others]
  rfl

end Scribe.Config
