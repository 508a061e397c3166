import Scribe.Proofs.Config.Credential
import Scribe.Proofs.Config.File
import Scribe.Proofs.Files.Tree
import Scribe.Proofs.Text.Search

/-!
# Settings that can be used

Loaded settings can be used as they are: the limit is positive, the services have web addresses, the
root folder is not blank, and credential paths are absolute, as each source completes its own paths
(`Writes`). Settings are loaded if every file that is called for holds settings and the settings of
all layers together are valid (`exists_load_iff`). So a value that is not valid does not count below
a layer which sets it again (`Valid`), but a file that is spoiled does (`Spoiled`).
-/

namespace Scribe.Config

open Files

variable {disk : Disk} {given overridePath : Option Path} {vars : Layer.Variables}
  {workingDir path : Path} {sources : List Source} {layers : List Layer} {c : Config}

/-! ### What is asked of settings -/

/-- A text is the address of a web service. -/
def IsWebAddress (url : String) : Prop := ∃ rest, url = "http://" ++ rest ∨ url = "https://" ++ rest

theorem isSome_dropPattern?_iff {start : String} {url : String} :
    (Text.dropPattern? start.toList url.toList).isSome = true ↔ ∃ rest, url = start ++ rest := by
  rw [Option.isSome_iff_exists]
  constructor
  · rintro ⟨rest, hrest⟩
    refine ⟨.ofList rest, ?_⟩
    rw [← String.toList_inj, Text.dropPattern?_eq_some_iff.1 hrest]
    simp
  · rintro ⟨rest, rfl⟩
    exact ⟨rest.toList, Text.dropPattern?_eq_some_iff.2 String.toList_append⟩

theorem isWebAddress_iff {url : String} : isWebAddress url = true ↔ IsWebAddress url := by
  rw [isWebAddress, Bool.or_eq_true, isSome_dropPattern?_iff, isSome_dropPattern?_iff, or_comm,
    IsWebAddress, exists_or]

/-- A setting of credentials that is a path. -/
inductive PathSetting where
  | keyFile
  | tokenFile

namespace PathSetting

/-- The value of a setting in some credentials. -/
def of : PathSetting → Auth → Option Path
  | keyFile => Auth.keyFile
  | tokenFile => Auth.tokenFile

/-- The key of a setting in a settings file. -/
def key : PathSetting → String
  | keyFile => "service_account_key_file"
  | tokenFile => "access_token_file"

/-- The variable of a setting. -/
def variableName : PathSetting → String
  | keyFile => "GOOGLE_SERVICE_ACCOUNT_KEY_FILE"
  | tokenFile => "GOOGLE_ACCESS_TOKEN_FILE"

end PathSetting

/-- Settings that can be used as they are. -/
structure Usable (c : Config) : Prop where
  limit : 1 ≤ c.maxContentUnits
  docs : IsWebAddress c.docsEndpoint
  drive : IsWebAddress c.driveEndpoint
  rootFolder : ∀ id ∈ c.rootFolder, ∃ char ∈ id.toList, Text.isBlank char = false
  absolute : ∀ (s : PathSetting), ∀ path ∈ s.of c.auth, path.isAbsolute = true

/-- What is checked of layers: the limit and the addresses, each in the last layer that sets it. -/
structure Valid (layers : List Layer) : Prop where
  limit : ∀ n ∈ Layer.lastSet? Layer.maxContentUnits layers, 1 ≤ n
  docs : ∀ url ∈ Layer.lastSet? Layer.docsEndpoint layers, IsWebAddress url
  drive : ∀ url ∈ Layer.lastSet? Layer.driveEndpoint layers, IsWebAddress url

/-- Layers on the defaults are valid exactly if they can be finished. -/
theorem exists_finish_iff :
    (∃ c, (layers.foldl Layer.merge .defaults).finish workingDir sources = .ok c) ↔
      Valid (.defaults :: layers) := by
  have hunits : Layer.Overlays Layer.maxContentUnits := fun _ _ => rfl
  have hdocs : Layer.Overlays Layer.docsEndpoint := fun _ _ => rfl
  have hdrive : Layer.Overlays Layer.driveEndpoint := fun _ _ => rfl
  have hvalid : Valid (.defaults :: layers) ↔
      ((layers.foldl Layer.merge .defaults).settled workingDir sources).maxContentUnits ≠ 0 ∧
      isWebAddress
        ((layers.foldl Layer.merge .defaults).settled workingDir sources).docsEndpoint = true ∧
      isWebAddress
        ((layers.foldl Layer.merge .defaults).settled workingDir sources).driveEndpoint = true := by
    rw [isWebAddress_iff, isWebAddress_iff, ← Nat.one_le_iff_ne_zero]
    constructor
    · rintro ⟨hlimit, hdocsValid, hdriveValid⟩
      exact ⟨hlimit _ (hunits.some_foldl_defaults rfl layers).symm,
        hdocsValid _ (hdocs.some_foldl_defaults rfl layers).symm,
        hdriveValid _ (hdrive.some_foldl_defaults rfl layers).symm⟩
    · rintro ⟨hlimit, hdocsValid, hdriveValid⟩
      refine ⟨?_, ?_, ?_⟩
      · rw [← hunits.some_foldl_defaults rfl layers]
        rintro n ⟨⟩
        exact hlimit
      · rw [← hdocs.some_foldl_defaults rfl layers]
        rintro url ⟨⟩
        exact hdocsValid
      · rw [← hdrive.some_foldl_defaults rfl layers]
        rintro url ⟨⟩
        exact hdriveValid
  rw [hvalid]
  simp only [finish_eq_ok_iff]
  constructor
  · rintro ⟨c, hlimit, hdocsValid, hdriveValid, rfl⟩
    exact ⟨hlimit, hdocsValid, hdriveValid⟩
  · rintro ⟨hlimit, hdocsValid, hdriveValid⟩
    exact ⟨_, hlimit, hdocsValid, hdriveValid, rfl⟩

/-! ### When settings are loaded -/

/-- There is one list of sources that are called for. -/
theorem Called.eq_sourcesOf (h : Called disk workingDir overridePath vars sources) :
    sources = sourcesOf disk workingDir overridePath vars := by
  have hother := @called_sourcesOf disk workingDir overridePath vars
  have hmem : ∀ source,
      source ∈ sources ↔ source ∈ sourcesOf disk workingDir overridePath vars := by
    intro source
    cases source with
    | defaults => exact iff_of_true h.defaults hother.defaults
    | gitRoot path => rw [h.gitRoot, hother.gitRoot]
    | localFile path => rw [h.localFile, hother.localFile]
    | overrideFile path => rw [h.overrideFile, hother.overrideFile]
    | environment => rw [h.environment, hother.environment]
  have hascending := List.pairwise_map.1 h.ascending
  have hascending' := List.pairwise_map.1 hother.ascending
  have hne : ∀ {a b : Source}, a.rank < b.rank → a ≠ b := by
    rintro a b hlt rfl
    exact Nat.lt_irrefl _ hlt
  have hperm := (List.perm_ext_iff_of_nodup (hascending.imp hne) (hascending'.imp hne)).2 hmem
  exact hperm.eq_of_pairwise (fun a b _ _ hab hba => absurd hab (Nat.lt_asymm hba)) hascending
    hascending'

/-- Files whose layers are known can be merged. -/
theorem mergeFiles_of_layers (hfiles : ∀ source ∈ sources, ∃ path, source.path? = some path)
    (h : List.Forall₂ (LayerOf disk workingDir vars) sources layers) (base : Layer) :
    mergeFiles disk base sources = .ok (layers.foldl Layer.merge base) := by
  induction h generalizing base with
  | nil => rfl
  | cons hlayer _ ih =>
    obtain ⟨⟨path, hpath⟩, hfiles⟩ := List.forall_mem_cons.1 hfiles
    cases hlayer with
    | defaults => cases hpath
    | file hpath' hread =>
      rw [mergeFiles_cons hpath' hread]
      exact ih hfiles _
    | environment => cases hpath

theorem forall₂_append_left {α β : Type} {R : α → β → Prop} {front back : List α} {bs : List β}
    (h : List.Forall₂ R (front ++ back) bs) :
    ∃ front' back', bs = front' ++ back' ∧ List.Forall₂ R front front' ∧
      List.Forall₂ R back back' := by
  induction front generalizing bs with
  | nil => exact ⟨[], bs, rfl, .nil, h⟩
  | cons a front ih =>
    obtain ⟨b, bs, hab, hrest, rfl⟩ := List.forall₂_cons_left_iff.1 h
    obtain ⟨front', back', rfl, hfront, hback⟩ := ih hrest
    exact ⟨b :: front', back', rfl, .cons hab hfront, hback⟩

/-- **When settings are loaded.** There is a working directory, the file named by hand is there,
each source that is called for has a layer, and the layers are valid. -/
theorem exists_load_iff : (∃ c, load disk given overridePath vars = .ok c) ↔
    ∃ workingDir sources layers, workingDirectory disk given = .ok workingDir ∧
      (∀ path ∈ overridePath.map (Path.under workingDir), disk.has path = true) ∧
      Called disk workingDir (overridePath.map (Path.under workingDir)) vars sources ∧
      List.Forall₂ (LayerOf disk workingDir vars) sources layers ∧ Valid layers := by
  constructor
  · rintro ⟨c, h⟩
    obtain ⟨workingDir, -, hdir, hfound, -⟩ := load_eq_ok_iff.1 h
    obtain ⟨hdir', hcalled, rest, hlayers, hfinish⟩ := layers_of_load h
    rw [hdir] at hdir'
    cases hdir'
    exact ⟨_, _, _, hdir, hfound, hcalled, hlayers, exists_finish_iff.1 ⟨c, hfinish⟩⟩
  · rintro ⟨workingDir, sources, layers, hdir, hfound, hcalled, hlayers, hvalid⟩
    rw [hcalled.eq_sourcesOf, sourcesOf, List.append_assoc, List.singleton_append] at hlayers
    -- The layers lie on each other as their sources do: the defaults, the files, the environment.
    obtain ⟨_, upper, hdefaults, hupper, rfl⟩ := List.forall₂_cons_left_iff.1 hlayers
    cases hdefaults with
    | file hpath => cases hpath
    | defaults =>
      obtain ⟨fileLayers, envLayers, rfl, hfiles, henv⟩ := forall₂_append_left hupper
      have hmerged := mergeFiles_of_layers (fun _ => path?_of_mem_files) hfiles .defaults
      obtain ⟨envLayers', henv', hall⟩ :=
        layers_of_environment disk workingDir vars (fileLayers.foldl Layer.merge .defaults)
      have hunique : Relator.RightUnique (LayerOf disk workingDir vars) :=
        fun _ _ _ => LayerOf.unique
      obtain rfl := List.right_unique_forall₂' hunique henv' henv
      obtain ⟨c, hfinish⟩ := exists_finish_iff.2 hvalid
      rw [List.foldl_append, ← hall] at hfinish
      exact ⟨c, load_eq_ok_iff.2 ⟨workingDir, _, hdir, hfound, hmerged, hfinish⟩⟩

theorem exists_error_iff {ε α : Type} {result : Except ε α} :
    (∃ fault, result = .error fault) ↔ ¬ ∃ x, result = .ok x := by
  cases result <;> simp

/-- A source that is called for has a layer, where settings are loaded. -/
theorem exists_layer_of_load (h : load disk given overridePath vars = .ok c) {source : Source}
    (hsource : source ∈ c.sources) : ∃ layer, LayerOf disk c.workingDir vars source layer := by
  obtain ⟨-, -, rest, hlayers, -⟩ := layers_of_load h
  obtain ⟨front, back, hsplit⟩ := List.append_of_mem hsource
  rw [hsplit] at hlayers
  obtain ⟨_, _, -, -, hback⟩ := forall₂_append_left hlayers
  obtain ⟨layer, _, hlayer, -, -⟩ := List.forall₂_cons_left_iff.1 hback
  exact ⟨layer, hlayer⟩

/-- Layers that are not valid are not loaded. -/
theorem load_error_of_not_valid (hdir : workingDirectory disk given = .ok workingDir)
    (hcalled : Called disk workingDir (overridePath.map (Path.under workingDir)) vars sources)
    (hlayers : List.Forall₂ (LayerOf disk workingDir vars) sources layers)
    (hinvalid : ¬ Valid layers) : ∃ fault, load disk given overridePath vars = .error fault := by
  rw [exists_error_iff, exists_load_iff]
  rintro ⟨workingDir', sources', layers', hdir', -, hcalled', hlayers', hvalid⟩
  rw [hdir] at hdir'
  cases hdir'
  rw [hcalled.eq_sourcesOf] at hlayers
  rw [hcalled'.eq_sourcesOf] at hlayers'
  have hunique : Relator.RightUnique (LayerOf disk workingDir vars) := fun _ _ _ => LayerOf.unique
  obtain rfl := List.right_unique_forall₂' hunique hlayers hlayers'
  exact hinvalid hvalid

/-- Nothing is loaded where a file that is called for is spoiled, whatever lies on top of it. -/
theorem load_error_of_spoiled (hdir : workingDirectory disk given = .ok workingDir)
    (hcalled : Called disk workingDir (overridePath.map (Path.under workingDir)) vars sources)
    {source : Source} (hsource : source ∈ sources) (hpath : source.path? = some path)
    (hspoiled : Spoiled disk path) :
    ∃ fault, load disk given overridePath vars = .error fault := by
  rw [exists_error_iff]
  rintro ⟨c, h⟩
  obtain ⟨hdir', hcalled', -⟩ := layers_of_load h
  rw [hdir] at hdir'
  obtain rfl := Except.ok.inj hdir'
  rw [hcalled.eq_sourcesOf, ← hcalled'.eq_sourcesOf] at hsource
  obtain ⟨layer, hlayer⟩ := exists_layer_of_load h hsource
  cases hlayer with
  | defaults => cases hpath
  | file hpath' hread =>
    rw [hpath] at hpath'
    cases hpath'
    obtain ⟨data, hdata, -⟩ := readLayer_eq_ok_iff.1 hread
    exact hspoiled.not_holds hdata
  | environment => cases hpath

/-! ### The paths of credentials -/

/-- A source sets a credential. -/
def SetsCredentials (disk : Disk) (workingDir : Path) (vars : Layer.Variables)
    (source : Source) : Prop :=
  ∃ layer, LayerOf disk workingDir vars source layer ∧ layer.auth ≠ .unset

/-- A source gives the credentials: it sets some, and no source on top of it does. -/
def GivesCredentials (disk : Disk) (workingDir : Path) (vars : Layer.Variables)
    (sources : List Source) (source : Source) : Prop :=
  ∃ lower upper, sources = lower ++ source :: upper ∧
    SetsCredentials disk workingDir vars source ∧
    ∀ other ∈ upper, ¬ SetsCredentials disk workingDir vars other

/-- A path as it is written in a source, and the folder at which it starts if it is relative: that
of the settings file, or the working directory. -/
inductive Writes (disk : Disk) (workingDir : Path) (vars : Layer.Variables) (s : PathSetting) :
    Source → Path → Path → Prop where
  | file {source : Source} {file folder written : Path} {data : Json.Value} :
      source.path? = some file → Path.parent? file = some folder → Holds disk file data →
      textSetting? data "auth" s.key = some written →
      Writes disk workingDir vars s source folder written
  | environment {written : Path} : vars.get? s.variableName = some written →
      Writes disk workingDir vars s .environment workingDir written

/-- A file is an entry of the folder that another path leads to. -/
def HeldBy (disk : Disk) (file folder : Path) : Prop :=
  ∃ name entries way content,
    disk.locate file = .ok ⟨(name, .folder entries) :: way, .file content⟩ ∧
      disk.locate folder = .ok ⟨way, .folder entries⟩

theorem isAbsolute_workingDirectory
    (hdir : given = none → ∀ dir ∈ disk.currentDir, dir.isAbsolute = true)
    (h : workingDirectory disk given = .ok workingDir) : workingDir.isAbsolute = true := by
  unfold workingDirectory at h
  split at h
  · next path =>
    unfold Disk.canonical at h
    cases hplace : disk.locate path with
    | error cause =>
      rw [hplace] at h
      cases h
    | ok place =>
      rw [hplace] at h
      cases h
      simp [Path.isAbsolute]
  · split at h
    · next hcurrent =>
      cases h
      exact hdir rfl _ hcurrent
    · cases h

theorem Nearest.isAbsolute {folder root : Path} (h : Nearest disk folder root)
    (habs : folder.isAbsolute = true) : root.isAbsolute = true := by
  induction h with
  | here => exact habs
  | above _ hparent _ ih => exact ih (Path.isAbsolute_parent? habs hparent)

/-- Below an absolute working directory the paths of all files are absolute. -/
theorem Called.isAbsolute
    (h : Called disk workingDir (overridePath.map (Path.under workingDir)) vars sources)
    (habs : workingDir.isAbsolute = true) {source : Source} (hsource : source ∈ sources) :
    ∀ file ∈ source.path?, file.isAbsolute = true := by
  cases source with
  | defaults => exact fun file hfile => nomatch hfile
  | gitRoot path =>
    rintro file ⟨⟩
    obtain ⟨⟨root, hroot, rfl⟩, -⟩ := (h.gitRoot path).1 hsource
    exact Path.isAbsolute_under (hroot.isAbsolute habs) fileName
  | localFile path =>
    rintro file ⟨⟩
    obtain ⟨rfl, -⟩ := (h.localFile path).1 hsource
    exact Path.isAbsolute_under habs fileName
  | overrideFile path =>
    rintro file ⟨⟩
    obtain ⟨p, -, rfl⟩ := Option.map_eq_some_iff.1 ((h.overrideFile path).1 hsource)
    exact Path.isAbsolute_under habs p
  | environment => exact fun file hfile => nomatch hfile

/-- The parent of the path of a settings file is the folder that holds the file. -/
theorem Holds.exists_folder {file : Path} {data : Json.Value} (h : Holds disk file data)
    (habs : file.isAbsolute = true) :
    ∃ folder, Path.parent? file = some folder ∧ HeldBy disk file folder := by
  obtain ⟨text, -, hread, -⟩ := h
  cases hplace : disk.locate file with
  | error cause =>
    simp only [Disk.readText, Disk.readBytes, hplace] at hread
    cases hread
  | ok place =>
    obtain ⟨way, here⟩ := place
    cases here with
    | folder entries =>
      simp only [Disk.readText, Disk.readBytes, hplace] at hread
      cases hread
    | file content =>
      obtain ⟨folder, name, entries, rest, hparent, -, rfl, hfolder⟩ :=
        Disk.locate_parent habs hplace
      exact ⟨folder, hparent, name, entries, rest, content, hplace, hfolder⟩

theorem Writes.isAbsolute {s : PathSetting} {source : Source} {base written : Path}
    (h : Writes disk workingDir vars s source base written)
    (hdir : workingDir.isAbsolute = true) (habs : ∀ file ∈ source.path?, file.isAbsolute = true) :
    base.isAbsolute = true := by
  cases h with
  | file hpath hparent => exact Path.isAbsolute_parent? (habs _ hpath) hparent
  | environment => exact hdir

/-- The path of a setting in the layer of a source is what the source writes, completed. -/
theorem PathSetting.of_eq_some_iff {source : Source} {layer : Layer}
    (hlayer : LayerOf disk workingDir vars source layer)
    (habs : ∀ file ∈ source.path?, file.isAbsolute = true) (s : PathSetting) :
    s.of layer.auth = some path ↔ ∃ base written,
      Writes disk workingDir vars s source base written ∧ path = Path.under base written := by
  cases hlayer with
  | defaults =>
    have hnone : s.of Layer.defaults.auth = none := by cases s <;> rfl
    rw [hnone]
    refine iff_of_false (fun h => nomatch h) ?_
    rintro ⟨base, written, hwrites, -⟩
    cases hwrites with
    | file hpath => cases hpath
  | file hpath hread =>
    obtain ⟨data, hdata, rfl⟩ := readLayer_eq_ok_iff.1 hread
    obtain ⟨folder, hparent, -⟩ := hdata.exists_folder (habs _ hpath)
    have hof : s.of (Layer.ofData folder data).auth =
        (textSetting? data "auth" s.key).map (Path.under folder) := by
      cases s <;> rfl
    rw [hparent, Option.getD_some, hof, Option.map_eq_some_iff]
    constructor
    · rintro ⟨written, hwritten, rfl⟩
      exact ⟨folder, written, .file hpath hparent hdata hwritten, rfl⟩
    · rintro ⟨base, written, hwrites, rfl⟩
      cases hwrites with
      | file hpath' hparent' hdata' hwritten =>
        rw [hpath] at hpath'
        cases hpath'
        rw [hparent] at hparent'
        cases hparent'
        cases hdata.unique hdata'
        exact ⟨written, hwritten, rfl⟩
      | environment => cases hpath
  | environment =>
    have hof : s.of (Layer.ofVariables workingDir vars).auth =
        (vars.get? s.variableName).map (Path.under workingDir) := by
      cases s <;> rfl
    rw [hof, Option.map_eq_some_iff]
    constructor
    · rintro ⟨written, hwritten, rfl⟩
      exact ⟨workingDir, written, .environment hwritten, rfl⟩
    · rintro ⟨base, written, hwrites, rfl⟩
      cases hwrites with
      | file hpath => cases hpath
      | environment hwritten => exact ⟨written, hwritten, rfl⟩

theorem exists_of_mem_right {α β : Type} {R : α → β → Prop} {as : List α} {bs : List β}
    (h : List.Forall₂ R as bs) {b : β} (hb : b ∈ bs) : ∃ a ∈ as, R a b := by
  induction h with
  | nil => cases hb
  | @cons a b' as bs hab _ ih =>
    rcases List.mem_cons.1 hb with rfl | hb
    · exact ⟨a, List.mem_cons_self, hab⟩
    · obtain ⟨a', ha', hab'⟩ := ih hb
      exact ⟨a', List.mem_cons_of_mem a ha', hab'⟩

/-- Loaded credentials are those of the layer of the source that gives them. -/
theorem auth_of_givesCredentials (h : load disk given overridePath vars = .ok c) {source : Source}
    {layer : Layer} (hgives : GivesCredentials disk c.workingDir vars c.sources source)
    (hlayer : LayerOf disk c.workingDir vars source layer) : c.auth = layer.auth := by
  obtain ⟨lower, upper, hsplit, ⟨layer', hlayer', hset⟩, hupper⟩ := hgives
  obtain rfl := hlayer.unique hlayer'
  obtain ⟨-, -, rest, hlayers, -⟩ := layers_of_load h
  rw [auth_of_load h hlayers]
  rw [hsplit] at hlayers
  obtain ⟨lowerLayers, back, heq, -, hback⟩ := forall₂_append_left hlayers
  obtain ⟨layer', upperLayers, hlayer', hupperLayers, rfl⟩ := List.forall₂_cons_left_iff.1 hback
  obtain rfl := hlayer.unique hlayer'
  rw [heq]
  refine Layer.topCredentials_append hset fun u hu => ?_
  obtain ⟨other, hother, hu⟩ := exists_of_mem_right hupperLayers hu
  by_contra hne
  exact hupper other hother ⟨u, hu, hne⟩

/-- Where a layer sets credentials, a source gives them. -/
theorem exists_givesCredentials (h : List.Forall₂ (LayerOf disk workingDir vars) sources layers)
    (hset : ∃ l ∈ layers, l.auth ≠ .unset) :
    ∃ source, GivesCredentials disk workingDir vars sources source := by
  induction h with
  | nil =>
    obtain ⟨l, hl, -⟩ := hset
    cases hl
  | @cons source layer sources layers hlayer hlayers ih =>
    by_cases hupper : ∃ other ∈ sources, SetsCredentials disk workingDir vars other
    · obtain ⟨other, hother, l, hl, hne⟩ := hupper
      obtain ⟨front, back, rfl⟩ := List.append_of_mem hother
      obtain ⟨_, _, rfl, -, hback⟩ := forall₂_append_left hlayers
      obtain ⟨l', _, hl', -, rfl⟩ := List.forall₂_cons_left_iff.1 hback
      obtain rfl := hl.unique hl'
      obtain ⟨giver, lower, upper, hsplit, hgives⟩ := ih ⟨l, by simp, hne⟩
      exact ⟨giver, source :: lower, upper, by rw [hsplit]; rfl, hgives⟩
    · simp only [not_exists, not_and] at hupper
      obtain ⟨l, hl, hne⟩ := hset
      rcases List.mem_cons.1 hl with rfl | hl
      · exact ⟨source, [], sources, rfl, ⟨l, hlayer, hne⟩, hupper⟩
      · obtain ⟨other, hother, hl⟩ := exists_of_mem_right hlayers hl
        exact absurd ⟨l, hl, hne⟩ (hupper other hother)

/-- The credential paths of loaded settings are those that the source writes which gives the
credentials. -/
theorem PathSetting.of_load_eq_some_iff (h : load disk given overridePath vars = .ok c)
    (habs : c.workingDir.isAbsolute = true) (s : PathSetting) :
    s.of c.auth = some path ↔ ∃ source base written,
      GivesCredentials disk c.workingDir vars c.sources source ∧
        Writes disk c.workingDir vars s source base written ∧ path = Path.under base written := by
  obtain ⟨-, hcalled, rest, hlayers, -⟩ := layers_of_load h
  have hfiles : ∀ {source}, GivesCredentials disk c.workingDir vars c.sources source →
      ∀ file ∈ source.path?, file.isAbsolute = true := by
    rintro source ⟨lower, upper, hsplit, -⟩
    exact hcalled.isAbsolute habs (hsplit ▸ List.mem_append_right lower List.mem_cons_self)
  constructor
  · intro hpath
    have hset : ∃ l ∈ Layer.defaults :: rest, l.auth ≠ .unset := by
      by_contra hunset
      simp only [not_exists, not_and, not_not] at hunset
      rw [auth_of_load h hlayers, Layer.topCredentials_unset hunset] at hpath
      cases s <;> cases hpath
    obtain ⟨source, hgives⟩ := exists_givesCredentials hlayers hset
    obtain ⟨-, -, -, ⟨layer, hlayer, -⟩, -⟩ := id hgives
    rw [auth_of_givesCredentials h hgives hlayer, s.of_eq_some_iff hlayer (hfiles hgives)] at hpath
    obtain ⟨base, written, hwrites, rfl⟩ := hpath
    exact ⟨source, base, written, hgives, hwrites, rfl⟩
  · rintro ⟨source, base, written, hgives, hwrites⟩
    obtain ⟨-, -, -, ⟨layer, hlayer, -⟩, -⟩ := id hgives
    rw [auth_of_givesCredentials h hgives hlayer]
    exact (s.of_eq_some_iff hlayer (hfiles hgives)).2 ⟨base, written, hwrites⟩

/-- Loaded settings can be used. -/
theorem usable_of_load (hdir : given = none → ∀ dir ∈ disk.currentDir, dir.isAbsolute = true)
    (h : load disk given overridePath vars = .ok c) : Usable c := by
  obtain ⟨hworkingDir, hcalled, rest, -, hfinish⟩ := layers_of_load h
  obtain ⟨hlimit, hdocs, hdrive, hc⟩ := finish_eq_ok_iff.1 hfinish
  have habs := isAbsolute_workingDirectory hdir hworkingDir
  refine ⟨Nat.one_le_iff_ne_zero.2 hlimit, isWebAddress_iff.1 hdocs, isWebAddress_iff.1 hdrive, ?_,
    ?_⟩
  · rw [hc]
    intro id hid
    obtain ⟨-, hblank⟩ := Option.filter_eq_some_iff.1 hid
    simpa [Text.allBlank] using hblank
  · intro s path hpath
    obtain ⟨source, base, written, ⟨lower, upper, hsplit, -⟩, hwrites, rfl⟩ :=
      (s.of_load_eq_some_iff h habs).1 hpath
    have hsource : source ∈ c.sources := hsplit ▸ List.mem_append_right lower List.mem_cons_self
    exact Path.isAbsolute_under (hwrites.isAbsolute habs (hcalled.isAbsolute habs hsource)) written

/-- **Loaded settings can be used.** The limit is positive, the services have web addresses, the root
folder is not blank, and credential paths are absolute. These are the paths of the source that gives
the credentials, which is the highest one that sets any: a relative path in a settings file starts
at the parent of the path of the file, which is the folder that holds it, and one in the environment
at the working directory. Settings are loaded exactly if there is a working directory, the file
named by hand is there, each source that is called for has a layer, and the limit and the addresses
of all layers together are valid. So nothing is loaded if they are not, or if one of the files that
are called for cannot be read, is no TOML, has data that is not that of settings, or has an unknown
key, whatever lies on top of it. -/
theorem load_usable (hdir : given = none → ∀ dir ∈ disk.currentDir, dir.isAbsolute = true) :
    (∀ c, load disk given overridePath vars = .ok c →
      Usable c ∧
      Called disk c.workingDir (overridePath.map (Path.under c.workingDir)) vars c.sources ∧
      (∀ (s : PathSetting) (path : Path), s.of c.auth = some path ↔ ∃ source base written,
        GivesCredentials disk c.workingDir vars c.sources source ∧
          Writes disk c.workingDir vars s source base written ∧ path = Path.under base written) ∧
      ∀ source ∈ c.sources, ∀ file ∈ source.path?,
        ∃ folder, Path.parent? file = some folder ∧ HeldBy disk file folder) ∧
    ((∃ c, load disk given overridePath vars = .ok c) ↔
      ∃ workingDir sources layers, workingDirectory disk given = .ok workingDir ∧
        (∀ path ∈ overridePath.map (Path.under workingDir), disk.has path = true) ∧
        Called disk workingDir (overridePath.map (Path.under workingDir)) vars sources ∧
        List.Forall₂ (LayerOf disk workingDir vars) sources layers ∧ Valid layers) ∧
    ∀ workingDir sources, workingDirectory disk given = .ok workingDir →
      Called disk workingDir (overridePath.map (Path.under workingDir)) vars sources →
      (∀ layers, List.Forall₂ (LayerOf disk workingDir vars) sources layers → ¬ Valid layers →
        ∃ fault, load disk given overridePath vars = .error fault) ∧
      ∀ source ∈ sources, ∀ file ∈ source.path?, Spoiled disk file →
        ∃ fault, load disk given overridePath vars = .error fault := by
  refine ⟨fun c h => ?_, exists_load_iff, fun workingDir sources hworkingDir hcalled => ⟨?_, ?_⟩⟩
  · obtain ⟨hworkingDir, hcalled, -⟩ := layers_of_load h
    have habs := isAbsolute_workingDirectory hdir hworkingDir
    refine ⟨usable_of_load hdir h, hcalled, fun s path => s.of_load_eq_some_iff h habs, ?_⟩
    intro source hsource file hfile
    obtain ⟨layer, hlayer⟩ := exists_layer_of_load h hsource
    cases hlayer with
    | defaults => cases hfile
    | file hpath hread =>
      obtain ⟨data, hdata, -⟩ := readLayer_eq_ok_iff.1 hread
      cases hfile.symm.trans hpath
      exact hdata.exists_folder (hcalled.isAbsolute habs hsource _ hpath)
    | environment => cases hfile
  · intro layers hlayers hinvalid
    exact load_error_of_not_valid hworkingDir hcalled hlayers hinvalid
  · intro source hsource file hfile hspoiled
    exact load_error_of_spoiled hworkingDir hcalled hsource hfile hspoiled

/-- The file in the working directory sets a limit that is not valid, and the file named by hand,
by a relative path, sets another one and a token file next to itself. -/
theorem load_usable_hidden :
    let text (t : String) : Tree := .file (Text.bytesOf t.toList)
    let inner : Tree := .folder
      [("c", text "limits.max_content_chars=5\nauth.access_token_file='t'\n")]
    let disk : Disk :=
      ⟨.folder [("w", .folder [(fileName, text "limits.max_content_chars=0\n"), ("v", inner)])],
        some "/w"⟩
    (∀ dir ∈ disk.currentDir, dir.isAbsolute = true) ∧
      ∃ c, load disk none (some "v/c") [] = .ok c ∧ Usable c ∧ c.maxContentUnits = 5 ∧
        c.auth.tokenFile = some "/w/v/t" := by
  intro text inner disk
  let ownLayer : Layer := { Layer.empty with maxContentUnits := some 0 }
  let handLayer : Layer :=
    { Layer.empty with maxContentUnits := some 5, auth := ⟨none, none, none, some "/w/v/t"⟩ }
  have hdir : ∀ dir ∈ disk.currentDir, dir.isAbsolute = true := by
    rintro dir ⟨⟩
    decide
  have hown : readLayer disk "/w/.docs-mcp.toml" = .ok ownLayer := by
    have hbytes : disk.readBytes "/w/.docs-mcp.toml" =
        .ok (Text.bytesOf "limits.max_content_chars=0\n".toList) := rfl
    exact readLayer_of_text hbytes (by decide +kernel)
  have hhand : readLayer disk "/w/v/c" = .ok handLayer := by
    have hbytes : disk.readBytes "/w/v/c" =
        .ok (Text.bytesOf "limits.max_content_chars=5\nauth.access_token_file='t'\n".toList) := rfl
    exact readLayer_of_text hbytes (by decide +kernel)
  have hfiles : files disk "/w" (some "/w/v/c") =
      [.localFile "/w/.docs-mcp.toml", .overrideFile "/w/v/c"] := by
    decide
  have hmerged : mergeFiles disk .defaults (files disk "/w" (some "/w/v/c")) =
      .ok ((Layer.defaults.merge ownLayer).merge handLayer) := by
    rw [hfiles, mergeFiles_cons rfl hown, mergeFiles_cons rfl hhand]
    rfl
  let c := (((Layer.defaults.merge ownLayer).merge handLayer).merge (.ofVariables "/w" [])).settled
    "/w" (sourcesOf disk "/w" (some "/w/v/c") [])
  have hload : load disk none (some "v/c") [] = .ok c := by
    refine load_eq_ok_iff.2 ⟨"/w", _, rfl, ?_, hmerged, ?_⟩
    · rintro path ⟨⟩
      decide
    · exact finish_eq_ok_iff.2 ⟨by decide, by decide, by decide, rfl⟩
  obtain ⟨hloaded, -⟩ := @load_usable disk none (some "v/c") [] fun _ => hdir
  obtain ⟨husable, -⟩ := hloaded c hload
  exact ⟨hdir, c, hload, husable, rfl, rfl⟩

end Scribe.Config
