import Mathlib.Data.List.Forall2
import Scribe.Proofs.Action
import Scribe.Proofs.Config.Sources
import Scribe.Proofs.Text.Utf8

/-!
# Which settings apply

Settings that were loaded name the sources that were called for, and each setting is that of the last
of them whose layer sets it (`load_precedence`). What can fail on the way is listed where it is
checked (`load_eq_ok_iff`, `finish_eq_ok_iff`).
-/

namespace Scribe.Config

open Files

variable {disk : Disk} {workingDir : Path} {overridePath : Option Path} {vars : Layer.Variables}

/-- The layer of a source. -/
inductive LayerOf (disk : Disk) (workingDir : Path) (vars : Layer.Variables) :
    Source → Layer → Prop where
  | defaults : LayerOf disk workingDir vars .defaults .defaults
  | file {source : Source} {path : Path} {layer : Layer} :
      source.path? = some path → readLayer disk path = .ok layer →
        LayerOf disk workingDir vars source layer
  | environment : LayerOf disk workingDir vars .environment (.ofVariables workingDir vars)

theorem mergeFiles_cons {source : Source} {path : Path} {layer base : Layer}
    (hpath : source.path? = some path) (hread : readLayer disk path = .ok layer)
    (rest : List Source) :
    mergeFiles disk base (source :: rest) = mergeFiles disk (base.merge layer) rest := by
  rw [mergeFiles, hpath]
  dsimp only
  rw [hread]
  rfl

/-- Merging files merges their layers. -/
theorem layers_of_mergeFiles (workingDir : Path) (vars : Layer.Variables) {sources : List Source}
    (hfiles : ∀ source ∈ sources, ∃ path, source.path? = some path) {base merged : Layer}
    (h : mergeFiles disk base sources = .ok merged) :
    ∃ layers, List.Forall₂ (LayerOf disk workingDir vars) sources layers ∧
      merged = layers.foldl Layer.merge base := by
  induction sources generalizing base with
  | nil =>
    cases h
    exact ⟨[], .nil, rfl⟩
  | cons source rest ih =>
    obtain ⟨hsource, hrest⟩ := List.forall_mem_cons.1 hfiles
    obtain ⟨path, hpath⟩ := hsource
    cases hread : readLayer disk path with
    | error fault =>
      rw [mergeFiles, hpath] at h
      dsimp only at h
      rw [hread] at h
      cases h
    | ok layer =>
      rw [mergeFiles_cons hpath hread] at h
      obtain ⟨layers, hlayers, hmerged⟩ := ih hrest h
      exact ⟨layer :: layers, .cons (.file hpath hread) hlayers, hmerged⟩

theorem path?_of_mem_files {source : Source} (h : source ∈ files disk workingDir overridePath) :
    ∃ path, source.path? = some path := by
  rw [files_eq] at h
  simp only [List.mem_append, Option.mem_toList, Option.map_eq_some_iff] at h
  obtain (⟨path, -, rfl⟩ | ⟨path, -, rfl⟩) | ⟨path, -, rfl⟩ := h <;> exact ⟨path, rfl⟩

theorem readLayer_of_text {path : Path} {text : String} {layer : Layer}
    (hbytes : disk.readBytes path = .ok (Text.bytesOf text.toList))
    (hlayer : (Layer.ofFile ((Path.parent? path).getD ".") text).toOption = some layer) :
    readLayer disk path = .ok layer := by
  have htext : Text.decode? (Text.bytesOf text.toList) = some text :=
    Text.decode?_eq_some_iff.2 rfl
  have hread : disk.readText path = .ok text := by
    rw [Disk.readText, hbytes]
    simp only [bind, Except.bind, htext]
    rfl
  rw [readLayer, hread]
  dsimp only
  cases hfile : Layer.ofFile ((Path.parent? path).getD ".") text with
  | error reason =>
    rw [hfile] at hlayer
    cases hlayer
  | ok l =>
    rw [hfile] at hlayer
    cases hlayer
    rfl

/-- The settings that a layer gives, valid or not. -/
def Layer.settled (l : Layer) (workingDir : Path) (sources : List Source) : Config where
  rootFolder := l.rootFolder.filter fun id => !Text.allBlank id
  auth := l.auth
  docsEndpoint := l.docsEndpoint.getD Layer.defaultDocsEndpoint
  driveEndpoint := l.driveEndpoint.getD Layer.defaultDriveEndpoint
  maxContentUnits := l.maxContentUnits.getD Layer.defaultMaxContentUnits
  logFilter := l.logFilter.getD Layer.defaultLogFilter
  workingDir := workingDir
  sources := sources

theorem finish_eq_ok_iff {l : Layer} {sources : List Source} {c : Config} :
    l.finish workingDir sources = .ok c ↔
      c.maxContentUnits ≠ 0 ∧ isWebAddress c.docsEndpoint = true ∧
        isWebAddress c.driveEndpoint = true ∧ c = l.settled workingDir sources := by
  have hfinish : l.finish workingDir sources =
      if (l.settled workingDir sources).maxContentUnits = 0 then .error _
      else if !isWebAddress (l.settled workingDir sources).docsEndpoint then .error _
      else if !isWebAddress (l.settled workingDir sources).driveEndpoint then .error _
      else .ok (l.settled workingDir sources) := rfl
  constructor
  · intro h
    rw [hfinish] at h
    split at h
    · cases h
    · next hunits =>
      split at h
      · cases h
      · next hdocs =>
        split at h
        · cases h
        · next hdrive =>
          cases h
          exact ⟨hunits, by simpa using hdocs, by simpa using hdrive, rfl⟩
  · rintro ⟨hunits, hdocs, hdrive, rfl⟩
    rw [hfinish, if_neg hunits, if_neg (by simp [hdocs]), if_neg (by simp [hdrive])]

/-- The loop in which the file named by hand is checked. -/
theorem check_eq_ok_iff {overridePath : Option Path} :
    (forIn overridePath PUnit.unit fun path _ =>
        if !disk.has path then do
          throw (LoadFault.overrideNotFound path)
          pure (ForInStep.yield PUnit.unit)
        else pure (ForInStep.yield PUnit.unit) : Except LoadFault PUnit) = .ok PUnit.unit ↔
      ∀ path ∈ overridePath, disk.has path = true := by
  cases overridePath with
  | none => exact iff_of_true rfl (fun path h => nomatch h)
  | some path =>
    cases hhas : disk.has path with
    | true =>
      refine iff_of_true ?_ (by simp [hhas])
      simp [hhas]
      rfl
    | false => exact iff_of_false (by simp [hhas]) (by simp [hhas])

theorem load_eq_ok_iff {given : Option Path} {c : Config} :
    load disk given overridePath vars = .ok c ↔
      ∃ workingDir merged, workingDirectory disk given = .ok workingDir ∧
        (∀ path ∈ overridePath.map (Path.under workingDir), disk.has path = true) ∧
        mergeFiles disk .defaults
            (files disk workingDir (overridePath.map (Path.under workingDir))) = .ok merged ∧
        (merged.merge (.ofVariables workingDir vars)).finish workingDir
          (sourcesOf disk workingDir (overridePath.map (Path.under workingDir)) vars) = .ok c := by
  unfold load
  constructor
  · intro h
    obtain ⟨workingDir, hdir, h⟩ := ok_of_bind h
    obtain ⟨_, hchecked, h⟩ := ok_of_bind h
    obtain ⟨merged, hmerged, h⟩ := ok_of_bind h
    exact ⟨workingDir, merged, hdir, check_eq_ok_iff.1 hchecked, hmerged, h⟩
  · rintro ⟨workingDir, merged, hdir, hfound, hmerged, hfinish⟩
    rw [hdir]
    change ((forIn _ _ _ : Except LoadFault PUnit) >>= fun _ => mergeFiles _ _ _ >>= _) = _
    rw [check_eq_ok_iff.2 hfound]
    change (mergeFiles _ _ _ >>= _) = _
    rw [hmerged]
    exact hfinish

/-- Merging the environment merges its layer, if it has one. -/
theorem layers_of_environment (disk : Disk) (workingDir : Path) (vars : Layer.Variables)
    (base : Layer) :
    ∃ layers, List.Forall₂ (LayerOf disk workingDir vars)
        (if (Layer.ofVariables workingDir vars).isEmpty then [] else [.environment]) layers ∧
      base.merge (.ofVariables workingDir vars) = layers.foldl Layer.merge base := by
  split
  · next hempty =>
    rw [Layer.isEmpty_iff.1 hempty]
    exact ⟨[], .nil, base.merge_empty⟩
  · exact ⟨[.ofVariables workingDir vars], .cons .environment .nil, rfl⟩

/-- The layers of all sources, and what they come to. -/
theorem layers_of_load {given : Option Path} {c : Config}
    (h : load disk given overridePath vars = .ok c) :
    workingDirectory disk given = .ok c.workingDir ∧
    Called disk c.workingDir (overridePath.map (Path.under c.workingDir)) vars c.sources ∧
    ∃ rest, List.Forall₂ (LayerOf disk c.workingDir vars) c.sources (.defaults :: rest) ∧
      (rest.foldl Layer.merge .defaults).finish c.workingDir c.sources = .ok c := by
  obtain ⟨workingDir, merged, hdir, -, hmerged, hfinish⟩ := load_eq_ok_iff.1 h
  obtain ⟨-, -, -, hc⟩ := finish_eq_ok_iff.1 hfinish
  have hplace : c.workingDir = workingDir := congrArg Config.workingDir hc
  have hsources : c.sources = _ := congrArg Config.sources hc
  rw [hplace, hsources]
  -- The files lie on the defaults, and the environment on top of them.
  obtain ⟨fileLayers, hfileLayers, rfl⟩ :=
    layers_of_mergeFiles workingDir vars (fun _ => path?_of_mem_files) hmerged
  obtain ⟨envLayers, henvLayers, hall⟩ :=
    layers_of_environment disk workingDir vars (fileLayers.foldl Layer.merge .defaults)
  refine ⟨hdir, called_sourcesOf, fileLayers ++ envLayers,
    .cons .defaults (List.rel_append hfileLayers henvLayers), ?_⟩
  rw [List.foldl_append, ← hall]
  exact hfinish

/-- **Settings come in the order of their precedence.** The sources of loaded settings are those that
are called for. There is a layer for each of them such that every setting is that of the last layer
which sets it; the credentials are one such setting, so that they are never taken from two layers. -/
theorem load_precedence {given : Option Path} {c : Config}
    (h : load disk given overridePath vars = .ok c) :
    workingDirectory disk given = .ok c.workingDir ∧
    Called disk c.workingDir (overridePath.map (Path.under c.workingDir)) vars c.sources ∧
    ∃ layers, List.Forall₂ (LayerOf disk c.workingDir vars) c.sources layers ∧
      c.rootFolder =
        (Layer.lastSet? Layer.rootFolder layers).filter (fun id => !Text.allBlank id) ∧
      some c.docsEndpoint = Layer.lastSet? Layer.docsEndpoint layers ∧
      some c.driveEndpoint = Layer.lastSet? Layer.driveEndpoint layers ∧
      some c.maxContentUnits = Layer.lastSet? Layer.maxContentUnits layers ∧
      some c.logFilter = Layer.lastSet? Layer.logFilter layers ∧
      c.auth = (Layer.lastSet? Layer.credentials? layers).getD .unset := by
  obtain ⟨hdir, hcalled, rest, hlayers, hfinish⟩ := layers_of_load h
  have hroot : Layer.Overlays Layer.rootFolder := fun _ _ => rfl
  have hdocs : Layer.Overlays Layer.docsEndpoint := fun _ _ => rfl
  have hdrive : Layer.Overlays Layer.driveEndpoint := fun _ _ => rfl
  have hunits : Layer.Overlays Layer.maxContentUnits := fun _ _ => rfl
  have hlog : Layer.Overlays Layer.logFilter := fun _ _ => rfl
  obtain ⟨-, -, -, hc⟩ := finish_eq_ok_iff.1 hfinish
  refine ⟨hdir, hcalled, .defaults :: rest, hlayers, ?_⟩
  rw [hc, ← hroot.foldl_defaults, ← Layer.overlays_credentials?.foldl_defaults]
  exact ⟨rfl, hdocs.some_foldl_defaults rfl rest, hdrive.some_foldl_defaults rfl rest,
    hunits.some_foldl_defaults rfl rest, hlog.some_foldl_defaults rfl rest,
    Layer.auth_eq_credentials? _⟩

/-- The log is filtered as the environment says, and the token is that of the file named by hand. -/
theorem load_precedence_four :
    let text (t : String) : Tree := .file (Text.bytesOf t.toList)
    let inner : Tree := .folder [("other", text "auth.access_token='t'\n")]
    let outer : Tree :=
      .folder [(".git", .folder []), (fileName, text "log.filter='a'\n"), ("v", inner)]
    let disk : Disk := ⟨.folder [("w", outer)], some "/w/v"⟩
    let vars := [("DOCS_MCP_LOG", "b")]
    ∃ c, load disk none (some "other") vars = .ok c ∧
      Called disk "/w/v" (some "/w/v/other") vars c.sources ∧ c.sources.length = 4 ∧
      c.logFilter = "b" ∧ c.auth = ⟨none, none, some "t", none⟩ := by
  intro text inner outer disk vars
  let rootLayer : Layer := { Layer.empty with logFilter := some "a" }
  let otherLayer : Layer := { Layer.empty with auth := ⟨none, none, some "t", none⟩ }
  let envLayer : Layer := { Layer.empty with logFilter := some "b" }
  have hroot : readLayer disk "/w/.docs-mcp.toml" = .ok rootLayer := by
    have hbytes : disk.readBytes "/w/.docs-mcp.toml" =
        .ok (Text.bytesOf "log.filter='a'\n".toList) := rfl
    exact readLayer_of_text hbytes (by decide +kernel)
  have hother : readLayer disk "/w/v/other" = .ok otherLayer := by
    have hbytes : disk.readBytes "/w/v/other" =
        .ok (Text.bytesOf "auth.access_token='t'\n".toList) := rfl
    exact readLayer_of_text hbytes (by decide +kernel)
  have hfiles : files disk "/w/v" (some "/w/v/other") =
      [.gitRoot "/w/.docs-mcp.toml", .overrideFile "/w/v/other"] := by
    decide
  have hmerged : mergeFiles disk .defaults (files disk "/w/v" (some "/w/v/other")) =
      .ok ((Layer.defaults.merge rootLayer).merge otherLayer) := by
    rw [hfiles, mergeFiles_cons rfl hroot, mergeFiles_cons rfl hother]
    rfl
  have henv : Layer.ofVariables "/w/v" vars = envLayer := by decide
  let c := (((Layer.defaults.merge rootLayer).merge otherLayer).merge envLayer).settled "/w/v"
    (sourcesOf disk "/w/v" (some "/w/v/other") vars)
  have hload : load disk none (some "other") vars = .ok c := by
    refine load_eq_ok_iff.2 ⟨"/w/v", _, rfl, ?_, hmerged, ?_⟩
    · rintro path ⟨⟩
      decide
    · rw [henv]
      exact finish_eq_ok_iff.2 ⟨by decide, by decide, by decide, rfl⟩
  obtain ⟨-, hcalled, -⟩ := load_precedence hload
  have hpath : Path.under "/w/v" "other" = "/w/v/other" := by decide
  change Called disk "/w/v" (some (Path.under "/w/v" "other")) vars c.sources at hcalled
  rw [hpath] at hcalled
  exact ⟨c, hload, hcalled, by decide, rfl, rfl⟩

end Scribe.Config
