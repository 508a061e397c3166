import Scribe.Proofs.Config.Precedence

/-!
# Which credential applies

The credentials of loaded settings are those of the highest layer that sets any of them
(`auth_of_load`), and the first of them that counts is the one that applies (`LeadsTo`). So layers
below that one do not show: two loads that agree from it on lead to the same credential, or to the
same fault (`lower_credentials_never_show`). Of all files only the one that is read has a say.
-/

namespace Scribe.Config

open Files

/-! ### The order of credentials -/

namespace Auth

/-- Whether credentials name a file. -/
def Names (a : Auth) (path : Path) : Prop := a.keyFile = some path ∨ a.tokenFile = some path

/-- Whether a value does not count: it is missing or blank. -/
def Idle (value : Option String) : Prop := ∀ text ∈ value, Text.allBlank text = true

/-- What credentials lead to, and the file that is read for it. A credential is looked for only
where those before it do not count; a file that is named counts, whatever it holds. -/
inductive LeadsTo (disk : Disk) (a : Auth) : Option Path → Except LoadFault Credential → Prop where
  | key {json : String} : a.key = some json → Text.allBlank json = false →
      LeadsTo disk a none (.ok (.key (Text.trim json)))
  | keyFile {path : Path} : Idle a.key → a.keyFile = some path →
      LeadsTo disk a path ((readSecret disk path "service account key file").map .key)
  | token {token : String} : Idle a.key → a.keyFile = none → a.token = some token →
      Text.allBlank token = false → LeadsTo disk a none (.ok (.token (Text.trim token)))
  | tokenFile {path : Path} : Idle a.key → a.keyFile = none → Idle a.token →
      a.tokenFile = some path →
      LeadsTo disk a path ((readSecret disk path "access token file").map .token)
  | missing : Idle a.key → a.keyFile = none → Idle a.token → a.tokenFile = none →
      LeadsTo disk a none (.ok .missing)

variable {disk disk' : Disk} {a : Auth} {read : Option Path} {r : Except LoadFault Credential}

theorem bind_nonBlank?_eq_some_iff {value : Option String} {secret : String} :
    value.bind nonBlank? = some secret ↔
      ∃ text, value = some text ∧ Text.allBlank text = false ∧ Text.trim text = secret := by
  rw [Option.bind_eq_some_iff]
  refine exists_congr fun text => and_congr_right fun _ => ?_
  unfold nonBlank?
  cases Text.allBlank text <;> simp

theorem bind_nonBlank?_eq_none_iff {value : Option String} :
    value.bind nonBlank? = none ↔ Idle value := by
  rw [Option.bind_eq_none_iff]
  refine forall₂_congr fun text _ => ?_
  unfold nonBlank?
  cases Text.allBlank text <;> simp

/-- Credentials always lead somewhere. -/
theorem leadsTo_resolve (disk : Disk) (a : Auth) :
    ∃ read, a.LeadsTo disk read (a.resolve disk) := by
  unfold resolve
  split
  · next json hkey =>
    obtain ⟨text, htext, hblank, rfl⟩ := bind_nonBlank?_eq_some_iff.1 hkey
    exact ⟨_, .key htext hblank⟩
  · next hkey hfile => exact ⟨_, .keyFile (bind_nonBlank?_eq_none_iff.1 hkey) hfile⟩
  · next hkey hfile htoken =>
    obtain ⟨text, htext, hblank, rfl⟩ := bind_nonBlank?_eq_some_iff.1 htoken
    exact ⟨_, .token (bind_nonBlank?_eq_none_iff.1 hkey) hfile htext hblank⟩
  · next hkey hfile htoken hpath =>
    exact ⟨_, .tokenFile (bind_nonBlank?_eq_none_iff.1 hkey) hfile
      (bind_nonBlank?_eq_none_iff.1 htoken) hpath⟩
  · next hkey hfile htoken hpath =>
    exact ⟨_, .missing (bind_nonBlank?_eq_none_iff.1 hkey) hfile
      (bind_nonBlank?_eq_none_iff.1 htoken) hpath⟩

/-- Credentials lead nowhere else. -/
theorem LeadsTo.eq_resolve (h : a.LeadsTo disk read r) : r = a.resolve disk := by
  have hidle : ∀ {value : Option String}, Idle value → value.bind nonBlank? = none :=
    bind_nonBlank?_eq_none_iff.2
  have hgiven : ∀ {value : Option String} {text : String}, value = some text →
      Text.allBlank text = false → value.bind nonBlank? = some (Text.trim text) :=
    fun hvalue hblank => bind_nonBlank?_eq_some_iff.2 ⟨_, hvalue, hblank, rfl⟩
  unfold resolve
  cases h with
  | key hkey hblank => rw [hgiven hkey hblank]
  | keyFile hkey hfile => rw [hidle hkey, hfile]
  | token hkey hfile htoken hblank => rw [hidle hkey, hfile, hgiven htoken hblank]
  | tokenFile hkey hfile htoken hpath => rw [hidle hkey, hfile, hidle htoken, hpath]
  | missing hkey hfile htoken hpath => rw [hidle hkey, hfile, hidle htoken, hpath]

/-- A file that is read is named by the credentials. -/
theorem LeadsTo.names {path : Path} (h : a.LeadsTo disk (some path) r) : a.Names path := by
  cases h with
  | keyFile _ hfile => exact .inl hfile
  | tokenFile _ _ _ hpath => exact .inr hpath

theorem readSecret_congr {path : Path} (h : disk.readText path = disk'.readText path)
    (what : String) : readSecret disk path what = readSecret disk' path what := by
  rw [readSecret, h, readSecret]

/-- Of the disk only the file that is read has a say. -/
theorem LeadsTo.congr (h : a.LeadsTo disk read r)
    (hread : ∀ path ∈ read, disk.readText path = disk'.readText path) : a.LeadsTo disk' read r := by
  cases h with
  | key hkey hblank => exact .key hkey hblank
  | keyFile hkey hfile =>
    rw [readSecret_congr (hread _ rfl)]
    exact .keyFile hkey hfile
  | token hkey hfile htoken hblank => exact .token hkey hfile htoken hblank
  | tokenFile hkey hfile htoken hpath =>
    rw [readSecret_congr (hread _ rfl)]
    exact .tokenFile hkey hfile htoken hpath
  | missing hkey hfile htoken hpath => exact .missing hkey hfile htoken hpath

/-- Disks on which the named files read alike lead to the same credential. -/
theorem resolve_congr (h : ∀ path, a.Names path → disk.readText path = disk'.readText path) :
    a.resolve disk = a.resolve disk' := by
  obtain ⟨read, hleads⟩ := leadsTo_resolve disk a
  refine (hleads.congr fun path hpath => h path ?_).eq_resolve
  cases hpath
  exact hleads.names

end Auth

/-! ### The layer that gives the credentials -/

namespace Layer

/-- The credentials of the highest layer that sets any of them. -/
def topCredentials (layers : List Layer) : Auth := (lastSet? credentials? layers).getD .unset

/-- Stacks of layers that agree from the highest one on that sets a credential. The layers below it
may differ in anything. -/
inductive AgreeFromTop : List Layer → List Layer → Prop where
  | unset {layers layers' : List Layer} : (∀ l ∈ layers, l.auth = .unset) →
      (∀ l ∈ layers', l.auth = .unset) → AgreeFromTop layers layers'
  | top {lower lower' upper : List Layer} {l : Layer} : l.auth ≠ .unset →
      (∀ u ∈ upper, u.auth = .unset) → AgreeFromTop (lower ++ l :: upper) (lower' ++ l :: upper)

variable {layers layers' : List Layer}

theorem lastSet?_credentials?_eq_none (h : ∀ l ∈ layers, l.auth = .unset) :
    lastSet? credentials? layers = none := by
  unfold lastSet?
  rw [List.findSome?_eq_none_iff]
  intro l hl
  rw [credentials?, if_pos (h l (List.mem_reverse.1 hl))]

theorem topCredentials_unset (h : ∀ l ∈ layers, l.auth = .unset) :
    topCredentials layers = .unset := by
  rw [topCredentials, lastSet?_credentials?_eq_none h]
  rfl

theorem topCredentials_append {lower upper : List Layer} {l : Layer} (hl : l.auth ≠ .unset)
    (hupper : ∀ u ∈ upper, u.auth = .unset) : topCredentials (lower ++ l :: upper) = l.auth := by
  have hset : credentials? l = some l.auth := if_neg hl
  rw [topCredentials, lastSet?_append, lastSet?_cons, lastSet?_credentials?_eq_none hupper, hset]
  rfl

theorem AgreeFromTop.topCredentials_eq (h : AgreeFromTop layers layers') :
    topCredentials layers = topCredentials layers' := by
  cases h with
  | unset hlayers hlayers' => rw [topCredentials_unset hlayers, topCredentials_unset hlayers']
  | top hl hupper => rw [topCredentials_append hl hupper, topCredentials_append hl hupper]

end Layer

variable {disk disk' : Disk} {given given' overridePath overridePath' : Option Path}
  {vars vars' : Layer.Variables} {c c' : Config} {layers layers' : List Layer}

/-- A source has one layer. -/
theorem LayerOf.unique {workingDir : Path} {source : Source} {layer layer' : Layer}
    (h : LayerOf disk workingDir vars source layer)
    (h' : LayerOf disk workingDir vars source layer') : layer = layer' := by
  cases h with
  | defaults =>
    cases h' with
    | defaults => rfl
    | file hpath => cases hpath
  | file hpath hread =>
    cases h' with
    | defaults => cases hpath
    | environment => cases hpath
    | file hpath' hread' =>
      rw [hpath, Option.some.injEq] at hpath'
      rw [← hpath', hread, Except.ok.injEq] at hread'
      exact hread'
  | environment =>
    cases h' with
    | environment => rfl
    | file hpath => cases hpath

/-- Loaded settings have the credentials of the highest layer that sets any. -/
theorem auth_of_load (h : load disk given overridePath vars = .ok c)
    (hlayers : List.Forall₂ (LayerOf disk c.workingDir vars) c.sources layers) :
    c.auth = Layer.topCredentials layers := by
  obtain ⟨-, -, rest, hrest, hfinish⟩ := layers_of_load h
  have hunique : Relator.RightUnique (LayerOf disk c.workingDir vars) := fun _ _ _ => LayerOf.unique
  have hsame : layers = .defaults :: rest := List.right_unique_forall₂' hunique hlayers hrest
  obtain ⟨-, -, -, hc⟩ := finish_eq_ok_iff.1 hfinish
  have hauth : c.auth = (rest.foldl Layer.merge .defaults).auth := congrArg Config.auth hc
  rw [hauth, Layer.auth_eq_credentials?, Layer.overlays_credentials?.foldl_defaults, hsame]
  rfl

/-- **Lower credentials never show.** Take two loads whose layers agree from the highest one on that
sets a credential, and disks on which the files that this layer names read alike. Then the
credentials lead to the same in both, a credential or a fault. It is what the credentials of that
layer lead to, and no file is read but one that they name. -/
theorem lower_credentials_never_show {now now' : Disk}
    (h : load disk given overridePath vars = .ok c)
    (h' : load disk' given' overridePath' vars' = .ok c')
    (hlayers : List.Forall₂ (LayerOf disk c.workingDir vars) c.sources layers)
    (hlayers' : List.Forall₂ (LayerOf disk' c'.workingDir vars') c'.sources layers')
    (hagree : Layer.AgreeFromTop layers layers')
    (hfiles : ∀ path, (Layer.topCredentials layers).Names path →
      now.readText path = now'.readText path) :
    c.auth.resolve now = c'.auth.resolve now' ∧
      ∃ read, (Layer.topCredentials layers).LeadsTo now read (c.auth.resolve now) ∧
        ∀ path ∈ read, (Layer.topCredentials layers).Names path := by
  have hauth := auth_of_load h hlayers
  have hauth' : c'.auth = Layer.topCredentials layers :=
    (auth_of_load h' hlayers').trans hagree.topCredentials_eq.symm
  rw [hauth, hauth']
  obtain ⟨read, hleads⟩ := (Layer.topCredentials layers).leadsTo_resolve now
  refine ⟨Auth.resolve_congr hfiles, read, hleads, ?_⟩
  rintro path ⟨⟩
  exact hleads.names

/-- The environment names a file that is gone. Whichever token the settings file below gives, there
is none. -/
theorem lower_credentials_never_show_gone :
    let disk (settings : String) : Disk :=
      ⟨.folder [("w", .folder [(fileName, .file (Text.bytesOf settings.toList))])], some "/w"⟩
    let vars := [("GOOGLE_ACCESS_TOKEN_FILE", "gone")]
    ∃ c c', load (disk "auth.access_token='t'\n") none none vars = .ok c ∧
      load (disk "auth.access_token='u'\n") none none vars = .ok c' ∧
      c.auth.resolve (disk "auth.access_token='t'\n") = .error (.io "/w/gone" .notFound) ∧
      c'.auth.resolve (disk "auth.access_token='u'\n") = .error (.io "/w/gone" .notFound) := by
  intro disk vars
  let ownLayer (token : String) : Layer :=
    { Layer.empty with auth := ⟨none, none, some token, none⟩ }
  let envLayer : Layer := { Layer.empty with auth := ⟨none, none, none, some "/w/gone"⟩ }
  have henv : Layer.ofVariables "/w" vars = envLayer := by decide
  have hunits : Layer.defaultMaxContentUnits ≠ 0 := by decide
  have hdocs : isWebAddress Layer.defaultDocsEndpoint = true := by decide
  have hdrive : isWebAddress Layer.defaultDriveEndpoint = true := by decide
  have hload : ∀ settings token,
      (Layer.ofFile "/w" settings).toOption = some (ownLayer token) →
      ∃ c, load (disk settings) none none vars = .ok c ∧
        List.Forall₂ (LayerOf (disk settings) c.workingDir vars) c.sources
          [.defaults, ownLayer token, envLayer] := by
    intro settings token hfile
    have hread : readLayer (disk settings) "/w/.docs-mcp.toml" = .ok (ownLayer token) :=
      readLayer_of_text rfl hfile
    have hfiles : files (disk settings) "/w" none = [.localFile "/w/.docs-mcp.toml"] := rfl
    have hsources : sourcesOf (disk settings) "/w" none vars =
        [.defaults, .localFile "/w/.docs-mcp.toml", .environment] := rfl
    have hmerged : mergeFiles (disk settings) .defaults (files (disk settings) "/w" none) =
        .ok (Layer.defaults.merge (ownLayer token)) := by
      rw [hfiles, mergeFiles_cons rfl hread]
      rfl
    refine ⟨((Layer.defaults.merge (ownLayer token)).merge envLayer).settled "/w"
      (sourcesOf (disk settings) "/w" none vars),
      load_eq_ok_iff.2 ⟨"/w", _, rfl, ?_, hmerged, ?_⟩, ?_⟩
    · rintro path ⟨⟩
    · rw [henv]
      exact finish_eq_ok_iff.2 ⟨hunits, hdocs, hdrive, rfl⟩
    · change List.Forall₂ _ (sourcesOf (disk settings) "/w" none vars) _
      rw [hsources, ← henv]
      exact .cons .defaults (.cons (.file rfl hread) (.cons .environment .nil))
  obtain ⟨c, hc, hlayers⟩ := hload "auth.access_token='t'\n" "t" (by decide +kernel)
  obtain ⟨c', hc', hlayers'⟩ := hload "auth.access_token='u'\n" "u" (by decide +kernel)
  have htop : Layer.topCredentials [.defaults, ownLayer "t", envLayer] = envLayer.auth := rfl
  have hmissing : ∀ settings, (disk settings).readText "/w/gone" = .error .notFound := fun _ => rfl
  have hfiles : ∀ path, (Layer.topCredentials [.defaults, ownLayer "t", envLayer]).Names path →
      (disk "auth.access_token='t'\n").readText path =
        (disk "auth.access_token='u'\n").readText path := by
    rw [htop]
    rintro path (hkey | hpath)
    · cases hkey
    · cases hpath
      rw [hmissing, hmissing]
  have hagree : Layer.AgreeFromTop [.defaults, ownLayer "t", envLayer]
      [.defaults, ownLayer "u", envLayer] :=
    @Layer.AgreeFromTop.top [.defaults, ownLayer "t"] [.defaults, ownLayer "u"] [] envLayer
      (by decide) (fun u hu => nomatch hu)
  obtain ⟨hsame, -⟩ := lower_credentials_never_show hc hc' hlayers hlayers' hagree hfiles
  have hgone : c.auth.resolve (disk "auth.access_token='t'\n") =
      .error (.io "/w/gone" .notFound) := by
    rw [auth_of_load hc hlayers, htop]
    rfl
  exact ⟨c, c', hc, hc', hgone, hsame.symm.trans hgone⟩

end Scribe.Config
