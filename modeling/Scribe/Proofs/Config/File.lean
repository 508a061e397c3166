import Scribe.Config
import Scribe.Proofs.Json.Sorted

/-!
# What a settings file holds

A settings file is read, parsed, and its data taken through what such a file looks like. A layer
comes of it exactly if all three go well (`readLayer_eq_ok_iff`). Data with a key that no settings
file has does not go through, wherever the key stands (`decodeWith_of_hasUnknownKey`), for a closed
record takes nothing but its fields (`of_fromMembers`).
-/

namespace Scribe.Config

open Files Json

variable {disk : Disk} {path folder : Path} {text : String} {data v : Value} {l : Layer}

/-! ### Closed records -/

/-- The members that a closed record takes are its fields, with values that the fields take. -/
theorem of_fromMembers {w : Schema.Wording} {fuel : Nat}
    {fields : List (String × Presence × Schema)} {members given : List (String × Value)}
    (h : Schema.fromMembers w fuel true fields members = .ok given) {name : String} {v : Value}
    (hmem : (name, v) ∈ members) :
    ∃ presence s fuel' got, fields.lookup name = some (presence, s) ∧
      Schema.ofValue w fuel' s v = .ok got := by
  induction members generalizing fuel given with
  | nil => cases hmem
  | cons member rest ih =>
    obtain ⟨key, u⟩ := member
    cases fuel with
    | zero =>
      rw [Schema.fromMembers] at h
      cases h
    | succ fuel =>
      rw [Schema.fromMembers] at h
      cases hkey : fields.lookup key with
      | none =>
        simp only [hkey, if_true] at h
        cases h
      | some field =>
        obtain ⟨presence, s⟩ := field
        simp only [hkey] at h
        cases hvalue : Schema.ofValue w fuel s u with
        | error reason =>
          rw [hvalue] at h
          cases h
        | ok got =>
          cases hrest : Schema.fromMembers w fuel true fields rest with
          | error reason =>
            rw [hvalue, hrest] at h
            cases h
          | ok later =>
            rcases List.mem_cons.1 hmem with heq | hmem
            · cases heq
              exact ⟨presence, s, fuel, got, hkey, hvalue⟩
            · exact ih hrest hmem

/-- An object that a closed record takes has its fields only. -/
theorem of_ofValue_record {w : Schema.Wording} {fuel : Nat} {owner : String}
    {fields : List (String × Presence × Schema)} {members : List (String × Value)} {got : Value}
    (h : Schema.ofValue w fuel (.record owner true fields) (.object members) = .ok got)
    {name : String} {v : Value} (hmem : (name, v) ∈ members) :
    ∃ presence s fuel' got, fields.lookup name = some (presence, s) ∧
      Schema.ofValue w fuel' s v = .ok got := by
  cases fuel with
  | zero =>
    rw [Schema.ofValue] at h
    cases h
  | succ fuel =>
    rw [Schema.ofValue] at h
    cases hgiven : Schema.fromMembers w fuel true fields members with
    | error reason =>
      rw [hgiven] at h
      cases h
    | ok given => exact of_fromMembers hgiven hmem

/-! ### Keys -/

/-- The keys of settings files, group by group. -/
def knownKeys : List (String × List String) :=
  [("drive", ["root_folder_id"]),
   ("auth", ["service_account_key_file", "access_token", "access_token_file"]),
   ("endpoints", ["docs", "drive"]),
   ("limits", ["max_content_chars"]),
   ("log", ["filter"])]

/-- Data with a key that no settings file has: it names no group, or no setting of its group. -/
inductive HasUnknownKey : Value → Prop where
  | group {members : List (String × Value)} {name : String} {v : Value} :
      (name, v) ∈ members → knownKeys.lookup name = none → HasUnknownKey (.object members)
  | setting {members inner : List (String × Value)} {name key : String} {v : Value}
      {known : List String} :
      (name, .object inner) ∈ members → knownKeys.lookup name = some known →
        (key, v) ∈ inner → key ∉ known → HasUnknownKey (.object members)

/-- The fields of a settings file. -/
def groups : List (String × Presence × Schema) :=
  match Layer.schema with
  | .record _ _ fields => fields
  | _ => []

/-- The groups of settings files and the keys in them are the known ones. -/
theorem group_of_lookup {name : String} {presence : Presence} {s : Schema}
    (h : groups.lookup name = some (presence, s)) :
    ∃ owner fields known, s = .record owner true fields ∧ knownKeys.lookup name = some known ∧
      fields.map (·.1) = known := by
  have hall : ∀ entry ∈ groups, ∃ owner fields known, entry.2.2 = .record owner true fields ∧
      knownKeys.lookup entry.1 = some known ∧ fields.map (·.1) = known := by
    simp only [groups, Layer.schema, List.forall_mem_cons]
    exact ⟨⟨_, _, _, rfl, rfl, rfl⟩, ⟨_, _, _, rfl, rfl, rfl⟩, ⟨_, _, _, rfl, rfl, rfl⟩,
      ⟨_, _, _, rfl, rfl, rfl⟩, ⟨_, _, _, rfl, rfl, rfl⟩, List.forall_mem_nil _⟩
  exact hall _ (Value.mem_of_lookup h)

/-- **Data with an unknown key does not go through.** -/
theorem decodeWith_of_hasUnknownKey (h : HasUnknownKey v) :
    ∃ reason, Layer.schema.decodeWith Layer.wording v = .error reason := by
  cases hdecode : Layer.schema.decodeWith Layer.wording v with
  | error reason => exact ⟨reason, rfl⟩
  | ok data =>
    exfalso
    have hrecord : Layer.schema = .record "RawConfig" true groups := rfl
    rw [Schema.decodeWith, hrecord] at hdecode
    cases h with
    | group hmem hunknown =>
      obtain ⟨presence, s, -, -, hgroup, -⟩ := of_ofValue_record hdecode hmem
      obtain ⟨-, -, known, -, hknown, -⟩ := group_of_lookup hgroup
      rw [hunknown] at hknown
      cases hknown
    | setting hmem hknown hkey hunknown =>
      obtain ⟨presence, s, fuel, got, hgroup, hvalue⟩ := of_ofValue_record hdecode hmem
      obtain ⟨owner, fields, known, rfl, hknown', hfields⟩ := group_of_lookup hgroup
      rw [hknown] at hknown'
      cases hknown'
      obtain ⟨presence', s', -, -, hfield, -⟩ := of_ofValue_record hvalue hkey
      exact hunknown (hfields ▸ List.mem_map_of_mem (Value.mem_of_lookup hfield))

/-! ### Layers of files -/

/-- What a settings file holds: its data, as such a file has it. -/
def Holds (disk : Disk) (path : Path) (data : Value) : Prop :=
  ∃ text v, disk.readText path = .ok text ∧ Toml.parse? text = some v ∧
    Layer.schema.decodeWith Layer.wording v = .ok data

/-- The value of a setting in the data of a file. -/
def setting? (data : Value) (group key : String) : Option Value :=
  (data.get? group).bind (·.get? key)

/-- The text of a setting in the data of a file. -/
def textSetting? (data : Value) (group key : String) : Option String :=
  (setting? data group key).bind (·.string?)

/-- The layer of a file with some data in a folder. -/
def Layer.ofData (folder : Path) (data : Value) : Layer where
  rootFolder := textSetting? data "drive" "root_folder_id"
  auth :=
    { key := none
      keyFile := (textSetting? data "auth" "service_account_key_file").map (Path.under folder)
      token := textSetting? data "auth" "access_token"
      tokenFile := (textSetting? data "auth" "access_token_file").map (Path.under folder) }
  docsEndpoint := textSetting? data "endpoints" "docs"
  driveEndpoint := textSetting? data "endpoints" "drive"
  maxContentUnits := (setting? data "limits" "max_content_chars").bind (·.nat?)
  logFilter := textSetting? data "log" "filter"

theorem ofFile_eq_ok_iff : Layer.ofFile folder text = .ok l ↔
    ∃ v data, Toml.parse? text = some v ∧ Layer.schema.decodeWith Layer.wording v = .ok data ∧
      l = Layer.ofData folder data := by
  unfold Layer.ofFile
  constructor
  · intro h
    split at h
    · cases h
    · next v hparse =>
      split at h
      · cases h
      · next data hdecode =>
        cases h
        exact ⟨v, data, hparse, hdecode, rfl⟩
  · rintro ⟨v, data, hparse, hdecode, rfl⟩
    simp only [hparse, hdecode]
    rfl

/-- A settings file has a layer if it holds data, and the layer is that of the data. -/
theorem readLayer_eq_ok_iff : readLayer disk path = .ok l ↔
    ∃ data, Holds disk path data ∧ l = Layer.ofData ((Path.parent? path).getD ".") data := by
  unfold readLayer
  constructor
  · intro h
    split at h
    · cases h
    · next text hread =>
      split at h
      · cases h
      · next layer hfile =>
        cases h
        obtain ⟨v, data, hparse, hdecode, rfl⟩ := ofFile_eq_ok_iff.1 hfile
        exact ⟨data, ⟨text, v, hread, hparse, hdecode⟩, rfl⟩
  · rintro ⟨data, ⟨text, v, hread, hparse, hdecode⟩, rfl⟩
    rw [hread]
    dsimp only
    rw [ofFile_eq_ok_iff.2 ⟨v, data, hparse, hdecode, rfl⟩]

/-! ### Spoiled files -/

/-- Why nothing comes of a settings file: it cannot be read, it is not TOML, its data is not that of
settings, or it has a key that no settings file has. -/
inductive Spoiled (disk : Disk) (path : Path) : Prop where
  | unreadable {cause : FileFault} : disk.readText path = .error cause → Spoiled disk path
  | malformed {text : String} : disk.readText path = .ok text → Toml.parse? text = none →
      Spoiled disk path
  | misfit {text reason : String} {v : Value} : disk.readText path = .ok text →
      Toml.parse? text = some v → Layer.schema.decodeWith Layer.wording v = .error reason →
      Spoiled disk path
  | unknownKey {text : String} {v : Value} : disk.readText path = .ok text →
      Toml.parse? text = some v → HasUnknownKey v → Spoiled disk path

/-- What a file holds comes of its text, whatever else is known of it. -/
theorem Holds.decodeWith (h : Holds disk path data) (hread : disk.readText path = .ok text) :
    ∃ v, Toml.parse? text = some v ∧ Layer.schema.decodeWith Layer.wording v = .ok data := by
  obtain ⟨text', v, hread', hparse, hdecode⟩ := h
  rw [hread] at hread'
  cases hread'
  exact ⟨v, hparse, hdecode⟩

/-- A file holds one thing. -/
theorem Holds.unique {data' : Value} (h : Holds disk path data) (h' : Holds disk path data') :
    data = data' := by
  obtain ⟨text, v, hread, hparse, hdecode⟩ := h
  obtain ⟨v', hparse', hdecode'⟩ := h'.decodeWith hread
  rw [hparse] at hparse'
  cases hparse'
  rw [hdecode] at hdecode'
  cases hdecode'
  rfl

/-- A spoiled file holds nothing. -/
theorem Spoiled.not_holds (h : Spoiled disk path) : ¬ Holds disk path data := by
  intro hholds
  cases h with
  | unreadable hread =>
    obtain ⟨text, v, hread', -⟩ := hholds
    rw [hread] at hread'
    cases hread'
  | malformed hread hparse =>
    obtain ⟨v, hparse', -⟩ := hholds.decodeWith hread
    rw [hparse] at hparse'
    cases hparse'
  | misfit hread hparse hdecode =>
    obtain ⟨v, hparse', hdecode'⟩ := hholds.decodeWith hread
    rw [hparse] at hparse'
    cases hparse'
    rw [hdecode] at hdecode'
    cases hdecode'
  | unknownKey hread hparse hunknown =>
    obtain ⟨v, hparse', hdecode⟩ := hholds.decodeWith hread
    rw [hparse] at hparse'
    cases hparse'
    obtain ⟨reason, hreason⟩ := decodeWith_of_hasUnknownKey hunknown
    rw [hdecode] at hreason
    cases hreason

end Scribe.Config
