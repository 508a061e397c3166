import Scribe.Config
import Scribe.Credential
import Scribe.Proofs.Text.Quoted

/-!
# Secrets in shown forms

Two values are alike in public if they differ in nothing but their secrets: in the JSON of a key, in
a private key, or in an access token. The shown forms of credential settings, of a credential that
they lead to, and of a key are equal exactly for values that are alike in public: these forms show
everything but the secrets. The shown form of credentials for the service leaves out a private key
too, but an access token stands in it as it is (`Credentials.shown_eq_iff`).
-/

namespace Scribe

/-! ### Settings -/

namespace Config

/-- The settings name the same files, and set the same of the secrets. -/
structure Auth.AlikeInPublic (a b : Auth) : Prop where
  key : a.key.isSome = b.key.isSome
  keyFile : a.keyFile = b.keyFile
  token : a.token.isSome = b.token.isSome
  tokenFile : a.tokenFile = b.tokenFile

theorem Auth.redacted_eq_iff {secret secret' : Option String} :
    redacted secret = redacted secret' ↔ secret.isSome = secret'.isSome := by
  cases secret <;> cases secret' <;> simp [redacted]

/-- **Credential settings show everything but the secrets.** -/
theorem Auth.shown_eq_iff {a b : Auth} : a.shown = b.shown ↔ a.AlikeInPublic b := by
  unfold shown
  simp only [String.append_assoc]
  rw [String.append_right_inj, Text.quotedOption_append_inj, String.append_right_inj,
    Text.quotedOption_append_inj, String.append_right_inj, Text.quotedOption_append_inj,
    String.append_right_inj, Text.quotedOption_append_inj, redacted_eq_iff, redacted_eq_iff]
  constructor
  · rintro ⟨hkey, hkeyFile, htoken, htokenFile, -⟩
    exact ⟨hkey, hkeyFile, htoken, htokenFile⟩
  · rintro ⟨hkey, hkeyFile, htoken, htokenFile⟩
    exact ⟨hkey, hkeyFile, htoken, htokenFile, rfl⟩

/-- Both credentials are keys, or tokens, or missing. -/
inductive Credential.AlikeInPublic : Credential → Credential → Prop where
  | key (json json' : String) : AlikeInPublic (.key json) (.key json')
  | token (token token' : String) : AlikeInPublic (.token token) (.token token')
  | missing : AlikeInPublic .missing .missing

/-- **A credential shows nothing but its kind.** -/
theorem Credential.shown_eq_iff {a b : Credential} : a.shown = b.shown ↔ a.AlikeInPublic b := by
  constructor
  · intro h
    cases a <;> cases b <;> first | constructor | simp [shown] at h
  · rintro (_ | _ | _) <;> rfl

end Config

/-! ### Keys -/

/-- The keys are of the same account, and are exchanged at the same place. -/
structure ServiceKey.AlikeInPublic (k l : ServiceKey) : Prop where
  clientEmail : k.clientEmail = l.clientEmail
  tokenUri : k.tokenUri = l.tokenUri

/-- What is shown of a key, with any text behind it. -/
theorem ServiceKey.shown_append_inj {k l : ServiceKey} {t t' : String} :
    k.shown ++ t = l.shown ++ t' ↔ k.AlikeInPublic l ∧ t = t' := by
  unfold shown
  simp only [String.append_assoc]
  rw [String.append_right_inj, Text.quoted_append_inj, String.append_right_inj,
    Text.quoted_append_inj, String.append_right_inj]
  constructor
  · rintro ⟨hemail, huri, ht⟩
    exact ⟨⟨hemail, huri⟩, ht⟩
  · rintro ⟨⟨hemail, huri⟩, ht⟩
    exact ⟨hemail, huri, ht⟩

/-- **A key shows everything but the private key.** -/
theorem ServiceKey.shown_eq_iff {k l : ServiceKey} : k.shown = l.shown ↔ k.AlikeInPublic l := by
  simpa using @shown_append_inj k l "" ""

/-! ### Credentials -/

namespace Credentials

/-- Both credentials are keys that are alike in public, or access tokens, or missing. -/
inductive AlikeInPublic : Credentials → Credentials → Prop where
  | serviceAccount {k l : ServiceKey} :
      k.AlikeInPublic l → AlikeInPublic (.serviceAccount k) (.serviceAccount l)
  | accessToken (token token' : String) : AlikeInPublic (.accessToken token) (.accessToken token')
  | missing : AlikeInPublic .missing .missing

/-- The access token that the credentials hold as it is. -/
def token? : Credentials → Option String
  | .accessToken token => some token
  | .serviceAccount _ | .missing => none

/-- The first letter of the shown form, which tells the kinds apart. -/
def initial : Credentials → Char
  | .serviceAccount _ => 'S'
  | .accessToken _ => 'A'
  | .missing => 'M'

theorem shown_serviceAccount (key : ServiceKey) :
    (serviceAccount key).shown = "ServiceAccount(" ++ (key.shown ++ ")") :=
  String.append_assoc

theorem shown_accessToken (token : String) :
    (accessToken token).shown = "AccessToken(" ++ (Text.quoted token ++ ")") :=
  String.append_assoc

theorem head?_shown (a : Credentials) : a.shown.toList.head? = some a.initial := by
  cases a with
  | serviceAccount key => simp [shown_serviceAccount, initial]
  | accessToken token => simp [shown_accessToken, initial]
  | missing => rfl

/-- **Credentials show everything but a private key**: an access token is shown. -/
theorem shown_eq_iff {a b : Credentials} :
    a.shown = b.shown ↔ a.AlikeInPublic b ∧ a.token? = b.token? := by
  constructor
  · intro h
    have hinitial : a.initial = b.initial := by
      have hhead := congrArg (·.toList.head?) h
      simpa only [head?_shown, Option.some.injEq] using hhead
    cases a with
    | serviceAccount k =>
      cases b with
      | serviceAccount l =>
        rw [shown_serviceAccount, shown_serviceAccount, String.append_right_inj,
          ServiceKey.shown_append_inj] at h
        exact ⟨.serviceAccount h.1, rfl⟩
      | _ => simp [initial] at hinitial
    | accessToken token =>
      cases b with
      | accessToken token' =>
        rw [shown_accessToken, shown_accessToken, String.append_right_inj,
          Text.quoted_append_inj] at h
        exact ⟨.accessToken token token', congrArg some h.1⟩
      | _ => simp [initial] at hinitial
    | missing =>
      cases b with
      | missing => exact ⟨.missing, rfl⟩
      | _ => simp [initial] at hinitial
  · rintro ⟨halike, htoken⟩
    cases halike with
    | serviceAccount hkey =>
      rw [shown_serviceAccount, shown_serviceAccount, ServiceKey.shown_eq_iff.2 hkey]
    | accessToken token token' => rw [Option.some.inj htoken]
    | missing => rfl

end Credentials

/-- **Shown forms hide all secrets but access tokens.** Of settings, credentials that they lead to,
and keys, two are shown alike exactly if they differ in nothing but their secrets. Of credentials
for the service, they must hold the same access token besides. -/
theorem shown_hides_all_but_tokens (a b : Config.Auth) (c d : Config.Credential)
    (k l : ServiceKey) (e f : Credentials) :
    (a.shown = b.shown ↔ a.AlikeInPublic b) ∧
      (c.shown = d.shown ↔ c.AlikeInPublic d) ∧
      (k.shown = l.shown ↔ k.AlikeInPublic l) ∧
      (e.shown = f.shown ↔ e.AlikeInPublic f ∧ e.token? = f.token?) :=
  ⟨Config.Auth.shown_eq_iff, Config.Credential.shown_eq_iff, ServiceKey.shown_eq_iff,
    Credentials.shown_eq_iff⟩

/-- Credentials that differ in nothing but an access token are shown differently, since the token
is shown. -/
theorem token_stands_in_shown :
    let a := Credentials.accessToken "tok"
    let b := Credentials.accessToken "new"
    a.AlikeInPublic b ∧ a.shown = "AccessToken(\"tok\")" ∧ a.shown ≠ b.shown := by
  intro a b
  refine ⟨.accessToken "tok" "new", by decide +kernel, ?_⟩
  intro h
  have htoken : a.token? = b.token? := (Credentials.shown_eq_iff.1 h).2
  exact absurd htoken (by decide)

end Scribe
