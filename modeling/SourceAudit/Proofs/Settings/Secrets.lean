/-
What is saved of the settings of a server does not tell its secrets.

Two environments that differ in secrets alone are read side by side. Each reader
looks at one setting, so the two readings fail at the same setting in the same
way, or give settings that differ in secrets alone (`agree_ofEnvironment`). The
text that is saved says all the rest, save the port of the mail server, and
nothing of the secrets (`toText_eq_iff`).
-/
import SourceAudit.Proofs.Value.Json.RoundTrip
import SourceAudit.Settings.Server

namespace SourceAudit

-- ======================================================== side by side

/-- Two runs end alike: with results that are related, or with the same
failure. -/
inductive Outcome.Agree {α β : Type} (R : α → β → Prop) :
    Outcome α → Outcome β → Prop where
  | ok {a : α} {b : β} (h : R a b) : Agree R (.ok a) (.ok b)
  | error (f : Fault) : Agree R (.error f) (.error f)

namespace Outcome.Agree

variable {α β γ δ : Type} {R : α → β → Prop} {S : γ → δ → Prop}

theorem of_eq {x y : Outcome α} (h : x = y) : Agree (· = ·) x y := by
  subst h
  cases x with
  | ok a => exact .ok rfl
  | error f => exact .error f

/-- Runs that end alike and go on alike end alike. -/
theorem bind {x : Outcome α} {y : Outcome β} (h : Agree R x y)
    {k : α → Outcome γ} {l : β → Outcome δ}
    (hgo : ∀ a b, R a b → Agree S (k a) (l b)) :
    Agree S (x >>= k) (y >>= l) := by
  cases h with
  | ok hab => exact hgo _ _ hab
  | error f => exact .error f

end Outcome.Agree

-- ============================================================== values

namespace Value

theorem texts_inj {xs ys : List String} : texts xs = texts ys ↔ xs = ys := by
  rw [texts, texts, list.injEq]
  exact List.map_inj_right fun _ _ h => text.inj h

theorem ofText?_inj {s t : Option String} : ofText? s = ofText? t ↔ s = t := by
  cases s <;> cases t <;> simp [ofText?, ofOption]

theorem isJson_texts (xs : List String) : (texts xs).IsJson none := by
  refine .list fun x hx => ?_
  obtain ⟨s, -, rfl⟩ := List.mem_map.1 hx
  exact .text s

theorem isJson_ofText? (s : Option String) : (ofText? s).IsJson none := by
  cases s with
  | none => exact .null
  | some s => exact .text s

end Value

-- ============================================================= secrets

namespace Environment

/-- The settings that are secrets: they give access to tokens, mail and
stores. -/
def secretNames : List String :=
  ["JWT_SECRET", "SMTP_HOST", "SMTP_USERNAME", "SMTP_PASSWORD", "S3_BUCKET",
   "S3_REGION", "GCS_BUCKET"]

/-- Two environments that differ in secrets alone. -/
def SamePublic (env env' : Environment) : Prop :=
  ∀ name ∉ secretNames, env.get? name = env'.get? name

namespace SamePublic

variable {env env' : Environment} (h : SamePublic env env') (name : String)
  (hname : name ∉ secretNames)
include h hname

theorem text (usual : String) : env.text name usual = env'.text name usual := by
  unfold Environment.text
  rw [h name hname]

theorem list (usual : String) : env.list name usual = env'.list name usual := by
  unfold Environment.list
  rw [h.text name hname]

theorem switch : env.switch name = env'.switch name := by
  unfold Environment.switch
  rw [h.text name hname]

theorem whole (usual : Int) :
    Outcome.Agree (· = ·) (env.whole name usual) (env'.whole name usual) := by
  refine .of_eq ?_
  unfold Environment.whole
  rw [h name hname]

end SamePublic

end Environment

namespace ServerSettings

/-- Settings with their secrets taken out. -/
def withoutSecrets (c : ServerSettings) : ServerSettings :=
  { c with
    security := { c.security with tokenSecret := "" }
    storage :=
      { c.storage with s3Bucket := none, s3Region := none, gcsBucket := none }
    notifications :=
      { c.notifications with
        smtpHost := none, smtpUser := none, smtpPassword := none } }

-- ====================================================== from settings

section Reading

variable {env env' : Environment} (h : env.SamePublic env')
include h

theorem agree_database :
    Outcome.Agree (· = ·) (DatabaseSettings.ofEnvironment env)
      (DatabaseSettings.ofEnvironment env') := by
  refine (h.whole "DB_MAX_CONNECTIONS" (by decide) 20).bind ?_
  rintro connections _ rfl
  refine (h.whole "DB_TIMEOUT" (by decide) 30).bind ?_
  rintro timeout _ rfl
  refine .ok ?_
  rw [h.text "DATABASE_URL" (by decide), h.text "DB_SSL_MODE" (by decide)]

theorem agree_security :
    Outcome.Agree (fun s s' => { s with tokenSecret := "" }
      = { s' with tokenSecret := "" })
      (SecuritySettings.ofEnvironment env)
        (SecuritySettings.ofEnvironment env') := by
  refine (h.whole "JWT_EXPIRATION" (by decide) 3600).bind ?_
  rintro lifetime _ rfl
  refine (h.whole "MAX_FILE_SIZE" (by decide) (10 * 1024 * 1024)).bind ?_
  rintro size _ rfl
  refine (h.whole "RATE_LIMIT_PER_MINUTE" (by decide) 60).bind ?_
  rintro rate _ rfl
  refine .ok ?_
  simp only [h.text "JWT_ALGORITHM" (by decide),
    h.list "CORS_ORIGINS" (by decide)]

theorem agree_scanner :
    Outcome.Agree (· = ·) (ScannerSettings.ofEnvironment env)
      (ScannerSettings.ofEnvironment env') := by
  refine (h.whole "SCANNER_TIMEOUT" (by decide) 30).bind ?_
  rintro timeout _ rfl
  refine (h.whole "MAX_CONCURRENT_SCANS" (by decide) 5).bind ?_
  rintro most _ rfl
  refine .ok ?_
  rw [h.list "ENABLED_SCANNERS" (by decide), h "TEMP_DIR" (by decide)]

theorem agree_storage :
    Outcome.Agree
      (fun s s' =>
        { s with s3Bucket := none, s3Region := none, gcsBucket := none }
          = { s' with s3Bucket := none, s3Region := none, gcsBucket := none })
      (StorageSettings.ofEnvironment env)
        (StorageSettings.ofEnvironment env') := by
  refine (h.whole "STORAGE_RETENTION_DAYS" (by decide) 30).bind ?_
  rintro days _ rfl
  refine .ok ?_
  simp only [h.text "STORAGE_TYPE" (by decide),
    h.text "STORAGE_LOCAL_PATH" (by decide)]

theorem agree_notifications :
    Outcome.Agree
      (fun s s' =>
        { s with smtpHost := none, smtpUser := none, smtpPassword := none }
          = { s' with
              smtpHost := none, smtpUser := none, smtpPassword := none })
      (NotificationSettings.ofEnvironment env)
        (NotificationSettings.ofEnvironment env') := by
  refine (h.whole "SMTP_PORT" (by decide) 587).bind ?_
  rintro port _ rfl
  refine .ok ?_
  simp only [h.switch "EMAIL_ENABLED" (by decide), h "WEBHOOK_URL" (by decide)]

/-- Environments that differ in secrets alone fail alike, or give settings that
do. -/
theorem agree_ofEnvironment :
    Outcome.Agree (fun c c' => c.withoutSecrets = c'.withoutSecrets)
      (ofEnvironment env) (ofEnvironment env') := by
  refine (agree_database h).bind ?_
  rintro database _ rfl
  refine (agree_security h).bind ?_
  intro security security' hsecurity
  refine (agree_scanner h).bind ?_
  rintro scanner _ rfl
  refine (agree_storage h).bind ?_
  intro storage storage' hstorage
  refine (agree_notifications h).bind ?_
  intro notifications notifications' hnotifications
  refine (h.whole "PORT" (by decide) 8000).bind ?_
  rintro port _ rfl
  refine (h.whole "WORKERS" (by decide) 1).bind ?_
  rintro workers _ rfl
  refine .ok ?_
  simp only [withoutSecrets, hsecurity, hstorage, hnotifications,
    h.text "ENVIRONMENT" (by decide), h.switch "DEBUG" (by decide),
    h.text "LOG_LEVEL" (by decide), h.text "HOST" (by decide)]

end Reading

-- ========================================================= to the text

attribute [ext] ServerSettings DatabaseSettings SecuritySettings ScannerSettings
  StorageSettings
  NotificationSettings

/-- What is saved of settings: all but the secrets and the port of the mail
server. -/
def saved (c : ServerSettings) : ServerSettings :=
  { c.withoutSecrets with
    notifications := { c.withoutSecrets.notifications with smtpPort := 0 } }

theorem isJson_toValue (c : ServerSettings) : c.toValue.IsJson none := by
  simp [toValue, plainFields, Value.isJson_record_iff, Value.isJson_texts,
    Value.isJson_ofText?, Value.IsJson.text, Value.IsJson.bool,
    Value.isJson_int]

/-- The text says what is saved, and no more. -/
theorem toText_eq_iff (c d : ServerSettings) : c.toText = d.toText ↔
    c.saved = d.saved := by
  constructor
  · intro h
    have hread : Value.Json.readUpTo none c.toText
        = Value.Json.readUpTo none d.toText :=
      congrArg _ h
    unfold toText at hread
    rw [Value.Json.readUpTo_indented c.isJson_toValue,
      Value.Json.readUpTo_indented d.isJson_toValue] at hread
    have hvalue : c.toValue = d.toValue := Except.ok.inj hread
    simp only [toValue, plainFields, List.cons_append, List.nil_append,
      Value.record.injEq, List.cons.injEq, Prod.mk.injEq, Value.text.injEq,
      Value.bool.injEq, Value.int.injEq, Value.texts_inj, Value.ofText?_inj,
      true_and, and_true] at hvalue
    simpa only [saved, withoutSecrets, ServerSettings.ext_iff,
      DatabaseSettings.ext_iff, SecuritySettings.ext_iff,
      ScannerSettings.ext_iff, StorageSettings.ext_iff,
      NotificationSettings.ext_iff, true_and, and_true] using hvalue
  · intro h
    have hsaved (c : ServerSettings) : c.saved.toText = c.toText := rfl
    rw [← hsaved c, ← hsaved d, h]

-- ========================================================= the secrets

/-- Environments that differ in secrets alone fail with the same error or have
the same text saved; and texts are the same for no other reason than that all
settings are which are neither secrets nor the port of the mail server. -/
theorem saved_text_hides_secrets {env env' : Environment}
    (h : env.SamePublic env') :
    ((∃ f, ofEnvironment env = .error f ∧ ofEnvironment env' = .error f) ∨
      ∃ c c', ofEnvironment env = .ok c ∧ ofEnvironment env' = .ok c' ∧
        c.toText = c'.toText) ∧
    ∀ c c' : ServerSettings, c.toText = c'.toText ↔ c.saved = c'.saved := by
  refine ⟨?_, toText_eq_iff⟩
  generalize hx : ofEnvironment env = x
  generalize hy : ofEnvironment env' = y
  have hagree := agree_ofEnvironment h
  rw [hx, hy] at hagree
  cases hagree with
  | @ok c c' hsecret =>
      refine .inr ⟨c, c', rfl, rfl, (toText_eq_iff c c').2 ?_⟩
      unfold saved
      rw [hsecret]
  | error f => exact .inl ⟨f, rfl, rfl⟩

/-- An environment with a secret for tokens and a password for mail. -/
def guarded : Environment :=
  ⟨[("JWT_SECRET", "s3cret"), ("PORT", "9000"), ("SMTP_PASSWORD", "pass")]⟩

/-- The same server with another secret for tokens, no mail, and a store. -/
def reguarded : Environment :=
  ⟨[("PORT", "9000"), ("S3_BUCKET", "uploads"), ("JWT_SECRET", "other")]⟩

theorem saved_text_hides_secrets_guarded :
    guarded.SamePublic reguarded ∧
      ∃ c c', ofEnvironment guarded = .ok c ∧ ofEnvironment reguarded = .ok c' ∧
        c.security.tokenSecret ≠ c'.security.tokenSecret ∧
        c.toText = c'.toText := by
  have hsame : guarded.SamePublic reguarded := by
    intro name hname
    simp only [Environment.secretNames, List.mem_cons, not_or] at hname
    simp [Environment.get?, guarded, reguarded, List.find?_cons, Ne.symm, hname]
  have hsecret : (ofEnvironment guarded).toOption.map (·.security.tokenSecret)
      = some "s3cret" := by
    decide +kernel
  have hother : (ofEnvironment reguarded).toOption.map (·.security.tokenSecret)
      = some "other" := by
    decide +kernel
  refine ⟨hsame, ?_⟩
  obtain ⟨⟨f, hf, -⟩ | ⟨c, c', hc, hc', htext⟩, -⟩ :=
    saved_text_hides_secrets hsame
  · rw [hf] at hsecret
    cases hsecret
  · refine ⟨c, c', hc, hc', ?_, htext⟩
    rw [hc] at hsecret
    rw [hc'] at hother
    have hs : c.security.tokenSecret = "s3cret" := Option.some.inj hsecret
    have ho : c'.security.tokenSecret = "other" := Option.some.inj hother
    rw [hs, ho]
    decide

end ServerSettings

end SourceAudit
