import KvsProducer.CredentialProvider
import KvsProducer.KvsSinkUtil

/-! Which credentials a start hands to its producer. The key pair and the session
token are chosen one after the other, each from the properties or from the
environment, so that a triple can be put together from both. -/
namespace KvsProducer
open Gst KvsSinkUtil

def defaultAccessKey : String := "access_key"
def defaultSecretKey : String := "secret_key"
def defaultSessionToken : String := "session_token"
def defaultRegion : String := "us-west-2"
def defaultCredentialFilePath : String := ".kvs/credential"
def defaultRotationPeriodSeconds : UInt64 := 3600
def defaultIotConnectionTimeoutSec : UInt64 := 3
def defaultIotCompletionTimeoutSec : UInt64 := 5

/-- The properties that say where credentials are, as `gst_kvs_sink_init` leaves them. -/
structure CredentialProperties where
  accessKey : Option String := some defaultAccessKey
  secretKey : Option String := some defaultSecretKey
  sessionToken : Option String := some defaultSessionToken
  awsRegion : Option String := some defaultRegion
  credentialFilePath : Option String := some defaultCredentialFilePath
  iotCertificate : Option GstStructure := none

inductive CredentialProperty where
  | accessKey (value : Option String)
  | secretKey (value : Option String)
  | sessionToken (value : Option String)
  | awsRegion (value : Option String)
  | credentialFilePath (value : Option String)
  | iotCertificate (value : Option GstStructure)

/-- The cases of `gst_kvs_sink_set_property` for these properties. -/
def CredentialProperties.setProperty (properties : CredentialProperties) :
    CredentialProperty → CredentialProperties
  | .accessKey value => { properties with accessKey := value }
  | .secretKey value => { properties with secretKey := value }
  | .sessionToken value => { properties with sessionToken := value }
  | .awsRegion value => { properties with awsRegion := value }
  | .credentialFilePath value => { properties with credentialFilePath := value }
  | .iotCertificate value => { properties with iotCertificate := value }

/-- What `getenv` returns for the five variables, and the files that can be opened. -/
structure CredentialEnvironment where
  accessKey : Option String := none
  secretKey : Option String := none
  sessionToken : Option String := none
  region : Option String := none
  fileOpens : String → Bool := fun _ => false

/-! ## Timeouts -/

/-- The characters that `isspace` finds. -/
def isSpace (character : Char) : Bool :=
  character.toNat == 32 || (9 ≤ character.toNat && character.toNat ≤ 13)

/-- An optional sign, and the rest. -/
def splitSign : List Char → Bool × List Char
  | '+' :: rest => (false, rest)
  | '-' :: rest => (true, rest)
  | rest => (false, rest)

/-- `std::stoull` in base ten. What it throws is a `std::logic_error`, which no
handler of the element catches, and what follows the digits is ignored. -/
def stoull (text : String) : Except Raised UInt64 :=
  let (negative, rest) := splitSign (text.toList.dropWhile isSpace)
  let digits := rest.takeWhile Char.isDigit
  let number := Nat.ofDigitChars 10 digits 0
  if digits.isEmpty then .error .uncaught
  else if 2 ^ 64 ≤ number then .error .uncaught
  else .ok (if negative then 0 - UInt64.ofNat number else UInt64.ofNat number)

structure IotCertCredentialProvider where
  iotGetCredentialEndpoint : String
  certPath : String
  privateKeyPath : String
  roleAlias : String
  caCertPath : String
  streamName : String
  /-- In hundreds of nanoseconds. -/
  connectionTimeout : UInt64
  completionTimeout : UInt64
  deriving DecidableEq, Repr

/-- `iot_cert_params[key]`, in hundreds of nanoseconds. -/
def iotTimeout (iotCertParams : StringMap) (key : String) (defaultSec : UInt64) : Except Raised UInt64 :=
  let text := iotCertParams[key]?.getD ""
  if text.isEmpty then .ok (defaultSec * hundredsOfNanosInASecond)
  else (stoull text).map (· * hundredsOfNanosInASecond)

/-- The provider for an IoT certificate. -/
def iotCertProvider (streamName : String) (iotCertificate : GstStructure) :
    Except Raised IotCertCredentialProvider :=
  match parseIotCredentialGstructure iotCertificate ∅ with
  | (.error raised, _) => .error raised
  | (.ok false, _) => .error (.runtimeError ("Failed to parse Iot credentials for " ++ streamName))
  | (.ok true, parsed) =>
    let iotCertParams := parsed.insertIfNew iotThingName streamName
    let parameter (key : String) : String := iotCertParams[key]?.getD ""
    match iotTimeout iotCertParams iotConnectionTimeout defaultIotConnectionTimeoutSec with
    | .error raised => .error raised
    | .ok connectionTimeout =>
      match iotTimeout iotCertParams iotCompletionTimeout defaultIotCompletionTimeoutSec with
      | .error raised => .error raised
      | .ok completionTimeout => .ok
        { iotGetCredentialEndpoint := parameter iotGetCredentialEndpoint
          certPath := parameter certificatePath
          privateKeyPath := parameter privateKeyPath
          roleAlias := parameter roleAliases
          caCertPath := parameter caCertPath
          streamName := parameter iotThingName
          connectionTimeout
          completionTimeout }

/-! ## The choice -/

/-- Where a string that is handed over was copied from. -/
inductive Source where
  | property | environment
  /-- The empty string of the code itself. -/
  | literal
  deriving DecidableEq, Repr

/-- The strings of static credentials. -/
structure StaticKeys (Text : Type) where
  accessKey : Text
  secretKey : Text
  sessionToken : Text

/-- What `StaticCredentialProvider` is made from. -/
def StaticKeys.credentials (keys : StaticKeys String) : Credentials :=
  { accessKey := keys.accessKey
    secretKey := keys.secretKey
    sessionToken := keys.sessionToken
    expiration := defaultRotationPeriodSeconds }

inductive ChosenProvider (Text : Type) where
  | iotCert (provider : IotCertCredentialProvider)
  | static (keys : StaticKeys Text)
  | rotating (credentialFilePath : String)

section Choice
variable {Text : Type} (copy : Source → String → Text)
variable (properties : CredentialProperties) (environment : CredentialEnvironment)

/-- The key pair, if there is a static one. -/
def staticKeys : Except Raised (Option (Text × Text)) :=
  match properties.accessKey with
  -- `strcmp` of NULL
  | none => .error .uncaught
  | some accessKey =>
    if accessKey = defaultAccessKey then
      match environment.accessKey, environment.secretKey with
      | some accessKey, some secretKey =>
        .ok (some (copy .environment accessKey, copy .environment secretKey))
      | _, _ => .ok none
    else
      match properties.secretKey with
      | some secretKey => .ok (some (copy .property accessKey, copy .property secretKey))
      | none => .ok (some (copy .property accessKey, copy .literal ""))

def sessionTokenStr : Except Raised Text :=
  match properties.sessionToken with
  | none => .error .uncaught
  | some sessionToken =>
    if sessionToken = defaultSessionToken then
      match environment.sessionToken with
      | none => .ok (copy .literal "")
      | some sessionToken => .ok (copy .environment sessionToken)
    else .ok (copy .property sessionToken)

def regionStr : Except Raised String :=
  match environment.region, properties.awsRegion with
  | some region, _ => .ok region
  | none, some region => .ok region
  -- a `std::string` of NULL
  | none, none => .error .uncaught

/-- The choice of a credential provider in `kinesis_video_producer_init`. What a
string is copied to is left open, so that its source can be kept with it. -/
def chooseProvider (streamName : String) : Except Raised (ChosenProvider Text) := do
  let keys ← staticKeys copy properties environment
  let sessionToken ← sessionTokenStr copy properties environment
  let _ ← regionStr properties environment
  match properties.iotCertificate with
  | some iotCertificate => return .iotCert (← iotCertProvider streamName iotCertificate)
  | none =>
    match keys with
    | some (accessKey, secretKey) => return .static { accessKey, secretKey, sessionToken }
    | none =>
      match properties.credentialFilePath.filter environment.fileOpens with
      | some credentialFilePath => return .rotating credentialFilePath
      | none => throw (.runtimeError "Could not find any AWS credentials!")

end Choice

/-- The choice as the code makes it: of strings. -/
def credentialProvider (properties : CredentialProperties) (environment : CredentialEnvironment)
    (streamName : String) : Except Raised (ChosenProvider String) :=
  chooseProvider (fun _ text => text) properties environment streamName

/-! ## Sources -/

/-- A string with its source. -/
structure Sourced where
  source : Source
  text : String
  deriving DecidableEq, Repr

def StaticKeys.map (change : First → Second) (keys : StaticKeys First) : StaticKeys Second :=
  ⟨change keys.accessKey, change keys.secretKey, change keys.sessionToken⟩

def ChosenProvider.map (change : First → Second) : ChosenProvider First → ChosenProvider Second
  | .iotCert provider => .iotCert provider
  | .static keys => .static (keys.map change)
  | .rotating credentialFilePath => .rotating credentialFilePath

/-- The choice looks at no copy: whatever is kept with the strings, the same are chosen. -/
theorem choose_map {First Second : Type} (copy : Source → String → First) (change : First → Second)
    (properties : CredentialProperties) (environment : CredentialEnvironment) (streamName : String) :
    chooseProvider (fun source text => change (copy source text)) properties environment streamName =
      (chooseProvider copy properties environment streamName).map (ChosenProvider.map change) := by
  have keys : staticKeys (fun source text => change (copy source text)) properties environment =
      (staticKeys copy properties environment).map (Option.map (Prod.map change change)) := by
    unfold staticKeys
    repeat' split
    all_goals rfl
  have token : sessionTokenStr (fun source text => change (copy source text)) properties environment =
      (sessionTokenStr copy properties environment).map change := by
    unfold sessionTokenStr
    repeat' split
    all_goals rfl
  unfold chooseProvider
  rw [keys, token]
  cases staticKeys copy properties environment with
  | error => rfl
  | ok pair =>
    cases sessionTokenStr copy properties environment with
    | error => rfl
    | ok sessionToken =>
      cases regionStr properties environment with
      | error => rfl
      | ok region =>
        cases properties.iotCertificate with
        | some iotCertificate =>
          simp only
          cases iotCertProvider streamName iotCertificate <;> rfl
        | none =>
          cases pair with
          | some keys => rfl
          | none =>
            generalize properties.credentialFilePath.filter environment.fileOpens = opened
            cases opened <;> rfl

/-- Keeping the sources changes nothing about what is handed over. -/
theorem sources_forgotten (properties : CredentialProperties) (environment : CredentialEnvironment)
    (streamName : String) : credentialProvider properties environment streamName =
      (chooseProvider Sourced.mk properties environment streamName).map (ChosenProvider.map Sourced.text) :=
  choose_map Sourced.mk Sourced.text properties environment streamName

/-- A property that still has its placeholder, or was set to a string. -/
inductive Setting where
  | unset
  | given (text : String)
  deriving DecidableEq, Repr

def Setting.field (placeholder : String) : Setting → Option String
  | .unset => some placeholder
  | .given text => some text

/-- The property was set to something else than its placeholder. -/
def Setting.Differs (placeholder : String) (setting : Setting) : Prop :=
  ∃ text, setting = .given text ∧ text ≠ placeholder

structure KeySettings where
  accessKey : Setting
  secretKey : Setting
  sessionToken : Setting

/-- The properties of an element with these settings. -/
def KeySettings.properties (settings : KeySettings) (others : CredentialProperties) : CredentialProperties :=
  { others with
    accessKey := settings.accessKey.field defaultAccessKey
    secretKey := settings.secretKey.field defaultSecretKey
    sessionToken := settings.sessionToken.field defaultSessionToken }

/-- A key or token is set to NULL. -/
def CredentialProperty.SetsNull : CredentialProperty → Prop
  | .accessKey value | .secretKey value | .sessionToken value => value = none
  | _ => False

private theorem set_property_settings (settings : KeySettings) (others : CredentialProperties)
    (strings : ¬ property.SetsNull) : ∃ after rest,
    (settings.properties others).setProperty property = KeySettings.properties after rest := by
  cases property with
  | accessKey value =>
    obtain ⟨text, rfl⟩ := Option.ne_none_iff_exists'.mp strings
    exact ⟨{ settings with accessKey := .given text }, others, rfl⟩
  | secretKey value =>
    obtain ⟨text, rfl⟩ := Option.ne_none_iff_exists'.mp strings
    exact ⟨{ settings with secretKey := .given text }, others, rfl⟩
  | sessionToken value =>
    obtain ⟨text, rfl⟩ := Option.ne_none_iff_exists'.mp strings
    exact ⟨{ settings with sessionToken := .given text }, others, rfl⟩
  | awsRegion value => exact ⟨settings, { others with awsRegion := value }, rfl⟩
  | credentialFilePath value => exact ⟨settings, { others with credentialFilePath := value }, rfl⟩
  | iotCertificate value => exact ⟨settings, { others with iotCertificate := value }, rfl⟩

/-- As long as no key is set to NULL, an element has settings. -/
theorem settings_of_element (history : List CredentialProperty)
    (strings : ∀ property ∈ history, ¬ property.SetsNull) : ∃ settings others,
    history.foldl CredentialProperties.setProperty {} = KeySettings.properties settings others := by
  have later (before : CredentialProperties)
      (known : ∃ settings others, before = KeySettings.properties settings others) :
      ∃ settings others, history.foldl CredentialProperties.setProperty before =
        KeySettings.properties settings others := by
    induction history generalizing before with
    | nil => exact known
    | cons first rest ih =>
      obtain ⟨settings, others, rfl⟩ := known
      exact ih (fun property member => strings property (List.mem_cons_of_mem _ member)) _
        (set_property_settings settings others (strings first List.mem_cons_self))
  exact later {} ⟨⟨.unset, .unset, .unset⟩, {}, rfl⟩

/-- The key pair and a session token that is not empty were copied from the
properties, or from the environment. -/
def StaticKeys.FromOneSource (keys : StaticKeys Sourced) : Prop :=
  ∃ source, (source = .property ∨ source = .environment) ∧ keys.accessKey.source = source ∧
    keys.secretKey.source = source ∧ (keys.sessionToken.text ≠ "" → keys.sessionToken.source = source)

/-- No string was copied from a property that still has its placeholder. -/
structure StaticKeys.NoPlaceholder (settings : KeySettings) (keys : StaticKeys Sourced) : Prop where
  accessKey : keys.accessKey.source = .property → settings.accessKey ≠ .unset
  secretKey : keys.secretKey.source = .property → settings.secretKey ≠ .unset
  sessionToken : keys.sessionToken.text ≠ "" → keys.sessionToken.source = .property →
    settings.sessionToken ≠ .unset

/-- Settings that do not depend on the environment for a part of the triple: with
an access key of their own they have a secret key, and a session token if the
environment has one; without, they have no session token. -/
def KeySettings.Complete (settings : KeySettings) (environment : CredentialEnvironment) : Prop :=
  (settings.accessKey.Differs defaultAccessKey → settings.secretKey ≠ .unset ∧
    (settings.sessionToken.Differs defaultSessionToken ∨ environment.sessionToken.getD "" = "")) ∧
  (¬ settings.accessKey.Differs defaultAccessKey → settings.sessionToken.Differs defaultSessionToken →
    settings.sessionToken = .given "")

private theorem setting_cases (setting : Setting) (placeholder : String) :
    setting.field placeholder = some placeholder ∧ ¬ setting.Differs placeholder ∨
      ∃ text, setting = .given text ∧ text ≠ placeholder := by
  cases setting with
  | unset => exact .inl ⟨rfl, fun ⟨_, impossible, _⟩ => nomatch impossible⟩
  | given text =>
    by_cases same : text = placeholder
    · subst same
      exact .inl ⟨rfl, fun ⟨_, equal, differs⟩ => differs (Setting.given.inj equal).symm⟩
    · exact .inr ⟨text, rfl, same⟩

/-- The pair is the one of the properties, or the one of the environment. -/
theorem chosen_pair {settings : KeySettings}
    (chosen : staticKeys Sourced.mk (settings.properties others) environment =
    .ok (some (accessKey, secretKey))) :
    settings.accessKey.Differs defaultAccessKey ∧ accessKey.source = .property ∧
        secretKey.source = .property ∨
      ¬ settings.accessKey.Differs defaultAccessKey ∧ accessKey.source = .environment ∧
        secretKey.source = .environment := by
  obtain ⟨field, differs⟩ | ⟨text, given, differs⟩ := setting_cases settings.accessKey defaultAccessKey
  · right
    refine ⟨differs, ?_⟩
    unfold staticKeys KeySettings.properties at chosen
    simp only [field, if_true] at chosen
    split at chosen
    · cases chosen
      exact ⟨rfl, rfl⟩
    · cases chosen
  · left
    refine ⟨⟨text, given, differs⟩, ?_⟩
    unfold staticKeys KeySettings.properties at chosen
    simp only [given, Setting.field, if_neg differs] at chosen
    cases held : settings.secretKey <;> rw [held] at chosen <;> cases chosen <;> exact ⟨rfl, rfl⟩

private theorem chosen_token {settings : KeySettings}
    (chosen : sessionTokenStr Sourced.mk (settings.properties others) environment =
    .ok sessionToken) :
    (∃ text, settings.sessionToken = .given text ∧ text ≠ defaultSessionToken ∧
        sessionToken = ⟨.property, text⟩) ∨
      ¬ settings.sessionToken.Differs defaultSessionToken ∧ sessionToken.source ≠ .property ∧
        sessionToken.text = environment.sessionToken.getD "" ∧
        (sessionToken.text ≠ "" → sessionToken.source = .environment) := by
  obtain ⟨field, differs⟩ | ⟨text, given, differs⟩ :=
    setting_cases settings.sessionToken defaultSessionToken
  · right
    refine ⟨differs, ?_⟩
    unfold sessionTokenStr KeySettings.properties at chosen
    simp only [field, if_true] at chosen
    split at chosen <;> rename_i held <;> cases chosen
    · rw [held]
      exact ⟨nofun, rfl, fun some => absurd rfl some⟩
    · rw [held]
      exact ⟨nofun, rfl, fun _ => rfl⟩
  · left
    unfold sessionTokenStr KeySettings.properties at chosen
    simp only [given, Setting.field, if_neg differs] at chosen
    cases chosen
    exact ⟨text, given, differs, rfl⟩

private theorem chosen_static {copy : Source → String → Text}
    (chosen : chooseProvider copy properties environment streamName = .ok (.static keys)) :
    staticKeys copy properties environment = .ok (some (keys.accessKey, keys.secretKey)) ∧
      sessionTokenStr copy properties environment = .ok keys.sessionToken := by
  unfold chooseProvider at chosen
  generalize staticKeys copy properties environment = pair at chosen ⊢
  generalize sessionTokenStr copy properties environment = token at chosen ⊢
  cases pair with
  | error => cases chosen
  | ok pair =>
    cases token with
    | error => cases chosen
    | ok sessionToken =>
      cases found : regionStr properties environment with
      | error =>
        rw [found] at chosen
        cases chosen
      | ok region =>
        rw [found] at chosen
        cases certified : properties.iotCertificate with
        | some iotCertificate =>
          rw [certified] at chosen
          simp only at chosen
          cases provided : iotCertProvider streamName iotCertificate <;> rw [provided] at chosen <;>
            cases chosen
        | none =>
          rw [certified] at chosen
          cases pair with
          | some pair =>
            cases chosen
            exact ⟨rfl, rfl⟩
          | none =>
            generalize properties.credentialFilePath.filter environment.fileOpens = opened at chosen
            cases opened <;> cases chosen

/-- **One source.** Static credentials come from the properties alone or from
the environment alone, without a placeholder, exactly if the settings are complete. -/
theorem one_source_iff {settings : KeySettings}
    (chosen : chooseProvider Sourced.mk (settings.properties others) environment streamName =
      .ok (.static keys)) :
    (keys.FromOneSource ∧ keys.NoPlaceholder settings) ↔ settings.Complete environment := by
  obtain ⟨pair, token⟩ := chosen_static chosen
  obtain ⟨given, own, ownSecret⟩ | ⟨unset, external, externalSecret⟩ := chosen_pair pair
  · have placed : settings.accessKey ≠ .unset := by
      obtain ⟨_, named, _⟩ := given
      rw [named]
      nofun
    obtain ⟨text, held, differs, copied⟩ | ⟨unsetToken, notProperty, tokenText, _⟩ := chosen_token token
    · constructor
      · rintro ⟨_, known⟩
        exact ⟨fun _ => ⟨known.secretKey ownSecret, .inl ⟨text, held, differs⟩⟩, fun other => absurd given other⟩
      · intro complete
        refine ⟨⟨.property, .inl rfl, own, ownSecret, fun _ => by rw [copied]⟩, fun _ => placed,
          fun _ => (complete.1 given).1, fun _ _ => ?_⟩
        rw [held]
        nofun
    · constructor
      · rintro ⟨⟨source, _, first, _, third⟩, known⟩
        refine ⟨fun _ => ⟨known.secretKey ownSecret, .inr ?_⟩, fun other => absurd given other⟩
        rw [← tokenText]
        by_contra some
        exact notProperty ((third some).trans (first.symm.trans own))
      · intro complete
        obtain ⟨secret, _ | none⟩ := complete.1 given
        · contradiction
        · rw [← tokenText] at none
          exact ⟨⟨.property, .inl rfl, own, ownSecret, absurd none⟩, fun _ => placed, fun _ => secret,
            fun _ isProperty => absurd isProperty notProperty⟩
  · have foreign {string : Sourced} (source : string.source = .environment) : string.source ≠ .property := by
      rw [source]
      nofun
    obtain ⟨text, held, differs, copied⟩ | ⟨unsetToken, notProperty, _, fromEnvironment⟩ := chosen_token token
    · constructor
      · rintro ⟨⟨source, _, first, _, third⟩, _⟩
        refine ⟨fun given => absurd given unset, fun _ _ => ?_⟩
        have empty : text = "" := by
          by_contra some
          rw [copied] at third
          exact absurd ((third some).trans (first.symm.trans external)) nofun
        rw [held, empty]
      · intro complete
        have empty := complete.2 unset ⟨text, held, differs⟩
        rw [held] at empty
        cases empty
        refine ⟨⟨.environment, .inr rfl, external, externalSecret, fun some => ?_⟩,
          fun isProperty => absurd isProperty (foreign external),
          fun isProperty => absurd isProperty (foreign externalSecret), fun _ _ => ?_⟩
        · rw [copied] at some
          exact absurd rfl some
        · rw [held]
          nofun
    · exact iff_of_true
        ⟨⟨.environment, .inr rfl, external, externalSecret, fromEnvironment⟩,
          fun isProperty => absurd isProperty (foreign external),
          fun isProperty => absurd isProperty (foreign externalSecret),
          fun _ isProperty => absurd isProperty notProperty⟩
        ⟨fun given => absurd given unset, fun _ given => absurd given unsetToken⟩

def ownTriple : KeySettings := ⟨.given "key", .given "secret", .given "token"⟩

/-- A triple of properties is not mixed with the session token of the environment. -/
theorem own_triple_stays_apart :
    ∃ keys, chooseProvider Sourced.mk (ownTriple.properties {}) { sessionToken := some "other" } "lobby" =
        .ok (.static keys) ∧
      keys.FromOneSource ∧ keys.NoPlaceholder ownTriple := by
  have chosen : chooseProvider Sourced.mk (ownTriple.properties {}) { sessionToken := some "other" }
      "lobby" = .ok (.static ⟨⟨.property, "key"⟩, ⟨.property, "secret"⟩, ⟨.property, "token"⟩⟩) := rfl
  refine ⟨_, chosen, (one_source_iff chosen).mpr ?_⟩
  have differs : ownTriple.accessKey.Differs defaultAccessKey := ⟨"key", rfl, by decide⟩
  exact ⟨fun _ => ⟨nofun, .inl ⟨"token", rfl, by decide⟩⟩, fun other => absurd differs other⟩

/-- An access key whose secret key was forgotten goes out with a placeholder, and
with the session token of the environment. -/
theorem access_key_without_its_secret : ¬ ∀ settings others environment streamName keys,
    chooseProvider Sourced.mk (KeySettings.properties settings others) environment streamName =
        .ok (.static keys) →
      keys.FromOneSource ∧ keys.NoPlaceholder settings := by
  intro always
  obtain ⟨_, known⟩ := always ⟨.given "key", .unset, .unset⟩ {} { sessionToken := some "other" } "lobby" _ rfl
  exact known.secretKey rfl rfl

end KvsProducer
