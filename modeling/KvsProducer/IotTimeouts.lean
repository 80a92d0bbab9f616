import Mathlib.Data.List.TakeWhile
import KvsProducer.CredentialSelection
import KvsProducer.HeldStream
import KvsProducer.StructureMaps

/-! The timeouts of an IoT certificate, from their strings to the provider. What
`std::stoull` refuses leaves `gst_kvs_sink_change_state` as an exception, and it
accepts more than numbers; a number of seconds wraps when it is made hundreds of
nanoseconds. -/
namespace KvsProducer
open Gst GLib History Runs KvsSinkUtil

/-- The whole text is a decimal number. -/
structure Denotes (text : String) (number : ℕ) : Prop where
  some : text.toList ≠ []
  digits : ∀ character ∈ text.toList, character.isDigit = true
  value : Nat.ofDigitChars 10 text.toList 0 = number

/-- The text denotes a number of seconds that has a timeout. -/
def Representable (text : String) : Prop :=
  ∃ seconds, Denotes text seconds ∧ seconds * 10000000 < 2 ^ 64

/-- The timeout is the number of seconds that the text denotes. -/
def TimeoutExact (text : String) (timeout : UInt64) : Prop :=
  ∃ seconds, Denotes text seconds ∧ timeout.toNat = seconds * 10000000

/-- There is a number after spaces and a sign, whatever follows it. -/
def ReadsNumber (text : String) : Prop :=
  let digits := (splitSign (text.toList.dropWhile isSpace)).2.takeWhile Char.isDigit
  digits ≠ [] ∧ Nat.ofDigitChars 10 digits 0 < 2 ^ 64

/-- What the choice reads before it comes to the certificate is not NULL. -/
structure CredentialProperties.KeysReadable (properties : CredentialProperties)
    (environment : CredentialEnvironment) : Prop where
  accessKey : properties.accessKey ≠ none
  sessionToken : properties.sessionToken ≠ none
  region : environment.region ≠ none ∨ properties.awsRegion ≠ none

/-- NULL_TO_READY of an element with these properties. -/
def startWith (pic : Pic) (sink : GstKvsSink) (properties : CredentialProperties)
    (environment : CredentialEnvironment) (outcome : ChangeStateOutcome) : GstKvsSink × ChangeStateReturn :=
  gstKvsSinkChangeState pic sink .nullToReady
    { outcome with
      credentials := (credentialProvider properties environment (sink.streamName.getD "")).map fun _ => () }

/-- The provider for the certificate is made, with both timeouts as they are written. -/
def PassesTimeouts (chosen : Except Raised (ChosenProvider String)) (connection completion : String) :
    Prop :=
  ∃ provider, chosen = .ok (.iotCert provider) ∧ TimeoutExact connection provider.connectionTimeout ∧
    TimeoutExact completion provider.completionTimeout

/-- A start with credentials fails: without a producer, or later with an exception
that is caught, or in the parent class. -/
def FailsAnyway (pic : Pic) (sink : GstKvsSink) (outcome : ChangeStateOutcome) : Prop :=
  ¬ CreatesProducer sink (.changeState .nullToReady outcome) ∨
    FirstRefusalCaught pic outcome.allowedCaps sink.collect ∧ ¬ TagsEnd pic sink outcome ∧
      (ComesToStream pic sink outcome →
        SomeAttemptGranted pic outcome (sink.afterWalk pic outcome.allowedCaps) →
          outcome.parentChanged = false)

/-- When timeouts are told apart from what is no timeout, or it does not matter. -/
inductive TimeoutsHandled (pic : Pic) (sink : GstKvsSink) (properties : CredentialProperties)
    (environment : CredentialEnvironment) (outcome : ChangeStateOutcome) (connection completion : String) :
    Prop where
  | unnamed (unnamed : sink.streamName = none)
  | representable (readable : properties.KeysReadable environment) (first : Representable connection)
      (second : Representable completion)
  | failsAnyway (readable : properties.KeysReadable environment) (first : ReadsNumber connection)
      (second : ReadsNumber completion) (fails : FailsAnyway pic sink { outcome with credentials := .ok () })

/-! ## Reading a number -/

private theorem digit_is_plain (digit : character.isDigit = true) :
    isSpace character = false ∧ character ≠ '+' ∧ character ≠ '-' := by
  have low : 48 ≤ character.toNat := by
    simp only [Char.isDigit, ge_iff_le, Bool.and_eq_true, decide_eq_true_eq] at digit
    exact digit.1
  refine ⟨?_, ?_, ?_⟩
  · simp [isSpace]
    omega
  · rintro rfl
    exact absurd low (by decide)
  · rintro rfl
    exact absurd low (by decide)

/-- A decimal number is read as it is written, if it fits. -/
theorem stoull_denotes (denotes : Denotes text number) :
    stoull text = if 2 ^ 64 ≤ number then .error .uncaught else .ok (UInt64.ofNat number) := by
  obtain ⟨some, digits, value⟩ := denotes
  obtain ⟨first, rest, chars⟩ := List.exists_cons_of_ne_nil some
  have head : first.isDigit = true := digits first (chars ▸ List.mem_cons_self)
  obtain ⟨noSpace, noPlus, noMinus⟩ := digit_is_plain head
  have unsigned : splitSign (text.toList.dropWhile isSpace) = (false, text.toList) := by
    rw [chars, List.dropWhile_cons_of_neg (by simp [noSpace])]
    unfold splitSign
    split <;> rename_i same
    · exact absurd (List.cons.inj same).1 noPlus
    · exact absurd (List.cons.inj same).1 noMinus
    · rfl
  have whole : text.toList.takeWhile Char.isDigit = text.toList := List.takeWhile_eq_self_iff.mpr digits
  unfold stoull
  simp only [unsigned, whole, value, List.isEmpty_iff, some, if_false, Bool.false_eq_true]

private theorem stoull_cases (text : String) :
    ReadsNumber text ∧ (∃ value, stoull text = .ok value) ∨
      ¬ ReadsNumber text ∧ stoull text = .error .uncaught := by
  unfold ReadsNumber stoull
  generalize splitSign (text.toList.dropWhile isSpace) = signed
  obtain ⟨negative, rest⟩ := signed
  simp only
  split
  · rename_i empty
    exact .inr ⟨fun number => number.1 (List.isEmpty_iff.mp empty), rfl⟩
  · rename_i nonempty
    split
    · exact .inr ⟨fun number => Nat.not_lt.mpr ‹_› number.2, rfl⟩
    · exact .inl ⟨⟨fun empty => nonempty (List.isEmpty_iff.mpr empty), Nat.not_le.mp ‹_›⟩, _, rfl⟩

private theorem representable_reads (representable : Representable text) : ReadsNumber text := by
  obtain ⟨seconds, denotes, fits⟩ := representable
  obtain ⟨reads, _⟩ | ⟨_, refused⟩ := stoull_cases text
  · exact reads
  · rw [stoull_denotes denotes, if_neg (by omega)] at refused
    cases refused

/-- What is passed on is what the text says, exactly if that can be represented. -/
theorem timeout_exact_iff (read : stoull text = .ok value) :
    TimeoutExact text (value * hundredsOfNanosInASecond) ↔ Representable text := by
  constructor
  · rintro ⟨seconds, denotes, exact'⟩
    refine ⟨seconds, denotes, ?_⟩
    rw [← exact']
    exact UInt64.toNat_lt _
  · rintro ⟨seconds, denotes, fits⟩
    refine ⟨seconds, denotes, ?_⟩
    rw [stoull_denotes denotes, if_neg (by omega)] at read
    cases read
    have small : seconds < UInt64.size := by
      change seconds < 2 ^ 64
      omega
    rw [UInt64.toNat_mul, UInt64.toNat_ofNat_of_lt' small]
    change seconds * 10000000 % 2 ^ 64 = _
    exact Nat.mod_eq_of_lt fits

/-! ## The provider -/

theorem timeout_read {iotCertParams : StringMap} (held : iotCertParams[key]? = some text) (some : text ≠ "")
    (defaultSec : UInt64) :
    iotTimeout iotCertParams key defaultSec = (stoull text).map (· * hundredsOfNanosInASecond) := by
  unfold iotTimeout
  rw [held]
  simp [some]

/-- What becomes of the two timeouts of a certificate. -/
inductive ReadsTimeouts (connection completion : String) : Except Raised IotCertCredentialProvider → Prop where
  | passed : ReadsNumber connection → ReadsNumber completion →
      (TimeoutExact connection provider.connectionTimeout ↔ Representable connection) →
      (TimeoutExact completion provider.completionTimeout ↔ Representable completion) →
      ReadsTimeouts connection completion (.ok provider)
  | refused : ¬ (ReadsNumber connection ∧ ReadsNumber completion) →
      ReadsTimeouts connection completion (.error .uncaught)

private theorem provider_reads_timeouts (distinct : (certificate.map Prod.fst).Nodup)
    (accepted : (parseIotCredentialGstructure certificate ∅).1 = .ok true)
    (first : (iotConnectionTimeout, .string connection) ∈ certificate)
    (second : (iotCompletionTimeout, .string completion) ∈ certificate) (streamName : String) :
    ReadsTimeouts connection completion (iotCertProvider streamName certificate) := by
  obtain ⟨wellFormed, held⟩ := iot_parameters_accepted_iff distinct
  have texts := (wellFormed.mp accepted).1
  have nonempty {key text : String} (member : (key, GValue.string text) ∈ certificate) : text ≠ "" := by
    obtain ⟨same, equal, some⟩ := texts _ member
    cases equal
    exact some
  have parameter {key text : String} (other : iotThingName ≠ key)
      (member : (key, GValue.string text) ∈ certificate) :
      ((parseIotCredentialGstructure certificate ∅).2.insertIfNew iotThingName streamName)[key]? =
        some text := by
    rw [Std.ExtTreeMap.getElem?_insertIfNew, if_neg (by simp [other])]
    exact (held accepted key text).mpr member
  have one := timeout_read (parameter (by decide) first) (nonempty first) defaultIotConnectionTimeoutSec
  have two := timeout_read (parameter (by decide) second) (nonempty second) defaultIotCompletionTimeoutSec
  unfold iotCertProvider
  generalize parseIotCredentialGstructure certificate ∅ = parsed at accepted one two
  obtain ⟨ret, map⟩ := parsed
  simp only at accepted one two
  subst accepted
  simp only [one, two]
  obtain ⟨reads, value, read⟩ | ⟨unread, refused⟩ := stoull_cases connection
  · obtain ⟨readsToo, valueToo, readToo⟩ | ⟨unread, refused⟩ := stoull_cases completion
    · rw [read, readToo]
      exact .passed reads readsToo (timeout_exact_iff read) (timeout_exact_iff readToo)
    · rw [read, refused]
      exact .refused fun both => unread both.2
  · rw [refused]
    exact .refused fun both => unread both.1

private theorem static_keys_read (copy : Source → String → Text) (properties : CredentialProperties)
    (environment : CredentialEnvironment) :
    properties.accessKey ≠ none ∧ (∃ pair, staticKeys copy properties environment = .ok pair) ∨
      properties.accessKey = none ∧ staticKeys copy properties environment = .error .uncaught := by
  unfold staticKeys
  cases properties.accessKey with
  | none => exact .inr ⟨rfl, rfl⟩
  | some accessKey =>
    refine .inl ⟨nofun, ?_⟩
    simp only
    repeat' split
    all_goals exact ⟨_, rfl⟩

private theorem session_token_read (copy : Source → String → Text) (properties : CredentialProperties)
    (environment : CredentialEnvironment) :
    properties.sessionToken ≠ none ∧ (∃ token, sessionTokenStr copy properties environment = .ok token) ∨
      properties.sessionToken = none ∧ sessionTokenStr copy properties environment = .error .uncaught := by
  unfold sessionTokenStr
  cases properties.sessionToken with
  | none => exact .inr ⟨rfl, rfl⟩
  | some sessionToken =>
    refine .inl ⟨nofun, ?_⟩
    simp only
    repeat' split
    all_goals exact ⟨_, rfl⟩

private theorem region_read (properties : CredentialProperties) (environment : CredentialEnvironment) :
    (environment.region ≠ none ∨ properties.awsRegion ≠ none) ∧
        (∃ region, regionStr properties environment = .ok region) ∨
      (environment.region = none ∧ properties.awsRegion = none) ∧
        regionStr properties environment = .error .uncaught := by
  unfold regionStr
  cases environment.region with
  | some region => exact .inl ⟨.inl nofun, _, rfl⟩
  | none =>
    cases properties.awsRegion with
    | some region => exact .inl ⟨.inr nofun, _, rfl⟩
    | none => exact .inr ⟨⟨rfl, rfl⟩, rfl⟩

/-- With a certificate, the choice is the provider for it, once it is reached. -/
theorem certificate_chosen (certified : properties.iotCertificate = some certificate)
    (environment : CredentialEnvironment) (streamName : String) :
    properties.KeysReadable environment ∧ credentialProvider properties environment streamName =
        (iotCertProvider streamName certificate).map .iotCert ∨
      ¬ properties.KeysReadable environment ∧
        credentialProvider properties environment streamName = .error .uncaught := by
  unfold credentialProvider chooseProvider
  rw [certified]
  obtain ⟨key, pair, keys⟩ | ⟨null, refused⟩ :=
    static_keys_read (fun _ text => text) properties environment
  · obtain ⟨token, text, tokened⟩ | ⟨null, refused⟩ :=
      session_token_read (fun _ text => text) properties environment
    · obtain ⟨region, name, found⟩ | ⟨⟨unset, null⟩, refused⟩ := region_read properties environment
      · refine .inl ⟨⟨key, token, region⟩, ?_⟩
        rw [keys, tokened, found]
        simp only
        cases iotCertProvider streamName certificate <;> rfl
      · refine .inr ⟨fun readable => readable.region.elim (absurd unset) (absurd null), ?_⟩
        rw [keys, tokened, refused]
        rfl
    · refine .inr ⟨fun readable => readable.sessionToken null, ?_⟩
      rw [keys, refused]
      rfl
  · refine .inr ⟨fun readable => readable.accessKey null, ?_⟩
    rw [refused]
    rfl

/-! ## The transition -/

private theorem reachable_numbered (ran : runFromInit pic now inputs = some sink) : ProducersNumbered sink :=
  invariant_reached (fun _ _ _ => step_keeps_numbered) (init_producers_numbered now) ⟨inputs, ran⟩

/-- A start that has credentials fails exactly for the other reasons. -/
theorem start_failure_iff {sink : GstKvsSink} (audio : sink.audioCodecId ≠ none)
    (found : outcome.credentials = .ok ()) (pic : Pic) :
    (gstKvsSinkChangeState pic sink .nullToReady outcome).2 = .failure ↔ FailsAnyway pic sink outcome := by
  by_cases produces : CreatesProducer sink (.changeState .nullToReady outcome)
  · have ends := start_ends audio pic outcome
    unfold gstKvsSinkChangeState upwardTransition
    simp only
    generalize nullToReady pic sink outcome = ended at ends
    cases ends with
    | idle idle => exact absurd produces idle
    | crashed loose =>
      refine iff_of_false nofun ?_
      rintro (idle | ⟨caught, tags, _⟩)
      · exact idle produces
      · exact loose.elim (absurd caught) tags
    | failed _ caught tags none =>
      exact iff_of_true rfl (.inr ⟨caught, tags, fun comes granted => absurd ⟨comes, granted⟩ none⟩)
    | created comes granted =>
      cases parent : outcome.parentChanged with
      | false =>
        exact iff_of_true rfl (.inr ⟨usable_refuses_none comes.usable, granted.no_tags_end, fun _ _ => parent⟩)
      | true =>
        refine iff_of_false nofun ?_
        rintro (idle | ⟨_, _, fails⟩)
        · exact idle produces
        · exact absurd (parent.symm.trans (fails comes granted)) nofun
  · have caught : outcome.credentials ≠ .error .uncaught := by
      rw [found]
      nofun
    exact iff_of_true ((stays_down_iff pic sink outcome).mpr (.noProducer produces fun _ => caught)).1
      (.inl produces)

/-- What nobody catches ends the process, if the start comes to look for credentials. -/
theorem start_crashes {sink : GstKvsSink} (named : sink.streamName.isSome = true)
    (refused : outcome.credentials = .error .uncaught) (pic : Pic) :
    (gstKvsSinkChangeState pic sink .nullToReady outcome).2 = .crash := by
  obtain ⟨_, held, raised, initialized, _, crashes⟩ | ⟨creates, _⟩ := producer_cases sink outcome
  · cases crashes.mpr ⟨named, refused⟩
    simp only [gstKvsSinkChangeState, upwardTransition, nullToReady, initialized, failChangeState]
  · have found := creates.2.1
    rw [refused] at found
    cases found

/-- **Timeouts.** For an accepted certificate with two timeouts, NULL_TO_READY
fails or passes on what they say, exactly if both are numbers that can be
represented, or both are read as numbers and it fails anyway. -/
theorem iot_timeouts_iff (ran : runFromInit pic now inputs = some sink)
    (certified : properties.iotCertificate = some certificate)
    (distinct : (certificate.map Prod.fst).Nodup)
    (accepted : (parseIotCredentialGstructure certificate ∅).1 = .ok true)
    (first : (iotConnectionTimeout, .string connection) ∈ certificate)
    (second : (iotCompletionTimeout, .string completion) ∈ certificate)
    (environment : CredentialEnvironment) (outcome : ChangeStateOutcome) :
    ((startWith pic sink properties environment outcome).2 = .failure ∨
        PassesTimeouts (credentialProvider properties environment (sink.streamName.getD "")) connection
          completion) ↔
      TimeoutsHandled pic sink properties environment outcome connection completion := by
  have audio := (reachable_numbered ran).audio
  have reads := provider_reads_timeouts distinct accepted first second (sink.streamName.getD "")
  have chosen := certificate_chosen certified environment (sink.streamName.getD "")
  unfold startWith
  generalize credentialProvider properties environment (sink.streamName.getD "") = choice at chosen
  by_cases named : sink.streamName = none
  · have unproduced : ¬ CreatesProducer sink (.changeState .nullToReady
        { outcome with credentials := choice.map fun _ => () }) := by
      rw [creates_producer_iff, named]
      simp
    have fails := (stays_down_iff pic sink _).mpr (.noProducer unproduced (by simp [named]))
    exact iff_of_true (.inl fails.1) (.unnamed named)
  · have crash (refused : choice = .error .uncaught) :
        ¬ ((gstKvsSinkChangeState pic sink .nullToReady
            { outcome with credentials := choice.map fun _ => () }).2 = .failure ∨
          PassesTimeouts choice connection completion) := by
      subst refused
      rintro (failed | ⟨_, impossible, _⟩)
      · rw [start_crashes (Option.isSome_iff_ne_none.mpr named) rfl] at failed
        cases failed
      · cases impossible
    obtain ⟨readable, made⟩ | ⟨unreadable, refused⟩ := chosen
    · generalize iotCertProvider (sink.streamName.getD "") certificate = provided at reads made
      cases reads with
      | @passed provider one two exactOne exactTwo =>
        subst made
        rw [start_failure_iff audio rfl]
        constructor
        · rintro (fails | ⟨_, same, here, there⟩)
          · exact .failsAnyway readable one two fails
          · cases same
            exact .representable readable (exactOne.mp here) (exactTwo.mp there)
        · intro handled
          cases handled with
          | unnamed unnamed => exact absurd unnamed named
          | representable _ here there =>
            exact .inr ⟨provider, rfl, exactOne.mpr here, exactTwo.mpr there⟩
          | failsAnyway _ _ _ fails => exact .inl fails
      | refused unread =>
        refine iff_of_false (crash made) fun handled => ?_
        cases handled with
        | unnamed unnamed => exact named unnamed
        | representable _ here there => exact unread ⟨representable_reads here, representable_reads there⟩
        | failsAnyway _ here there => exact unread ⟨here, there⟩
    · refine iff_of_false (crash refused) fun handled => ?_
      cases handled with
      | unnamed unnamed => exact named unnamed
      | representable readable | failsAnyway readable => exact unreadable readable

def certificateWithTimeouts (connection completion : String) : GstStructure :=
  [("endpoint", .string "iot.example"), ("cert-path", .string "cert.pem"), ("key-path", .string "key.pem"),
    ("ca-path", .string "ca.pem"), ("role-aliases", .string "camera"),
    ("connection-timeout", .string connection), ("completion-timeout", .string completion)]

/-- The properties of an element with this certificate. -/
def timeoutProperties (connection completion : String) : CredentialProperties :=
  { iotCertificate := some (certificateWithTimeouts connection completion) }

/-- Seconds are passed on as they are written. -/
theorem seconds_are_passed_on :
    (startWith .sample (gstKvsSinkInit 0) (timeoutProperties "3" "5") {} {}).2 = .failure ∨
      PassesTimeouts (credentialProvider (timeoutProperties "3" "5") {} "DEFAULT_STREAM") "3" "5" := by
  have fresh : runFromInit .sample 0 [] = some (gstKvsSinkInit 0) := rfl
  have seconds (text : String) (number : ℕ) (small : number < 10)
      (denotes : Denotes text number) : Representable text := ⟨number, denotes, by omega⟩
  have one := seconds "3" 3 (by decide) ⟨by decide, by simp, rfl⟩
  have two := seconds "5" 5 (by decide) ⟨by decide, by simp, rfl⟩
  exact (iot_timeouts_iff fresh rfl (by decide) (by decide) (by decide) (by decide) {} {}).mpr
    (.representable ⟨nofun, nofun, .inr nofun⟩ one two)

/-- A timeout that is not a number ends the process. -/
theorem word_as_timeout_crashes : ¬ ∀ now inputs sink properties certificate connection completion
    environment outcome, runFromInit .sample now inputs = some sink →
      properties.iotCertificate = some certificate → (certificate.map Prod.fst).Nodup →
      (parseIotCredentialGstructure certificate ∅).1 = .ok true →
      (iotConnectionTimeout, .string connection) ∈ certificate →
      (iotCompletionTimeout, .string completion) ∈ certificate →
      (startWith .sample sink properties environment outcome).2 = .failure ∨
        PassesTimeouts (credentialProvider properties environment (sink.streamName.getD "")) connection
          completion := by
  intro always
  have refused : credentialProvider (timeoutProperties "soon" "5") {} "DEFAULT_STREAM" = .error .uncaught := by
    have unread : ¬ ReadsNumber "soon" := fun number => number.1 (by decide)
    have reads := @provider_reads_timeouts (certificateWithTimeouts "soon" "5") "soon" "5" (by decide)
      (by decide) (by decide) (by decide) "DEFAULT_STREAM"
    obtain ⟨_, made⟩ | ⟨_, refused⟩ :=
      @certificate_chosen (certificateWithTimeouts "soon" "5") (timeoutProperties "soon" "5") rfl {} "DEFAULT_STREAM"
    · generalize iotCertProvider "DEFAULT_STREAM" (certificateWithTimeouts "soon" "5") = provided
        at reads made
      cases reads with
      | passed number => exact absurd number unread
      | refused => exact made
    · exact refused
  obtain failed | ⟨provider, passed, _⟩ := always 0 [] (gstKvsSinkInit 0) (timeoutProperties "soon" "5") _
    "soon" "5" {} {} rfl rfl (by decide) (by decide) (by decide) (by decide)
  · unfold startWith at failed
    rw [start_crashes rfl (congrArg (Except.map fun _ => ()) refused)] at failed
    cases failed
  · change credentialProvider (timeoutProperties "soon" "5") {} "DEFAULT_STREAM" = _ at passed
    rw [refused] at passed
    cases passed

end KvsProducer
