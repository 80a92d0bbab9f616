import KvsProducer.CredentialProvider
import KvsProducer.Durations
import KvsProducer.Gst

/-! The two callbacks through which the platform gets its security token. Both
turn the expiration of the credentials, in seconds, into the time unit of the
platform by one unsigned multiplication. -/
namespace KvsProducer
open Gst Durations

/-- A token made by `createAwsCredentials`, of which only the size is looked at. -/
structure AwsCredentials where
  address : ℕ
  size : UInt32
  deriving DecidableEq, Repr

/-- What a handler does beside talking to its provider. -/
inductive TokenCall where
  | freeAwsCredentials (token : Option AwsCredentials)
  | createAwsCredentials (accessKey : String) (accessKeyLen : ℕ) (secretKey : String) (secretKeyLen : ℕ)
      (sessionToken : Option String) (sessionTokenLen : ℕ) (expiration : UInt64)
  | getStreamingTokenResultEvent (token : Option AwsCredentials) (size : UInt32) (expiration : UInt64)
  /-- `*p_expiration` -/
  | writeExpiration (expiration : UInt64)
  /-- `*pp_token` and `*p_size` -/
  | writeToken (token : Option AwsCredentials) (size : UInt32)
  deriving DecidableEq, Repr

/-- The expiration that a call tells the platform. -/
def TokenCall.expiration : TokenCall → Option UInt64
  | .createAwsCredentials _ _ _ _ _ _ expiration => some expiration
  | .getStreamingTokenResultEvent _ _ expiration => some expiration
  | .writeExpiration expiration => some expiration
  | _ => none

/-- A provider with the token that it made last. -/
structure TokenProvider where
  provider : CredentialProvider := {}
  securityToken : Option AwsCredentials := none
  deriving DecidableEq, Repr

/-- The outcome of one handler. -/
structure TokenAnswer where
  after : TokenProvider
  calls : List TokenCall
  status : Status
  deriving DecidableEq, Repr

/-- `IS_EMPTY_STRING` on the characters of a `std::string`. -/
def isEmptyString (text : String) : Bool := text.toList.headD '\x00' == '\x00'

/-- The call of `createAwsCredentials` that both handlers make. -/
def tokenRequest (credentials : Credentials) (expiration : UInt64) : TokenCall :=
  let sessionToken := credentials.sessionToken
  if isEmptyString sessionToken then
    .createAwsCredentials credentials.accessKey credentials.accessKey.utf8ByteSize credentials.secretKey
      credentials.secretKey.utf8ByteSize none 0 expiration
  else
    .createAwsCredentials credentials.accessKey credentials.accessKey.utf8ByteSize credentials.secretKey
      credentials.secretKey.utf8ByteSize (some sessionToken) sessionToken.utf8ByteSize expiration

/-- `credentials.getExpiration().count() * HUNDREDS_OF_NANOS_IN_A_SECOND`. -/
def Credentials.expirationInTimeUnits (credentials : Credentials) : UInt64 :=
  credentials.expiration * hundredsOfNanosInASecond

section Handlers
variable (periods : TokenPeriods)

/-- `getStreamingTokenHandler`, with what `createAwsCredentials` and the result
event return. -/
def TokenProvider.getStreamingTokenHandler (self : TokenProvider) (updateCredentials : UpdateCredentials)
    (now : UInt64) (created : Except Status AwsCredentials) (eventStatus : Status) : TokenAnswer :=
  let (provider, credentials) := self.provider.getUpdatedCredentials periods updateCredentials now
  let expiration := credentials.expirationInTimeUnits
  let calls := [.freeAwsCredentials self.securityToken, tokenRequest credentials expiration]
  match created with
  | .ok token =>
    { after := { provider, securityToken := some token }
      calls := calls ++ [.getStreamingTokenResultEvent (some token) token.size expiration]
      status := eventStatus }
  | .error status => { after := { provider, securityToken := none }, calls, status }

/-- `getSecurityTokenHandler`. The expiration is written before the token is made,
and stays written when there is none. -/
def TokenProvider.getSecurityTokenHandler (self : TokenProvider) (updateCredentials : UpdateCredentials)
    (now : UInt64) (created : Except Status AwsCredentials) : TokenAnswer :=
  let (provider, credentials) := self.provider.getCredentials periods updateCredentials now
  let expiration := credentials.expirationInTimeUnits
  let calls := [.freeAwsCredentials self.securityToken, .writeExpiration expiration,
    tokenRequest credentials expiration]
  match created with
  | .ok token =>
    { after := { provider, securityToken := some token }
      calls := calls ++ [.writeToken (some token) token.size]
      status := statusSuccess }
  | .error status => { after := { provider, securityToken := none }, calls, status }

/-- One of the two callbacks, with the answers that it gets. -/
inductive TokenRequest where
  | streamingToken (updateCredentials : UpdateCredentials) (now : UInt64)
      (created : Except Status AwsCredentials) (eventStatus : Status)
  | securityToken (updateCredentials : UpdateCredentials) (now : UInt64)
      (created : Except Status AwsCredentials)

def TokenProvider.handle (self : TokenProvider) : TokenRequest → TokenAnswer
  | .streamingToken updateCredentials now created eventStatus =>
    self.getStreamingTokenHandler periods updateCredentials now created eventStatus
  | .securityToken updateCredentials now created =>
    self.getSecurityTokenHandler periods updateCredentials now created

/-- The credentials that the provider serves to a handler. -/
def TokenProvider.served (self : TokenProvider) : TokenRequest → Credentials
  | .streamingToken updateCredentials now _ _ =>
    (self.provider.getUpdatedCredentials periods updateCredentials now).2
  | .securityToken updateCredentials now _ =>
    (self.provider.getCredentials periods updateCredentials now).2

/-- What one callback told the platform about the expiration. -/
def TokenAnswer.reported (answer : TokenAnswer) : List UInt64 := answer.calls.filterMap TokenCall.expiration

variable {periods}

private theorem token_request_expiration (credentials : Credentials) (expiration : UInt64) :
    (tokenRequest credentials expiration).expiration = some expiration := by
  unfold tokenRequest
  dsimp only
  split
  · rfl
  · rfl

/-- Something is reported, and it is the one product. -/
theorem reported_expirations (self : TokenProvider) (request : TokenRequest) :
    (self.handle periods request).reported ≠ [] ∧
      ∀ expiration ∈ (self.handle periods request).reported,
        expiration = (self.served periods request).expirationInTimeUnits := by
  have asked (credentials : Credentials) :=
    token_request_expiration credentials credentials.expirationInTimeUnits
  unfold TokenAnswer.reported TokenProvider.handle
  cases request with
  | streamingToken updateCredentials now created eventStatus =>
    cases created with
    | ok token =>
      simp only [TokenProvider.getStreamingTokenHandler, List.cons_append, List.nil_append, List.filterMap_cons, asked]
      exact ⟨nofun, by simp [TokenProvider.served, TokenCall.expiration]⟩
    | error status =>
      simp only [TokenProvider.getStreamingTokenHandler, List.filterMap_cons, asked]
      exact ⟨nofun, by simp [TokenProvider.served, TokenCall.expiration]⟩
  | securityToken updateCredentials now created =>
    cases created with
    | ok token =>
      simp only [TokenProvider.getSecurityTokenHandler, List.cons_append, List.nil_append, List.filterMap_cons, asked]
      exact ⟨nofun, by simp [TokenProvider.served, TokenCall.expiration]⟩
    | error status =>
      simp only [TokenProvider.getSecurityTokenHandler, List.filterMap_cons, asked]
      exact ⟨nofun, by simp [TokenProvider.served, TokenCall.expiration]⟩

/-! ## Expired or not -/

/-- The platform is told an expiration, and only such that lie after this second. -/
def ReportsUnexpired (answer : TokenAnswer) (second : ℕ) : Prop :=
  answer.reported ≠ [] ∧ ∀ expiration ∈ answer.reported, second * 10000000 < expiration.toNat

/-- The expiration is not within this many seconds after a time at which the
units of the platform have gone once more through all words. -/
def ClearOfWraps (expiration : UInt64) (seconds : ℕ) : Prop :=
  ∀ wraps, 0 < wraps → expiration.toNat * 10000000 < wraps * 2 ^ 64 ∨
    wraps * 2 ^ 64 + seconds * 10000000 < expiration.toNat * 10000000

theorem time_units_exceed_iff (credentials : Credentials) (unexpired : second < credentials.expiration.toNat) :
    second * 10000000 < credentials.expirationInTimeUnits.toNat ↔
      ClearOfWraps credentials.expiration second := by
  rw [Credentials.expirationInTimeUnits, UInt64.toNat_mul]
  exact remainder_exceeds_iff (by decide) (Nat.mul_lt_mul_of_pos_right unexpired (by decide))

/-- **Unexpired credentials.** Whatever a provider serves and whichever callback
asks, credentials that are still good are reported as such precisely if their
expiration keeps clear of the wraps. -/
theorem unexpired_reported_iff (self : TokenProvider) (request : TokenRequest) (second : ℕ)
    (unexpired : second < (self.served periods request).expiration.toNat) :
    ReportsUnexpired (self.handle periods request) second ↔
      ClearOfWraps (self.served periods request).expiration second := by
  rw [← time_units_exceed_iff _ unexpired]
  obtain ⟨some, same⟩ := @reported_expirations periods self request
  constructor
  · rintro ⟨_, all⟩
    obtain ⟨expiration, member⟩ := List.exists_mem_of_ne_nil _ some
    rw [← same expiration member]
    exact all expiration member
  · intro above
    refine ⟨some, fun expiration member => ?_⟩
    rw [same expiration member]
    exact above

/-- Up to here no product wraps: some sixty thousand years. -/
theorem early_expiration_clear (early : expiration.toNat ≤ 1844674407370) (second : ℕ) :
    ClearOfWraps expiration second := by
  intro wraps positive
  omega

/-- The expiration of credentials that have none wraps to one second before the
end of the units. -/
theorem latest_expiration_clear (early : (second + 1) * 10000000 < 2 ^ 64 - 10000000) :
    ClearOfWraps latestExpiration second := by
  have latest : latestExpiration.toNat = 2 ^ 64 - 1 := rfl
  intro wraps positive
  rw [latest]
  omega

/-- A static provider is never taken for expired. -/
theorem static_credentials_unexpired (stored : Credentials) (self : TokenProvider) (now : UInt64)
    (created : Except Status AwsCredentials) (eventStatus : Status)
    (early : (second + 1) * 10000000 < 2 ^ 64 - 10000000) :
    ReportsUnexpired (self.getStreamingTokenHandler periods (staticUpdateCredentials stored) now created
      eventStatus) second := by
  refine (unexpired_reported_iff self
    (.streamingToken (staticUpdateCredentials stored) now created eventStatus) second ?_).mpr ?_
  · change second < latestExpiration.toNat
    have latest : latestExpiration.toNat = 2 ^ 64 - 1 := rfl
    omega
  · exact latest_expiration_clear early

end Handlers

/-- Credentials for one more hour, through the streaming callback. -/
def hourOfCredentials : TokenRequest :=
  .streamingToken (fun _ => { accessKey := "key", secretKey := "secret", expiration := 1700003600 })
    1700000000000000000 (.ok ⟨1, 100⟩) statusSuccess

theorem hour_of_credentials_reported :
    ReportsUnexpired (({} : TokenProvider).handle ⟨300000000, 30000000⟩ hourOfCredentials) 1700000000 :=
  (@unexpired_reported_iff ⟨300000000, 30000000⟩ {} hourOfCredentials 1700000000 (by decide)).mpr
    (early_expiration_clear (by decide) 1700000000)

/-- The first expiration whose product wraps: it is reported as the first second
of the epoch. -/
theorem late_expiration_reported_expired :
    ¬ ReportsUnexpired (({} : TokenProvider).handle ⟨300000000, 30000000⟩
      (.securityToken (fun _ => { accessKey := "key", secretKey := "secret", expiration := 1844674407371 })
        1700000000000000000 (.ok ⟨1, 100⟩))) 1700000000 := by
  rintro ⟨_, all⟩
  have later := all 448384 (by decide)
  exact absurd later (by decide)

end KvsProducer
