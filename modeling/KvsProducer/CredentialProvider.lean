import Mathlib.Algebra.Group.Nat.Defs
import KvsProducer.Runs

/-! The cache of a `CredentialProvider`: what it serves, and when it asks its
subclass for new credentials. Expirations are seconds and the clock counts
nanoseconds, and `std::chrono` compares the two in unsigned 64-bit nanoseconds,
where a late expiration wraps. -/
namespace KvsProducer
open Runs

/-- MAX_UINT64, the expiration of credentials that have none. -/
def latestExpiration : UInt64 := 0xFFFFFFFFFFFFFFFF

structure Credentials where
  accessKey : String := ""
  secretKey : String := ""
  sessionToken : String := ""
  /-- In seconds. -/
  expiration : UInt64 := latestExpiration
  deriving DecidableEq, Repr

/-- Two constants of the platform independent code, in hundreds of nanoseconds. -/
structure TokenPeriods where
  minStreamingTokenExpirationDuration : UInt64
  streamingTokenExpirationGracePeriod : UInt64

def hundredsOfNanosInASecond : UInt64 := 10000000

/-- `CredentialProviderGracePeriod`, in seconds. -/
def TokenPeriods.credentialProviderGracePeriod (periods : TokenPeriods) : UInt64 :=
  5 + (periods.minStreamingTokenExpirationDuration + periods.streamingTokenExpirationGracePeriod) /
    hundredsOfNanosInASecond

/-- Seconds in the common type of the comparison, nanoseconds in 64 bits. -/
def inNanoseconds (seconds : UInt64) : UInt64 := 1000000000 * seconds

structure CredentialProvider where
  nextRotationTime : UInt64 := 0
  credentials : Credentials := {}
  /-- What `updateCredentials` has written, call by call. -/
  written : List Credentials := []
  deriving DecidableEq, Repr

/-- What one call of the virtual `updateCredentials` makes of the cached credentials. -/
abbrev UpdateCredentials := Credentials → Credentials

/-- `StaticCredentialProvider::updateCredentials`. -/
def staticUpdateCredentials (stored : Credentials) : UpdateCredentials := fun _ =>
  { stored with expiration := latestExpiration }

/-- `EmptyCredentialProvider::updateCredentials`. -/
def emptyUpdateCredentials : UpdateCredentials := fun _ =>
  { accessKey := "", secretKey := "", sessionToken := "", expiration := latestExpiration }

/-- The overrides of the rotating and the IoT provider, which leave the work to
callbacks of their own. -/
def noUpdateCredentials : UpdateCredentials := id

section Provider
variable (periods : TokenPeriods)

/-- The cached credentials are due, as the element compares. -/
def CredentialProvider.due (provider : CredentialProvider) (now : UInt64) : Bool :=
  now + inNanoseconds periods.credentialProviderGracePeriod > inNanoseconds provider.nextRotationTime

def CredentialProvider.refreshCredentials (provider : CredentialProvider)
    (updateCredentials : UpdateCredentials) (now : UInt64) (forceUpdate : Bool) : CredentialProvider :=
  if forceUpdate || provider.due periods now then
    let credentials := updateCredentials provider.credentials
    { nextRotationTime := credentials.expiration, credentials, written := provider.written ++ [credentials] }
  else provider

def CredentialProvider.getCredentials (provider : CredentialProvider) (updateCredentials : UpdateCredentials)
    (now : UInt64) : CredentialProvider × Credentials :=
  let refreshed := provider.refreshCredentials periods updateCredentials now false
  (refreshed, refreshed.credentials)

def CredentialProvider.getUpdatedCredentials (provider : CredentialProvider)
    (updateCredentials : UpdateCredentials) (now : UInt64) : CredentialProvider × Credentials :=
  let refreshed := provider.refreshCredentials periods updateCredentials now true
  (refreshed, refreshed.credentials)

/-- A call by the application or by a callback of the platform. -/
inductive CredentialRequest where
  | getCredentials (updateCredentials : UpdateCredentials) (now : UInt64)
  | getUpdatedCredentials (updateCredentials : UpdateCredentials) (now : UInt64)

def CredentialProvider.serve (provider : CredentialProvider) :
    CredentialRequest → CredentialProvider × Credentials
  | .getCredentials updateCredentials now => provider.getCredentials periods updateCredentials now
  | .getUpdatedCredentials updateCredentials now =>
    provider.getUpdatedCredentials periods updateCredentials now

/-- The calls take turns under the mutex of the provider. -/
def serveStep (provider : CredentialProvider) (request : CredentialRequest) : Option CredentialProvider :=
  some (provider.serve periods request).1

/-! ## The comparison -/

/-- Wrapping makes an expiration earlier, never later. -/
theorem in_nanoseconds_le (seconds : UInt64) : (inNanoseconds seconds).toNat ≤ 1000000000 * seconds.toNat := by
  unfold inNanoseconds
  rw [UInt64.toNat_mul]
  exact Nat.mod_le _ _

/-- The grace period is never zero. -/
theorem grace_positive : 5 ≤ periods.credentialProviderGracePeriod.toNat := by
  have rest : ((periods.minStreamingTokenExpirationDuration + periods.streamingTokenExpirationGracePeriod) /
      hundredsOfNanosInASecond).toNat < 2 ^ 63 := by
    rw [UInt64.toNat_div]
    have bound := (periods.minStreamingTokenExpirationDuration +
      periods.streamingTokenExpirationGracePeriod).toNat_lt
    change _ / 10000000 < _
    omega
  unfold TokenPeriods.credentialProviderGracePeriod
  rw [UInt64.toNat_add]
  change 5 ≤ (5 + _) % _
  omega

/-- The clock reading and the grace period fit into the word together. -/
def ClockFits (now : UInt64) : Prop :=
  now.toNat + 1000000000 * periods.credentialProviderGracePeriod.toNat < 2 ^ 64

/-- The credentials outlive the grace period, as integers. -/
def Outlives (now : UInt64) (credentials : Credentials) : Prop :=
  now.toNat + 1000000000 * periods.credentialProviderGracePeriod.toNat ≤
    1000000000 * credentials.expiration.toNat

variable {periods}

private theorem clock_exact (fits : ClockFits periods now) :
    (now + inNanoseconds periods.credentialProviderGracePeriod).toNat =
      now.toNat + 1000000000 * periods.credentialProviderGracePeriod.toNat := by
  unfold ClockFits at fits
  unfold inNanoseconds
  rw [UInt64.toNat_add, UInt64.toNat_mul]
  change (_ + (1000000000 * _) % _) % _ = _
  omega

/-- Credentials that are not due outlive the grace period, wrapped or not. -/
theorem undue_outlives (fits : ClockFits periods now)
    (undue : CredentialProvider.due periods provider now = false) :
    now.toNat + 1000000000 * periods.credentialProviderGracePeriod.toNat ≤
      1000000000 * provider.nextRotationTime.toNat := by
  have wrapped := in_nanoseconds_le provider.nextRotationTime
  have later : ¬ inNanoseconds provider.nextRotationTime <
      now + inNanoseconds periods.credentialProviderGracePeriod := by
    simpa [CredentialProvider.due] using undue
  rw [UInt64.lt_iff_toNat_lt, clock_exact fits] at later
  omega

/-! ## The cache -/

/-- Between two calls the rotation is due when the cached credentials expire, or
at once if none were ever written. -/
structure CacheAgrees (provider : CredentialProvider) : Prop where
  unwritten : provider.written = [] → provider.nextRotationTime = 0
  rotation : provider.written ≠ [] → provider.nextRotationTime = provider.credentials.expiration
  cached : ∀ last ∈ provider.written.getLast?, provider.credentials = last

/-- What a refresh does. -/
inductive Refreshes (provider : CredentialProvider) (updateCredentials : UpdateCredentials) :
    CredentialProvider → Prop where
  | asked : Refreshes provider updateCredentials
      ⟨(updateCredentials provider.credentials).expiration, updateCredentials provider.credentials,
        provider.written ++ [updateCredentials provider.credentials]⟩
  | kept : Refreshes provider updateCredentials provider

private theorem refresh_cases (periods : TokenPeriods) (provider : CredentialProvider)
    (updateCredentials : UpdateCredentials) (now : UInt64) (forceUpdate : Bool) :
    Refreshes provider updateCredentials
      (provider.refreshCredentials periods updateCredentials now forceUpdate) := by
  unfold CredentialProvider.refreshCredentials
  split
  · exact .asked
  · exact .kept

theorem Refreshes.agrees (agrees : CacheAgrees provider)
    (refreshes : Refreshes provider updateCredentials after) : CacheAgrees after := by
  cases refreshes with
  | asked =>
    constructor
    · intro none
      simp at none
    · intro _
      rfl
    · intro last member
      simpa using member
  | kept => exact agrees

private theorem serve_keeps_agreement (agrees : CacheAgrees provider)
    (served : serveStep periods provider request = some next) : CacheAgrees next := by
  cases served
  cases request with
  | getCredentials updateCredentials now =>
    exact (refresh_cases periods provider updateCredentials now false).agrees agrees
  | getUpdatedCredentials updateCredentials now =>
    exact (refresh_cases periods provider updateCredentials now true).agrees agrees

private theorem reachable_agrees (ran : run (serveStep periods) {} earlier = some provider) :
    CacheAgrees provider := by
  apply invariant_reached (fun _ _ _ agrees served => serve_keeps_agreement agrees served) _ ⟨earlier, ran⟩
  constructor
  · exact fun _ => rfl
  · exact fun written => absurd rfl written
  · rintro last ⟨⟩

/-- The credentials served by this call were written during it. -/
def WrittenNow (before : CredentialProvider) (answer : CredentialProvider × Credentials) : Prop :=
  answer.1.written = before.written ++ [answer.2]

/-- What a provider promises of its next call. -/
structure NeverStale (periods : TokenPeriods) (provider : CredentialProvider) : Prop where
  served : ∀ updateCredentials now, ClockFits periods now →
    WrittenNow provider (provider.getCredentials periods updateCredentials now) ∨
      Outlives periods now (provider.getCredentials periods updateCredentials now).2
  updated : ∀ updateCredentials now,
    WrittenNow provider (provider.getUpdatedCredentials periods updateCredentials now)
  rotation : ∀ request, (provider.serve periods request).1.written ≠ [] →
    (provider.serve periods request).1.nextRotationTime =
      (provider.serve periods request).1.credentials.expiration

private theorem due_refresh (due : (forceUpdate || CredentialProvider.due periods provider now) = true)
    (updateCredentials : UpdateCredentials) :
    (provider.refreshCredentials periods updateCredentials now forceUpdate).written =
        provider.written ++
          [(provider.refreshCredentials periods updateCredentials now forceUpdate).credentials] := by
  unfold CredentialProvider.refreshCredentials
  rw [if_pos due]

private theorem undue_refresh (undue : CredentialProvider.due periods provider now = false)
    (updateCredentials : UpdateCredentials) :
    provider.refreshCredentials periods updateCredentials now false = provider := by
  unfold CredentialProvider.refreshCredentials
  rw [undue]
  rfl

private theorem forced_writes (periods : TokenPeriods) (provider : CredentialProvider)
    (updateCredentials : UpdateCredentials) (now : UInt64) :
    WrittenNow provider (provider.getUpdatedCredentials periods updateCredentials now) := by
  have forced : (true || provider.due periods now) = true := Bool.true_or _
  exact due_refresh forced updateCredentials

/-- Once the provider has credentials, what is not due outlives the grace period. -/
theorem cached_outlives (agrees : CacheAgrees provider) (fits : ClockFits periods now)
    (undue : CredentialProvider.due periods provider now = false) :
    Outlives periods now provider.credentials := by
  have outlives := undue_outlives fits undue
  have positive := grace_positive periods
  have asked : provider.written ≠ [] := by
    intro never
    rw [agrees.unwritten never, UInt64.toNat_zero] at outlives
    omega
  rw [agrees.rotation asked] at outlives
  exact outlives

/-- Credentials come fresh from their provider, or outlive the grace period. -/
theorem served_fresh (agrees : CacheAgrees provider) (updateCredentials : UpdateCredentials)
    (fits : ClockFits periods now) :
    WrittenNow provider (provider.getCredentials periods updateCredentials now) ∨
      Outlives periods now (provider.getCredentials periods updateCredentials now).2 := by
  simp only [WrittenNow, CredentialProvider.getCredentials]
  cases due : provider.due periods now with
  | true =>
    have asked : (false || provider.due periods now) = true := by rw [due, Bool.or_true]
    exact .inl (due_refresh asked updateCredentials)
  | false =>
    rw [undue_refresh due]
    exact .inr (cached_outlives agrees fits due)

/-- **Credentials are never stale.** After any calls, and whatever the subclass
writes, a provider serves credentials that it just got or that outlive the grace
period. -/
theorem credentials_never_stale (ran : run (serveStep periods) {} earlier = some provider) :
    NeverStale periods provider := by
  have agrees := reachable_agrees ran
  constructor
  · exact fun updateCredentials now fits => served_fresh agrees updateCredentials fits
  · exact forced_writes periods provider
  · intro request asked
    have served : serveStep periods provider request = some (provider.serve periods request).1 := rfl
    exact (serve_keeps_agreement agrees served).rotation asked

/-- Two refreshes, and a call in between that is not due. -/
def twoRefreshes : List CredentialRequest :=
  [.getCredentials (fun _ => { expiration := 100 }) 40000000000,
    .getCredentials (fun _ => { expiration := 300 }) 50000000000,
    .getUpdatedCredentials (fun _ => { expiration := 200 }) 60000000000]

theorem refreshed_provider_never_stale :
    ∃ provider, run (serveStep ⟨300000000, 30000000⟩) {} twoRefreshes = some provider ∧
      provider.written.map (·.expiration) = [100, 200] ∧ NeverStale ⟨300000000, 30000000⟩ provider := by
  have evaluated : (run (serveStep ⟨300000000, 30000000⟩) {} twoRefreshes).map (fun provider =>
      provider.written.map (·.expiration)) = some [100, 200] := by decide
  obtain ⟨provider, ran, written⟩ := Option.map_eq_some_iff.mp evaluated
  exact ⟨provider, ran, written, credentials_never_stale ran⟩

/-! ## The providers of the library -/

/-- The update keeps the latest expiration. -/
def Everlasting (updateCredentials : UpdateCredentials) : Prop :=
  ∀ credentials, credentials.expiration = latestExpiration →
    (updateCredentials credentials).expiration = latestExpiration

theorem library_updates_everlasting (stored : Credentials) :
    Everlasting (staticUpdateCredentials stored) ∧ Everlasting emptyUpdateCredentials ∧
      Everlasting noUpdateCredentials :=
  ⟨fun _ _ => rfl, fun _ _ => rfl, fun _ latest => latest⟩

def CredentialRequest.updateCredentials : CredentialRequest → UpdateCredentials
  | .getCredentials updateCredentials _ | .getUpdatedCredentials updateCredentials _ => updateCredentials

private theorem everlasting_stays (everlasting : Everlasting request.updateCredentials)
    (latest : provider.credentials.expiration = latestExpiration)
    (served : serveStep periods provider request = some next) :
    next.credentials.expiration = latestExpiration := by
  cases served
  have refreshes : ∃ forceUpdate now, (provider.serve periods request).1 =
      provider.refreshCredentials periods request.updateCredentials now forceUpdate := by
    cases request with
    | getCredentials updateCredentials now => exact ⟨false, now, rfl⟩
    | getUpdatedCredentials updateCredentials now => exact ⟨true, now, rfl⟩
  obtain ⟨forceUpdate, now, same⟩ := refreshes
  have cases := refresh_cases periods provider request.updateCredentials now forceUpdate
  rw [same]
  generalize provider.refreshCredentials periods request.updateCredentials now forceUpdate = after at cases
  cases cases with
  | asked => exact everlasting provider.credentials latest
  | kept => exact latest

/-- A provider whose credentials never expire is asked once, although their
expiration wraps: to a second before the end of the clock. -/
theorem everlasting_provider_is_asked_once (ran : run (serveStep periods) {} earlier = some provider)
    (everlasting : ∀ request ∈ earlier, Everlasting request.updateCredentials)
    (asked : provider.written ≠ [])
    (early : now.toNat + 1000000000 * periods.credentialProviderGracePeriod.toNat ≤ 2 ^ 64 - 1000000000)
    (updateCredentials : UpdateCredentials) :
    provider.getCredentials periods updateCredentials now = (provider, provider.credentials) := by
  have all : EachStep (serveStep periods) (fun _ request => Everlasting request.updateCredentials) {} earlier :=
    each_step_of_members fun _ request member => everlasting request member
  have latest : provider.credentials.expiration = latestExpiration :=
    (invariant_throughout (fun _ _ _ latest everlasting served => everlasting_stays everlasting latest served)
      rfl all).at_end ran
  have rotation := (reachable_agrees ran).rotation asked
  have undue : provider.due periods now = false := by
    have wrapped : (inNanoseconds latestExpiration).toNat = 2 ^ 64 - 1000000000 := by decide
    have fits : ClockFits periods now := by
      unfold ClockFits
      omega
    rw [CredentialProvider.due, decide_eq_false_iff_not, gt_iff_lt, UInt64.lt_iff_toNat_lt,
      clock_exact fits, rotation, latest, wrapped]
    omega
  simp only [CredentialProvider.getCredentials]
  rw [undue_refresh undue]

end Provider

end KvsProducer
