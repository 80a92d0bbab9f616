import KvsProducer.TokenHandlers

/-! The token of a provider whose callbacks run on many threads. The mutex of the
provider covers its credentials, not the token, which every callback frees, makes
anew and hands out in separate steps. `freeAwsCredentials` releases what the member
points to, if anything, and sets the member to NULL; that is a read, a release and
a write, between which other threads get ahead. -/
namespace KvsProducer
open Gst Runs

def TokenRequest.created : TokenRequest → Except Status AwsCredentials
  | .streamingToken _ _ created _ => created
  | .securityToken _ _ created => created

/-- The calls with which a handler makes the token. -/
def TokenRequest.asks (request : TokenRequest) (credentials : Credentials) : List TokenCall :=
  let expiration := credentials.expirationInTimeUnits
  match request with
  | .streamingToken _ _ _ _ => [tokenRequest credentials expiration]
  | .securityToken _ _ _ => [.writeExpiration expiration, tokenRequest credentials expiration]

/-- How a handler hands a pointer out. -/
def TokenRequest.hands (credentials : Credentials) (pointer : Option AwsCredentials) (size : UInt32) :
    TokenRequest → TokenCall
  | .streamingToken _ _ _ _ => .getStreamingTokenResultEvent pointer size credentials.expirationInTimeUnits
  | .securityToken _ _ _ => .writeToken pointer size

/-- The token that a call frees. -/
def TokenCall.freed : TokenCall → Option ℕ
  | .freeAwsCredentials token => token.map (·.address)
  | _ => none

/-- What is handed out is a token, with its own size. -/
def TokenCall.HandsWhole : TokenCall → Prop
  | .getStreamingTokenResultEvent pointer size _ | .writeToken pointer size =>
    pointer.map (·.size) = some size
  | _ => True

namespace TokenRaces

abbrev ThreadId := ℕ

/-- What comes after the old token is freed: a handler makes its own, the
destructor is done. -/
abbrev Task := Option (TokenRequest × Credentials)

/-- Where a thread is inside a handler or the destructor: what its next atomic
step is. -/
inductive Phase where
  /-- Next `freeAwsCredentials` reads the member. -/
  | freeing (task : Task)
  /-- It has found this token; next it releases it. -/
  | releasing (token : AwsCredentials) (task : Task)
  /-- The token is released; next the member is set to NULL. -/
  | clearing (token : AwsCredentials) (task : Task)
  /-- Next the new token is made. -/
  | creating (request : TokenRequest) (credentials : Credentials)
  /-- The token was made; next the member is read for the pointer. -/
  | reading (request : TokenRequest) (credentials : Credentials)
  /-- Next the member is read once more, for the size, and both are handed out. -/
  | handing (request : TokenRequest) (credentials : Credentials) (pointer : Option AwsCredentials)
  /-- The platform copies what it was handed. -/
  | copying (request : TokenRequest) (token : AwsCredentials)

namespace Phase

/-- The token that the thread is about to release. -/
def releases : Phase → Option ℕ
  | .releasing token _ => some token.address
  | _ => none

/-- The token that the thread has released and not yet taken out of the member. -/
def clears : Phase → Option ℕ
  | .clearing token _ => some token.address
  | _ => none

/-- The token that the thread goes on to hand out or copy. -/
def uses : Phase → Option ℕ
  | .handing _ _ pointer => pointer.map (·.address)
  | .copying _ token => some token.address
  | _ => none

end Phase

structure Threads where
  self : TokenProvider := {}
  calls : List TokenCall := []
  /-- How many tokens were made; a token is told by its number. -/
  made : ℕ := 0
  /-- The tokens that calls of `freeAwsCredentials` have found. -/
  taken : List ℕ := []
  crashed : Bool := false
  /-- The size of a token was read after its release. -/
  readReleased : Bool := false
  /-- `~CredentialProvider` has been called. -/
  ending : Bool := false
  destroyed : Bool := false
  working : ThreadId → Option Phase := fun _ => none

inductive Input where
  /-- A handler is called, up to the credentials it is served. -/
  | start (thread : ThreadId) (request : TokenRequest)
  /-- The next step of what the thread is in. -/
  | advance (thread : ThreadId)
  /-- `~CredentialProvider` is called. -/
  | destroy (thread : ThreadId)

namespace Threads

def goTo (state : Threads) (thread : ThreadId) (phase : Option Phase) : Threads :=
  { state with working := fun other => if other = thread then phase else state.working other }

def log (state : Threads) (calls : List TokenCall) : Threads := { state with calls := state.calls ++ calls }

def store (state : Threads) (token : Option AwsCredentials) : Threads :=
  { state with self := { state.self with securityToken := token } }

/-- A call of `freeAwsCredentials` has found the token. -/
def find (state : Threads) (token : AwsCredentials) : Threads :=
  { state with taken := state.taken ++ [token.address] }

/-- A new token is in the member. -/
def make (state : Threads) (token : AwsCredentials) : Threads :=
  { state.store (some token) with made := state.made + 1 }

/-- `freeAwsCredentials` has returned. -/
def proceed (state : Threads) (thread : ThreadId) : Task → Threads
  | some (request, credentials) => state.goTo thread (some (.creating request credentials))
  | none => { state.goTo thread none with destroyed := true }

/-- The token of the member, by its number. -/
def held (state : Threads) : List ℕ := state.self.securityToken.toList.map (·.address)

def freed (state : Threads) : List ℕ := state.calls.filterMap TokenCall.freed

/-- The token of the member, unless a call of `freeAwsCredentials` has found it. -/
def unclaimed (state : Threads) : List ℕ := state.held.filter fun token => token ∉ state.taken

/-- The size of the token is read. -/
def readSize (state : Threads) (token : AwsCredentials) : Threads :=
  { state with readReleased := state.readReleased || state.freed.contains token.address }

/-- What the phase of the thread says of a token. -/
def of (state : Threads) (part : Phase → Option ℕ) (thread : ThreadId) : Option ℕ :=
  (state.working thread).bind part

end Threads

section Machine
variable (periods : TokenPeriods) (clears : Bool)

/-- The credentials are served under the mutex of the provider. -/
def fetch (provider : CredentialProvider) : TokenRequest → CredentialProvider × Credentials
  | .streamingToken updateCredentials now _ _ => provider.getUpdatedCredentials periods updateCredentials now
  | .securityToken updateCredentials now _ => provider.getCredentials periods updateCredentials now

/-- The step of a thread in this phase. It is up to `createAwsCredentials` whether
it clears the member when it fails. -/
def perform (state : Threads) (thread : ThreadId) : Phase → Threads
  | .freeing task =>
    match state.self.securityToken with
    | none => (state.log [.freeAwsCredentials none]).proceed thread task
    | some token => (state.find token).goTo thread (some (.releasing token task))
  | .releasing token task => (state.log [.freeAwsCredentials (some token)]).goTo thread
      (some (.clearing token task))
  | .clearing _ task => (state.store none).proceed thread task
  | .creating request credentials =>
    let asked := state.log (request.asks credentials)
    match request.created with
    | .ok token => (asked.make token).goTo thread (some (.reading request credentials))
    | .error _ => (if clears then asked.store none else asked).goTo thread none
  | .reading request credentials => state.goTo thread
      (some (.handing request credentials state.self.securityToken))
  | .handing request credentials pointer =>
    match state.self.securityToken with
    -- `security_token_->size`
    | none => { state with crashed := true }
    | some sized =>
      ((state.readSize sized).log [request.hands credentials pointer sized.size]).goTo thread
        (pointer.map (.copying request))
  | .copying _ _ => state.goTo thread none

def apply (state : Threads) : Input → Threads
  | .start thread request =>
    let (provider, credentials) := fetch periods state.self.provider request
    { state with self := { state.self with provider } }.goTo thread
      (some (.freeing (some (request, credentials))))
  | .advance thread =>
    match state.working thread with
    | none => state
    | some phase => perform clears state thread phase
  | .destroy thread => { state with ending := true }.goTo thread (some (.freeing none))

/-- The token that a handler in this phase makes has the next number. -/
def Phase.numbered (made : ℕ) : Phase → Bool
  | .creating request _ =>
    match request.created with
    | .ok token => token.address == made
    | .error _ => true
  | _ => true

def accepts (state : Threads) (input : Input) : Bool :=
  !state.crashed && !state.destroyed &&
    match input with
    | .start thread _ => (state.working thread).isNone
    | .advance thread => (state.working thread).any (Phase.numbered state.made)
    | .destroy thread => !state.ending && (state.working thread).isNone

def step (state : Threads) (input : Input) : Option Threads :=
  if accepts state input then some (apply periods clears state input) else none

/-- The tokens that a step loses: the member is overwritten, and nobody frees what
was there. -/
def overwritten (state : Threads) : Input → List ℕ
  | .advance thread =>
    match state.working thread with
    | some (.clearing _ _) => state.unclaimed
    | some (.creating request _) =>
      match request.created with
      | .ok _ => state.unclaimed
      | .error _ => if clears then state.unclaimed else []
    | _ => []
  | _ => []

end Machine

variable {periods : TokenPeriods} {clears : Bool} {state next final : Threads}

/-- When the destructor returns, no other thread is inside. -/
def EndsAlone (state : Threads) (thread : ThreadId) (task : Task) : Prop :=
  task = none → ∀ other, other ≠ thread → state.working other = none

/-- The step finds no token that another call of `freeAwsCredentials` has found and
that is still in the member, releases none that another thread uses, hands out a
live one with its own size, and ends the provider only when nobody else is inside. -/
def TouchesLive (state : Threads) : Input → Prop
  | .advance thread =>
    match state.working thread with
    | some (.freeing task) =>
      match state.self.securityToken with
      | none => EndsAlone state thread task
      | some token => ∀ other, state.of Phase.releases other ≠ some token.address ∧
          state.of Phase.clears other ≠ some token.address
    | some (.releasing token _) => ∀ other, state.of Phase.uses other ≠ some token.address
    | some (.clearing _ task) => EndsAlone state thread task
    | some (.reading _ _) => ∀ token, state.self.securityToken = some token →
        ∀ other, state.of Phase.clears other ≠ some token.address
    | some (.handing _ _ pointer) => ∃ sized, state.self.securityToken = some sized ∧
        pointer.map (·.size) = some sized.size ∧
          ∀ other, state.of Phase.clears other ≠ some sized.address
    | _ => True
  | _ => True

/-- No token is released twice or read after its release, no NULL is read through
or handed out, and the provider outlives its handlers. -/
structure TokensSound (state : Threads) : Prop where
  alive : state.crashed = false
  live : state.readReleased = false
  whole : ∀ call ∈ state.calls, call.HandsWhole
  freedOnce : state.freed.Nodup
  /-- What a thread is about to release nobody has released, or is about to. -/
  pending : ∀ thread token, state.of Phase.releases thread = some token →
    token ∉ state.freed ∧ ∀ other, state.of Phase.releases other = some token → other = thread
  used : ∀ thread token, state.of Phase.uses thread = some token → token ∉ state.freed
  outlives : state.destroyed = true → ∀ thread, state.working thread = none

/-! ## The steps -/

theorem step_eq_some {input : Input} : step periods clears state input = some next ↔
    accepts state input = true ∧ apply periods clears state input = next := by
  simp [step]

/-- What an input does. -/
inductive Steps (periods : TokenPeriods) (clears : Bool) (state : Threads) : Input → Threads → Prop where
  | started : state.working thread = none → Steps periods clears state (.start thread request)
      (Threads.goTo { state with self := { state.self with
        provider := (fetch periods state.self.provider request).1 } } thread
          (some (.freeing (some (request, (fetch periods state.self.provider request).2)))))
  | ended : state.working thread = none → Steps periods clears state (.destroy thread)
      (Threads.goTo { state with ending := true } thread (some (.freeing none)))
  | foundNull : state.working thread = some (.freeing task) → state.self.securityToken = none →
      Steps periods clears state (.advance thread)
        ((state.log [.freeAwsCredentials none]).proceed thread task)
  | found : state.working thread = some (.freeing task) → state.self.securityToken = some token →
      Steps periods clears state (.advance thread)
        ((state.find token).goTo thread (some (.releasing token task)))
  | released : state.working thread = some (.releasing token task) →
      Steps periods clears state (.advance thread)
        ((state.log [.freeAwsCredentials (some token)]).goTo thread (some (.clearing token task)))
  | cleared : state.working thread = some (.clearing token task) →
      Steps periods clears state (.advance thread) ((state.store none).proceed thread task)
  | made : state.working thread = some (.creating request credentials) → request.created = .ok token →
      token.address = state.made → Steps periods clears state (.advance thread)
        (((state.log (request.asks credentials)).make token).goTo thread (some (.reading request credentials)))
  | refused : state.working thread = some (.creating request credentials) → request.created = .error status →
      Steps periods clears state (.advance thread)
        ((if clears then (state.log (request.asks credentials)).store none
          else state.log (request.asks credentials)).goTo thread none)
  | pointed : state.working thread = some (.reading request credentials) →
      Steps periods clears state (.advance thread)
        (state.goTo thread (some (.handing request credentials state.self.securityToken)))
  | crashed : state.working thread = some (.handing request credentials pointer) →
      state.self.securityToken = none →
      Steps periods clears state (.advance thread) { state with crashed := true }
  | handed : state.working thread = some (.handing request credentials pointer) →
      state.self.securityToken = some sized → Steps periods clears state (.advance thread)
        (((state.readSize sized).log [request.hands credentials pointer sized.size]).goTo thread
          (pointer.map (.copying request)))
  | copied : state.working thread = some (.copying request token) →
      Steps periods clears state (.advance thread) (state.goTo thread none)

theorem step_cases (accepted : step periods clears state input = some next) :
    Steps periods clears state input next ∧ state.destroyed = false := by
  unfold step at accepted
  split at accepted
  · rename_i admitted
    cases accepted
    simp only [accepts, Bool.and_eq_true, Bool.not_eq_true'] at admitted
    obtain ⟨⟨_, running⟩, admitted⟩ := admitted
    refine ⟨?_, running⟩
    cases input with
    | start thread request => exact .started (Option.isNone_iff_eq_none.mp admitted)
    | destroy thread => exact .ended (Option.isNone_iff_eq_none.mp (Bool.and_eq_true_iff.mp admitted).2)
    | advance thread =>
      obtain ⟨phase, working, numbered⟩ := (Option.any_eq_true _ _).mp admitted
      simp only [apply, working]
      cases phase with
      | freeing task =>
        simp only [perform]
        cases held : state.self.securityToken with
        | none => exact .foundNull working held
        | some token => exact .found working held
      | releasing token task => exact .released working
      | clearing token task => exact .cleared working
      | creating request credentials =>
        simp only [perform]
        cases created : request.created with
        | ok token =>
          simp only [Phase.numbered, created, beq_iff_eq] at numbered
          exact .made working created numbered
        | error status => exact .refused working created
      | reading request credentials => exact .pointed working
      | handing request credentials pointer =>
        simp only [perform]
        cases held : state.self.securityToken with
        | none => exact .crashed working held
        | some sized => exact .handed working held
      | copying request token => exact .copied working
  · cases accepted

/-! ## What a step changes -/

@[simp] theorem held_goTo (state : Threads) (thread : ThreadId) (phase : Option Phase) :
    (state.goTo thread phase).held = state.held := rfl

@[simp] theorem freed_goTo (state : Threads) (thread : ThreadId) (phase : Option Phase) :
    (state.goTo thread phase).freed = state.freed := rfl

@[simp] theorem held_store (state : Threads) (token : Option AwsCredentials) :
    (state.store token).held = token.toList.map (·.address) := rfl

@[simp] theorem freed_store (state : Threads) (token : Option AwsCredentials) :
    (state.store token).freed = state.freed := rfl

@[simp] theorem held_log (state : Threads) (calls : List TokenCall) : (state.log calls).held = state.held := rfl

theorem freed_log (state : Threads) (calls : List TokenCall) :
    (state.log calls).freed = state.freed ++ calls.filterMap TokenCall.freed := List.filterMap_append

theorem goTo_of (state : Threads) (thread : ThreadId) (phase : Option Phase) (part : Phase → Option ℕ)
    (other : ThreadId) : (state.goTo thread phase).of part other =
      if other = thread then phase.bind part else state.of part other := by
  unfold Threads.of Threads.goTo
  dsimp only
  split
  · rfl
  · rfl

theorem silent_of {part : Phase → Option ℕ} {phase : Option Phase} (working : state.working thread = phase)
    (silent : phase.bind part = none) : state.of part thread = none := by
  rw [Threads.of, working, silent]

/-- Where a thread says nothing of a token before and after, nothing changes. -/
theorem goTo_of_quiet {part : Phase → Option ℕ} {phase : Option Phase} (before : state.of part thread = none)
    (after : phase.bind part = none) (other : ThreadId) :
    (state.goTo thread phase).of part other = state.of part other := by
  rw [goTo_of]
  split
  · rename_i same
    rw [after, same, before]
  · rfl

section Proceed
variable (state : Threads) (thread : ThreadId) (task : Task)

@[simp] theorem held_proceed : (state.proceed thread task).held = state.held := by cases task <;> rfl

@[simp] theorem freed_proceed : (state.proceed thread task).freed = state.freed := by cases task <;> rfl

@[simp] theorem made_proceed : (state.proceed thread task).made = state.made := by cases task <;> rfl

@[simp] theorem taken_proceed : (state.proceed thread task).taken = state.taken := by cases task <;> rfl

@[simp] theorem calls_proceed : (state.proceed thread task).calls = state.calls := by cases task <;> rfl

@[simp] theorem self_proceed : (state.proceed thread task).self = state.self := by cases task <;> rfl

@[simp] theorem crashed_proceed : (state.proceed thread task).crashed = state.crashed := by cases task <;> rfl

@[simp] theorem readReleased_proceed : (state.proceed thread task).readReleased = state.readReleased := by
  cases task <;> rfl

/-- After the call a thread goes on to make a token, or is done. -/
theorem proceed_of (part : Phase → Option ℕ)
    (silent : ∀ request credentials, part (.creating request credentials) = none) (other : ThreadId) :
    (state.proceed thread task).of part other = if other = thread then none else state.of part other := by
  cases task with
  | none => exact goTo_of state thread none part other
  | some asked => exact (goTo_of state thread _ part other).trans (by rw [Option.bind_some, silent])

theorem proceed_of_quiet (part : Phase → Option ℕ) (before : state.of part thread = none)
    (silent : ∀ request credentials, part (.creating request credentials) = none) (other : ThreadId) :
    (state.proceed thread task).of part other = state.of part other := by
  rw [proceed_of _ _ _ _ silent]
  split
  · rename_i same
    exact same ▸ before.symm
  · rfl

/-- The destructor is done when no other thread is inside, if it is the last one. -/
theorem proceed_outlives (running : state.destroyed = false) :
    ((state.proceed thread task).destroyed = true → ∀ other, (state.proceed thread task).working other = none) ↔
      EndsAlone state thread task := by
  cases task with
  | none =>
    constructor
    · intro outlives _ other apart
      exact (if_neg apart).symm.trans (outlives rfl other)
    · intro alone _ other
      by_cases same : other = thread
      · exact if_pos same
      · exact (if_neg same).trans (alone rfl other same)
  | some asked =>
    refine iff_of_true (fun gone => ?_) nofun
    cases running.symm.trans gone

end Proceed

private theorem token_request_frees_none (credentials : Credentials) (expiration : UInt64) :
    (tokenRequest credentials expiration).freed = none := by
  unfold tokenRequest
  dsimp only
  split <;> rfl

/-- Asking for a token frees none, and hands none out. -/
theorem asking_frees_none (request : TokenRequest) (credentials : Credentials) :
    (request.asks credentials).filterMap TokenCall.freed = [] := by
  have none := token_request_frees_none credentials credentials.expirationInTimeUnits
  cases request with
  | streamingToken => simp only [TokenRequest.asks, List.filterMap_cons, none, List.filterMap_nil]
  | securityToken =>
    have announced : (TokenCall.writeExpiration credentials.expirationInTimeUnits).freed = .none := rfl
    simp only [TokenRequest.asks, List.filterMap_cons, none, announced, List.filterMap_nil]

private theorem token_request_hands_none (credentials : Credentials) (expiration : UInt64) :
    (tokenRequest credentials expiration).HandsWhole := by
  unfold tokenRequest
  dsimp only
  split <;> trivial

theorem asking_hands_none (request : TokenRequest) (credentials : Credentials) :
    ∀ call ∈ request.asks credentials, call.HandsWhole := by
  have asked := token_request_hands_none credentials credentials.expirationInTimeUnits
  intro call member
  cases request with
  | streamingToken => exact List.mem_singleton.mp member ▸ asked
  | securityToken =>
    rcases List.mem_cons.mp member with rfl | last
    · trivial
    · exact List.mem_singleton.mp last ▸ asked

theorem handing_frees_none (request : TokenRequest) (credentials : Credentials)
    (pointer : Option AwsCredentials) (size : UInt32) :
    [request.hands credentials pointer size].filterMap TokenCall.freed = [] := by
  cases request <;> rfl

theorem hands_whole_iff (request : TokenRequest) (credentials : Credentials)
    (pointer : Option AwsCredentials) (size : UInt32) :
    (request.hands credentials pointer size).HandsWhole ↔ pointer.map (·.size) = some size := by
  cases request <;> rfl

end TokenRaces
end KvsProducer
