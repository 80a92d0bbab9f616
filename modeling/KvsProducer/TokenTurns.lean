import Mathlib.Data.List.Range
import Mathlib.Data.List.Perm.Basic
import KvsProducer.TokenLedger

/-! Handlers that take turns: each does what it does alone, and no token is lost. -/
namespace KvsProducer
open Gst Runs

namespace TokenRaces

variable {periods : TokenPeriods} {clears : Bool} {state next final : Threads}

/-- The provider and its calls after these requests, one after the other. -/
def serveAll (periods : TokenPeriods) (requests : List TokenRequest) : TokenProvider × List TokenCall :=
  requests.foldl (fun served request =>
    let answer := served.1.handle periods request
    (answer.after, served.2 ++ answer.calls)) ({}, [])

private theorem serve_all_snoc (requests : List TokenRequest) (request : TokenRequest) :
    serveAll periods (requests ++ [request]) =
      (((serveAll periods requests).1.handle periods request).after,
        (serveAll periods requests).2 ++ ((serveAll periods requests).1.handle periods request).calls) := by
  rw [serveAll, List.foldl_append]
  rfl

/-- The requests that a step takes up. -/
def taken : Threads → Input → List TokenRequest
  | _, .start _ request => [request]
  | _, .advance _ => []
  | _, .destroy _ => []

/-- Nobody starts, or destroys the provider, while a handler is running. -/
def TakesTurns (state : Threads) : Input → Prop
  | .advance _ => True
  | _ => ∀ thread, state.working thread = none

/-- A handler fetches, frees, asks and hands out. -/
theorem handle_stages (self : TokenProvider) (request : TokenRequest) :
    let served := fetch periods self.provider request
    let asked := .freeAwsCredentials self.securityToken :: request.asks served.2
    match request.created with
    | .ok token =>
      (self.handle periods request).after = { provider := served.1, securityToken := some token } ∧
        (self.handle periods request).calls = asked ++ [request.hands served.2 (some token) token.size]
    | .error _ =>
      (self.handle periods request).after = { provider := served.1, securityToken := none } ∧
        (self.handle periods request).calls = asked := by
  cases request with
  | streamingToken updateCredentials now created eventStatus => cases created <;> exact ⟨rfl, rfl⟩
  | securityToken updateCredentials now created => cases created <;> exact ⟨rfl, rfl⟩

/-- How far a call of `freeAwsCredentials` that runs alone has come, from where it
found the provider. -/
inductive FreeStage (self : TokenProvider) (calls : List TokenCall) (state : Threads) (task : Task) :
    Phase → Prop where
  | freeing : state.self = self → state.calls = calls → FreeStage self calls state task (.freeing task)
  | releasing (token : AwsCredentials) : self.securityToken = some token → state.self = self → state.calls = calls →
      FreeStage self calls state task (.releasing token task)
  | clearing (token : AwsCredentials) : self.securityToken = some token → state.self = self →
      state.calls = calls ++ [.freeAwsCredentials self.securityToken] →
      FreeStage self calls state task (.clearing token task)

/-- How far the one running handler has come, from where it found the provider. -/
inductive Stage (periods : TokenPeriods) (self : TokenProvider) (request : TokenRequest) (state : Threads)
    (calls : List TokenCall) : Phase → Prop where
  | freeing : FreeStage { self with provider := (fetch periods self.provider request).1 } calls state
      (some (request, (fetch periods self.provider request).2)) phase → Stage periods self request state calls phase
  | creating : state.self = { provider := (fetch periods self.provider request).1, securityToken := none } →
      state.calls = calls ++ [.freeAwsCredentials self.securityToken] → Stage periods self request state calls
        (.creating request (fetch periods self.provider request).2)
  | reading (token : AwsCredentials) : request.created = .ok token →
      state.self = (self.handle periods request).after →
      state.calls ++ [request.hands (fetch periods self.provider request).2 (some token) token.size] =
        calls ++ (self.handle periods request).calls → Stage periods self request state calls
        (.reading request (fetch periods self.provider request).2)
  | handing (token : AwsCredentials) : request.created = .ok token →
      state.self = (self.handle periods request).after →
      state.calls ++ [request.hands (fetch periods self.provider request).2 (some token) token.size] =
        calls ++ (self.handle periods request).calls → Stage periods self request state calls
        (.handing request (fetch periods self.provider request).2 (some token))
  | copying (token : AwsCredentials) : request.created = .ok token →
      state.self = (self.handle periods request).after →
      state.calls = calls ++ (self.handle periods request).calls → Stage periods self request state calls
        (.copying request token)

/-- The provider between and during the handlers that took turns. -/
inductive InTurn (periods : TokenPeriods) (state : Threads) : List TokenRequest → Prop where
  | quiet : state.destroyed = false → (∀ thread, state.working thread = none) →
      (state.self, state.calls) = serveAll periods requests → InTurn periods state requests
  | busy (thread : ThreadId) (phase : Phase) : state.destroyed = false → state.working thread = some phase →
      (∀ other, other ≠ thread → state.working other = none) →
      Stage periods (serveAll periods earlier).1 request state (serveAll periods earlier).2 phase →
      InTurn periods state (earlier ++ [request])
  | destroying (thread : ThreadId) (phase : Phase) : state.destroyed = false →
      state.working thread = some phase → (∀ other, other ≠ thread → state.working other = none) →
      FreeStage (serveAll periods requests).1 (serveAll periods requests).2 state none phase →
      InTurn periods state requests
  | destroyed : (∀ thread, state.working thread = none) → state.destroyed = true →
      state.self = { (serveAll periods requests).1 with securityToken := none } →
      state.calls = (serveAll periods requests).2 ++
        [.freeAwsCredentials (serveAll periods requests).1.securityToken] → InTurn periods state requests

private theorem goTo_alone (state : Threads) (thread : ThreadId) (phase : Option Phase)
    (alone : ∀ other, other ≠ thread → state.working other = none) :
    (state.goTo thread phase).working thread = phase ∧
      ∀ other, other ≠ thread → (state.goTo thread phase).working other = none :=
  ⟨if_pos rfl, fun other apart => (if_neg apart).trans (alone other apart)⟩

private theorem goTo_quiet (state : Threads) (thread : ThreadId)
    (alone : ∀ other, other ≠ thread → state.working other = none) (other : ThreadId) :
    (state.goTo thread none).working other = none := by
  by_cases same : other = thread
  · exact if_pos same
  · exact (if_neg same).trans (alone other same)

/-- What a step of `freeAwsCredentials` leaves alone. -/
structure Beside (state next : Threads) : Prop where
  destroyed : next.destroyed = state.destroyed
  working : next.working = state.working

/-- A call of `freeAwsCredentials` that runs alone goes on, or returns with the
member NULL. -/
inductive FreesOn (clears : Bool) (self : TokenProvider) (calls : List TokenCall) (state : Threads)
    (thread : ThreadId) (task : Task) (phase : Phase) : Prop where
  | on (stay : Threads) (after : Phase) :
      perform clears state thread phase = stay.goTo thread (some after) → Beside state stay →
      FreeStage self calls (stay.goTo thread (some after)) task after →
      FreesOn clears self calls state thread task phase
  | done (ended : Threads) : perform clears state thread phase = ended.proceed thread task → Beside state ended →
      ended.self = { self with securityToken := none } →
      ended.calls = calls ++ [.freeAwsCredentials self.securityToken] →
      FreesOn clears self calls state thread task phase

private theorem free_goes_on (stage : FreeStage self calls state task phase) (thread : ThreadId) :
    FreesOn clears self calls state thread task phase := by
  cases stage with
  | freeing here called =>
    cases held : state.self.securityToken with
    | none =>
      have none : self.securityToken = none := by rw [← here, held]
      refine .done (state.log [.freeAwsCredentials .none]) (by simp only [perform, held]) ⟨rfl, rfl⟩ ?_ ?_
      · rw [← none, ← here]
        rfl
      · rw [none, ← called]
        rfl
    | some token =>
      refine .on (state.find token) (.releasing token task)
        (by simp only [perform, held]) ⟨rfl, rfl⟩ (.releasing token ?_ here called)
      rw [← here, held]
  | releasing token held here called =>
    refine .on (state.log [.freeAwsCredentials (some token)]) (.clearing token task) rfl ⟨rfl, rfl⟩
      (.clearing token held here ?_)
    rw [held, ← called]
    rfl
  | clearing token held here called =>
    refine .done (state.store none) rfl ⟨rfl, rfl⟩ ?_ called
    rw [← here]
    rfl

/-- The one running handler goes on as if it were alone. -/
theorem perform_in_turn (running : state.destroyed = false)
    (alone : ∀ other, other ≠ thread → state.working other = none)
    (stage : Stage periods (serveAll periods earlier).1 request state (serveAll periods earlier).2 working) :
    InTurn periods (perform clears state thread working) (earlier ++ [request]) := by
  have stages := @handle_stages periods (serveAll periods earlier).1 request
  have going (next : Threads) (after : Phase) (beside : Beside state next)
      (stage : Stage periods (serveAll periods earlier).1 request (next.goTo thread (some after))
        (serveAll periods earlier).2 after) :
      InTurn periods (next.goTo thread (some after)) (earlier ++ [request]) := by
    obtain ⟨here, elsewhere⟩ := goTo_alone next thread (some after) (by rw [beside.working]; exact alone)
    exact .busy thread after (beside.destroyed.trans running) here elsewhere stage
  have done (next : Threads) (beside : Beside state next)
      (self : next.self = ((serveAll periods earlier).1.handle periods request).after)
      (calls : next.calls = (serveAll periods earlier).2 ++
        ((serveAll periods earlier).1.handle periods request).calls) :
      InTurn periods (next.goTo thread none) (earlier ++ [request]) := by
    refine .quiet (beside.destroyed.trans running)
      (goTo_quiet next thread (by rw [beside.working]; exact alone)) ?_
    rw [serve_all_snoc, ← self, ← calls]
    rfl
  cases stage with
  | freeing freeing =>
    have goes : FreesOn clears _ _ state thread _ working := free_goes_on freeing thread
    cases goes with
    | on stay after performed beside freeing =>
      rw [performed]
      exact going stay after beside (.freeing freeing)
    | done ended performed beside self calls =>
      rw [performed]
      exact going ended _ beside (.creating self calls)
  | creating self calls =>
    simp only [perform]
    cases created : request.created with
    | ok token =>
      simp only [created] at stages ⊢
      refine going _ _ ⟨rfl, rfl⟩ (.reading token created ?_ ?_)
      · rw [stages.1]
        simp [Threads.make, Threads.store, Threads.log, Threads.goTo, self]
      · rw [stages.2]
        simp [Threads.make, Threads.store, Threads.log, Threads.goTo, calls]
    | error status =>
      simp only [created] at stages ⊢
      have asked : state.calls ++ request.asks (fetch periods (serveAll periods earlier).1.provider request).2 =
          (serveAll periods earlier).2 ++ ((serveAll periods earlier).1.handle periods request).calls := by
        rw [stages.2, calls, List.append_assoc]
        rfl
      -- the member is NULL already
      have left : state.self = ((serveAll periods earlier).1.handle periods request).after :=
        self.trans stages.1.symm
      cases clears with
      | true =>
        have cleared : { state.self with securityToken := none } = state.self := by rw [self]
        exact done _ ⟨rfl, rfl⟩ (cleared.trans left) asked
      | false => exact done _ ⟨rfl, rfl⟩ left asked
  | reading token created self calls =>
    simp only [created] at stages
    have held : state.self.securityToken = some token := by rw [self, stages.1]
    simp only [perform, held]
    exact going _ _ ⟨rfl, rfl⟩ (.handing token created self calls)
  | handing token created self calls =>
    simp only [created] at stages
    have held : state.self.securityToken = some token := by rw [self, stages.1]
    simp only [perform, held]
    exact going _ _ ⟨rfl, rfl⟩ (.copying token created self calls)
  | copying token created self calls => exact done state ⟨rfl, rfl⟩ self calls

/-- The destructor goes on alone. -/
theorem destroy_in_turn (running : state.destroyed = false)
    (alone : ∀ other, other ≠ thread → state.working other = none)
    (stage : FreeStage (serveAll periods requests).1 (serveAll periods requests).2 state none working) :
    InTurn periods (perform clears state thread working) requests := by
  have goes : FreesOn clears _ _ state thread _ working := free_goes_on stage thread
  cases goes with
  | on stay after performed beside stage =>
    rw [performed]
    obtain ⟨here, elsewhere⟩ := goTo_alone stay thread (some after) (by rw [beside.working]; exact alone)
    exact .destroying thread after (beside.destroyed.trans running) here elsewhere stage
  | done ended performed beside self calls =>
    rw [performed]
    exact .destroyed (fun other => goTo_quiet ended thread (by rw [beside.working]; exact alone) other) rfl self calls

private theorem step_in_turn (inTurn : InTurn periods state given) (turns : TakesTurns state input)
    (accepted : step periods clears state input = some next) :
    InTurn periods next (given ++ taken state input) := by
  obtain ⟨admitted, rfl⟩ := step_eq_some.mp accepted
  simp only [accepts, Bool.and_eq_true, Bool.not_eq_true'] at admitted
  obtain ⟨⟨_, running⟩, admitted⟩ := admitted
  cases inTurn with
  | destroyed _ gone =>
    rw [running] at gone
    cases gone
  | quiet _ idle served =>
    cases input with
    | start thread request =>
      obtain ⟨here, elsewhere⟩ := goTo_alone
        { state with self := { state.self with provider := (fetch periods state.self.provider request).1 } }
        thread (some (.freeing (some (request, (fetch periods state.self.provider request).2))))
        (fun other _ => idle other)
      refine .busy thread _ running here elsewhere ?_
      rw [← served]
      exact .freeing (.freeing rfl rfl)
    | advance thread => simp [idle thread] at admitted
    | destroy thread =>
      obtain ⟨here, elsewhere⟩ := goTo_alone { state with ending := true } thread (some (.freeing none))
        (fun other _ => idle other)
      rw [taken, List.append_nil]
      refine .destroying thread _ running here elsewhere ?_
      rw [← served]
      exact .freeing rfl rfl
  | @busy earlier request thread phase _ working alone stage =>
    cases input with
    | start other another => simp [turns thread] at working
    | destroy other => simp [turns thread] at working
    | advance other =>
      by_cases same : other = thread
      · subst same
        simp only [apply, working, taken, List.append_nil]
        exact perform_in_turn running alone stage
      · simp [alone other same] at admitted
  | destroying thread phase _ working alone stage =>
    cases input with
    | start other another => simp [turns thread] at working
    | destroy other => simp [turns thread] at working
    | advance other =>
      by_cases same : other = thread
      · subst same
        simp only [apply, working, taken, List.append_nil]
        exact destroy_in_turn running alone stage
      · simp [alone other same] at admitted

/-- What an only thread is about. -/
inductive Alone (state : Threads) (working : Phase) : Prop where
  | freeing (task : Task) : working = .freeing task → Alone state working
  | releasing (token : AwsCredentials) (task : Task) : working = .releasing token task →
      state.self.securityToken = some token → Alone state working
  | clearing (token : AwsCredentials) (task : Task) : working = .clearing token task →
      state.self.securityToken = some token → Alone state working
  | creating (request : TokenRequest) (credentials : Credentials) : working = .creating request credentials →
      state.self.securityToken = none → Alone state working
  | reading (request : TokenRequest) (credentials : Credentials) (token : AwsCredentials) :
      working = .reading request credentials → state.self.securityToken = some token → Alone state working
  | handing (request : TokenRequest) (credentials : Credentials) (token : AwsCredentials) :
      working = .handing request credentials (some token) → state.self.securityToken = some token →
      Alone state working
  | copying (request : TokenRequest) (token : AwsCredentials) : working = .copying request token →
      request.created = .ok token → state.self.securityToken = some token → Alone state working

theorem FreeStage.alone (stage : FreeStage self calls state task phase) : Alone state phase := by
  cases stage with
  | freeing here called => exact .freeing task rfl
  | releasing token held here called => exact .releasing token task rfl (here ▸ held)
  | clearing token held here called => exact .clearing token task rfl (here ▸ held)

theorem Stage.alone (stage : Stage periods self request state calls phase) : Alone state phase := by
  have stages := @handle_stages periods self request
  cases stage with
  | freeing freeing => exact freeing.alone
  | creating here called => exact .creating _ _ rfl (by rw [here])
  | reading token created here called =>
    simp only [created] at stages
    exact .reading _ _ token rfl (by rw [here, stages.1])
  | handing token created here called =>
    simp only [created] at stages
    exact .handing _ _ token rfl (by rw [here, stages.1])
  | copying token created here called =>
    simp only [created] at stages
    exact .copying _ token rfl created (by rw [here, stages.1])

theorem InTurn.alone (inTurn : InTurn periods state given) (phase : state.working thread = some working) :
    Alone state working ∧ ∀ other, other ≠ thread → state.working other = none := by
  cases inTurn with
  | quiet _ idle | destroyed idle => cases (idle thread).symm.trans phase
  | busy one busy _ here elsewhere stage =>
    by_cases same : thread = one
    · subst same
      cases here.symm.trans phase
      exact ⟨stage.alone, elsewhere⟩
    · cases (elsewhere thread same).symm.trans phase
  | destroying one busy _ here elsewhere stage =>
    by_cases same : thread = one
    · subst same
      cases here.symm.trans phase
      exact ⟨stage.alone, elsewhere⟩
    · cases (elsewhere thread same).symm.trans phase

/-- Who is alone meets no other thread's token. -/
theorem turns_touch_live (inTurn : InTurn periods state given) (input : Input) : TouchesLive state input := by
  cases input with
  | start | destroy => trivial
  | advance thread =>
    dsimp only [TouchesLive]
    cases phase : state.working thread with
    | none => trivial
    | some working =>
      obtain ⟨stage, elsewhere⟩ := inTurn.alone phase
      have apart {part : Phase → Option ℕ} {token : ℕ} (silent : part working = none) (other : ThreadId) :
          state.of part other ≠ some token := by
        intro said
        by_cases same : other = thread
        · rw [same, Threads.of, phase] at said
          cases silent.symm.trans said
        · rw [Threads.of, elsewhere other same] at said
          cases said
      cases stage with
      | freeing task is =>
        subst is
        dsimp only
        cases state.self.securityToken with
        | none => exact fun _ => elsewhere
        | some token => exact fun other => ⟨apart rfl other, apart rfl other⟩
      | releasing token task is held =>
        subst is
        exact fun other => apart rfl other
      | clearing token task is held =>
        subst is
        exact fun _ => elsewhere
      | creating request credentials is held =>
        subst is
        trivial
      | reading request credentials token is held =>
        subst is
        exact fun _ _ other => apart rfl other
      | handing request credentials token is held =>
        subst is
        exact ⟨token, held, rfl, fun other => apart rfl other⟩
      | copying request token is created held =>
        subst is
        trivial

/-- A handler that runs alone stores its token in an empty member, and clears the
member of a token that it freed. -/
theorem turns_overwrite_none (inTurn : InTurn periods state given) (consistent : Consistent state)
    (input : Input) : overwritten clears state input = [] := by
  cases input with
  | start | destroy => rfl
  | advance thread =>
    dsimp only [overwritten]
    cases phase : state.working thread with
    | none => rfl
    | some working =>
      cases (inTurn.alone phase).1 with
      | freeing task is | releasing token task is | reading request credentials token is
      | handing request credentials token is | copying request token is =>
        subst is
        rfl
      | clearing token task is held =>
        subst is
        have clearing : state.of Phase.clears thread = some token.address := by rw [Threads.of, phase]; rfl
        have found := (consistent.taken _).mpr (.inl (consistent.cleared thread _ clearing))
        simp [Threads.unclaimed, Threads.held, held, found]
      | creating request credentials is held =>
        subst is
        have nothing : state.unclaimed = [] := by simp [Threads.unclaimed, Threads.held, held]
        simp only [nothing]
        split
        · rfl
        · exact ite_self _

/-- A provider whose handlers took turns, and that lost no token. -/
structure Accounted (periods : TokenPeriods) (state : Threads) (requests : List TokenRequest) : Prop where
  inTurn : InTurn periods state requests
  consistent : Consistent state
  sound : TokensSound state
  ledger : Ledger state []

theorem init_accounted : Accounted periods {} [] where
  inTurn := .quiet rfl (fun _ => rfl) rfl
  consistent := init_consistent
  sound := init_sound_tokens
  ledger := init_ledger

theorem step_accounted (accounted : Accounted periods state given) (turns : TakesTurns state input)
    (accepted : step periods clears state input = some next) :
    Accounted periods next (given ++ taken state input) where
  inTurn := step_in_turn accounted.inTurn turns accepted
  consistent := step_consistent accounted.consistent accepted
  sound := (sound_step accounted.consistent accounted.sound accepted).mpr (turns_touch_live accounted.inTurn input)
  ledger := by
    have ledger := step_ledger accounted.ledger accepted
    rwa [turns_overwrite_none accounted.inTurn accounted.consistent] at ledger

/-- What holds of a provider whose handlers took turns for these requests. -/
structure ServedInTurn (periods : TokenPeriods) (final : Threads) (requests : List TokenRequest) : Prop where
  /-- `security_token_` is never NULL when its size is read, and never freed. -/
  alive : final.crashed = false ∧ final.readReleased = false
  /-- What the platform copies is the token its handler made, and not freed. -/
  own : ∀ thread request token, final.working thread = some (.copying request token) →
    request.created = .ok token ∧ token.address ∉ final.freed
  served : final.destroyed = false → (∀ thread, final.working thread = none) →
    (final.self, final.calls) = serveAll periods requests
  /-- No token leaks: it was freed, once, or is still the one of the member. -/
  kept : final.freed.Nodup ∧ ∀ token < final.made, token ∈ final.freed ∨ token ∈ final.held
  /-- In the end every token was freed. -/
  freed : final.destroyed = true → final.freed.Perm (List.range final.made)

theorem Accounted.served_in_turn (accounted : Accounted periods final requests) :
    ServedInTurn periods final requests := by
  obtain ⟨inTurn, consistent, sound, ledger⟩ := accounted
  have kept (token : ℕ) (made : token < final.made) : token ∈ final.freed ∨ token ∈ final.held := by
    rcases (ledger.places token).mp made with taken | held | lost
    · rcases (consistent.taken token).mp taken with freed | ⟨thread, releasing⟩
      · exact .inl freed
      · obtain ⟨working, phase, releases⟩ := Option.bind_eq_some_iff.mp releasing
        cases (inTurn.alone phase).1 with
        | releasing found task is held =>
          subst is
          cases releases
          exact .inr (by simp [Threads.held, held])
        | freeing _ is | clearing _ _ is | creating _ _ is | reading _ _ _ is | handing _ _ _ is
        | copying _ _ is =>
          subst is
          cases releases
    · exact .inr held
    · cases lost
  refine ⟨⟨sound.alive, sound.live⟩, fun thread request token phase => ?_, fun running quiet => ?_,
    ⟨sound.freedOnce, kept⟩, fun gone => ?_⟩
  · have unfreed := sound.used thread token.address (by rw [Threads.of, phase]; rfl)
    cases (inTurn.alone phase).1 with
    | copying _ _ is created held =>
      cases is
      exact ⟨created, unfreed⟩
    | freeing _ is | releasing _ _ is | clearing _ _ is | creating _ _ is | reading _ _ _ is
    | handing _ _ _ is => cases is
  · cases inTurn with
    | quiet _ _ served => exact served
    | destroyed _ gone => cases running.symm.trans gone
    | busy thread _ _ working | destroying thread _ _ working => cases (quiet thread).symm.trans working
  · have empty : final.held = [] := by
      cases inTurn with
      | quiet running | busy _ _ running | destroying _ _ running => cases running.symm.trans gone
      | destroyed _ _ self => simp [Threads.held, self]
    refine (List.perm_ext_iff_of_nodup sound.freedOnce List.nodup_range).mpr fun token => ?_
    rw [List.mem_range]
    constructor
    · exact fun freed => consistent.bounded token (.inl ((consistent.taken token).mpr (.inl freed)))
    · intro made
      have there := kept token made
      rw [empty] at there
      exact there.resolve_right List.not_mem_nil

/-- **Taking turns.** As long as the handlers of a provider do not overlap, each of
them does what it does alone: the platform copies the token that was made for it,
no token leaks, and when the provider is destroyed every token has been freed once. -/
theorem handlers_in_turn (ran : run (step periods clears) {} inputs = some final)
    (turns : EachStep (step periods clears) TakesTurns {} inputs) :
    ServedInTurn periods final (emitted (step periods clears) taken {} inputs) := by
  have accounted : Accounted periods final (emitted (step periods clears) taken {} inputs) :=
    run_accounts (fun _ _ _ _ accounted turns accepted => step_accounted accounted turns accepted)
      init_accounted turns ran
  exact accounted.served_in_turn

/-- One handler after the other, on two threads; the second cannot make its token. -/
def handlersInTurn : List Input :=
  let token := TokenRequest.securityToken (staticUpdateCredentials {}) 0 (.ok ⟨0, 100⟩)
  let failing := TokenRequest.securityToken (staticUpdateCredentials {}) 0 (.error 1)
  [.start 1 token, .advance 1, .advance 1, .advance 1, .advance 1, .advance 1, .start 2 failing, .advance 2,
    .advance 2, .advance 2, .advance 2, .destroy 2, .advance 2]

theorem two_handlers_in_turn :
    ∃ final, run (step ⟨300000000, 30000000⟩ true) {} handlersInTurn = some final ∧
      (final.freed, final.made, final.destroyed) = ([0], 1, true) ∧
      ServedInTurn ⟨300000000, 30000000⟩ final
        (emitted (step ⟨300000000, 30000000⟩ true) taken {} handlersInTurn) := by
  have evaluated : (run (step ⟨300000000, 30000000⟩ true) {} handlersInTurn).map (fun final =>
      (final.freed, final.made, final.destroyed)) = some ([0], 1, true) := by decide
  obtain ⟨final, ran, seen⟩ := Option.map_eq_some_iff.mp evaluated
  refine ⟨final, ran, seen, handlers_in_turn ran ?_⟩
  have after {rest : List Input} {state : Threads} {input : Input}
      (turns : TakesTurns state input)
      (later : EachStep (step ⟨300000000, 30000000⟩ true) TakesTurns
        (apply ⟨300000000, 30000000⟩ true state input) rest) :
      EachStep (step ⟨300000000, 30000000⟩ true) TakesTurns state (input :: rest) := by
    intro next accepted
    obtain ⟨_, rfl⟩ := step_eq_some.mp accepted
    exact ⟨turns, later⟩
  refine after (fun _ => rfl) <| after trivial <| after trivial <| after trivial <| after trivial <|
    after trivial <| after (fun thread => ?_) <| after trivial <| after trivial <| after trivial <|
    after trivial <| after (fun thread => ?_) <| after trivial trivial
  all_goals rcases thread with _ | _ | _ | thread <;> rfl

end TokenRaces
end KvsProducer
