import Mathlib.Data.List.Basic
import KvsProducer.TokenRaces

/-! What becomes of the tokens when the handlers of a provider race: which steps are
sound, and which tokens leak. -/
namespace KvsProducer
open Gst Runs

namespace TokenRaces

variable {periods : TokenPeriods} {clears : Bool} {state next final : Threads}

/-! ## Where the tokens are -/

/-- What holds however the threads get ahead: tokens were made, a token of the
member that has been released is about to be taken out of it, and what calls of
`freeAwsCredentials` have found was released or is about to be. -/
structure Consistent (state : Threads) : Prop where
  bounded : ∀ token, token ∈ state.taken ∨ token ∈ state.held → token < state.made
  dangling : ∀ token ∈ state.held, token ∈ state.freed → ∃ thread, state.of Phase.clears thread = some token
  cleared : ∀ thread token, state.of Phase.clears thread = some token → token ∈ state.freed
  taken : ∀ token, token ∈ state.taken ↔
    token ∈ state.freed ∨ ∃ thread, state.of Phase.releases thread = some token

theorem init_consistent : Consistent {} where
  bounded token there := by rcases there with taken | held <;> simp [Threads.held] at *
  dangling token held := by simp [Threads.held] at held
  cleared thread token clearing := by simp [Threads.of] at clearing
  taken token := by simp [Threads.freed, Threads.of]

/-- Tokens stay where they are when no call of `freeAwsCredentials` gets on. -/
theorem Consistent.of_same (consistent : Consistent state) (made : state.made = next.made)
    (taken : next.taken = state.taken) (freed : next.freed = state.freed)
    (held : ∀ token ∈ next.held, token ∈ state.held)
    (releases : ∀ thread, next.of Phase.releases thread = state.of Phase.releases thread)
    (clears : ∀ thread, next.of Phase.clears thread = state.of Phase.clears thread ∨
      next.held = [] ∧ next.of Phase.clears thread = none) : Consistent next where
  bounded token there := by
    rw [← made]
    rw [taken] at there
    exact consistent.bounded token (there.imp_right (held token))
  dangling token here gone := by
    obtain ⟨thread, clearing⟩ := consistent.dangling token (held token here) (freed ▸ gone)
    rcases clears thread with same | ⟨empty, _⟩
    · exact ⟨thread, same.trans clearing⟩
    · rw [empty] at here
      cases here
  cleared thread token clearing := by
    rw [freed]
    rcases clears thread with same | ⟨_, none⟩
    · exact consistent.cleared thread token (same.symm.trans clearing)
    · cases none.symm.trans clearing
  taken token := by
    simp only [releases, taken, freed]
    exact consistent.taken token

section Consistency
variable {thread : ThreadId} {task : Task} {request : TokenRequest} {credentials : Credentials}
  {token sized : AwsCredentials}

private theorem found_consistent (consistent : Consistent state) (held : state.self.securityToken = some token)
    (working : state.working thread = some (.freeing task)) :
    Consistent ((state.find token).goTo thread (some (.releasing token task))) := by
  have here : token.address ∈ state.held := by simp [Threads.held, held]
  have idle : state.of Phase.releases thread = none := silent_of working rfl
  have releases (other : ThreadId) := goTo_of (state.find token) thread (some (.releasing token task))
    Phase.releases other
  have clearing (other : ThreadId) :
      ((state.find token).goTo thread (some (.releasing token task))).of Phase.clears other =
        state.of Phase.clears other := goTo_of_quiet (silent_of working rfl) rfl other
  constructor
  · rintro other (taken | held)
    · rcases List.mem_append.mp taken with before | new
      · exact consistent.bounded other (.inl before)
      · exact consistent.bounded other (.inr (List.mem_singleton.mp new ▸ here))
    · exact consistent.bounded other (.inr held)
  · intro other there gone
    simp only [clearing]
    exact consistent.dangling other there gone
  · intro other gone
    rw [clearing]
    exact consistent.cleared other gone
  · intro other
    have before := consistent.taken other
    simp only [releases, freed_goTo]
    constructor
    · intro member
      rcases List.mem_append.mp member with taken | new
      · rcases before.mp taken with freed | ⟨elsewhere, releasing⟩
        · exact .inl freed
        · refine .inr ⟨elsewhere, ?_⟩
          rw [if_neg fun same => by simp [same ▸ releasing] at idle]
          exact releasing
      · exact .inr ⟨thread, by rw [if_pos rfl, List.mem_singleton.mp new]; rfl⟩
    · rintro (freed | ⟨elsewhere, releasing⟩)
      · exact List.mem_append_left _ (before.mpr (.inl freed))
      · split at releasing
        · cases releasing
          exact List.mem_append_right _ (List.mem_singleton.mpr rfl)
        · exact List.mem_append_left _ (before.mpr (.inr ⟨elsewhere, releasing⟩))

theorem freed_by_release (state : Threads) (token : AwsCredentials) :
    (state.log [.freeAwsCredentials (some token)]).freed = state.freed ++ [token.address] := freed_log state _

private theorem released_consistent (consistent : Consistent state)
    (working : state.working thread = some (.releasing token task)) :
    Consistent ((state.log [.freeAwsCredentials (some token)]).goTo thread (some (.clearing token task))) := by
  have freed := freed_by_release state token
  have releasing : state.of Phase.releases thread = some token.address := by rw [Threads.of, working]; rfl
  have idle : state.of Phase.clears thread = none := silent_of working rfl
  have releases (other : ThreadId) := goTo_of (state.log [.freeAwsCredentials (some token)]) thread
    (some (.clearing token task)) Phase.releases other
  have clearing (other : ThreadId) := goTo_of (state.log [.freeAwsCredentials (some token)]) thread
    (some (.clearing token task)) Phase.clears other
  refine ⟨consistent.bounded, fun other here gone => ?_, fun other address cleared => ?_, fun other => ?_⟩
  · rw [freed_goTo, freed] at gone
    rcases List.mem_append.mp gone with before | new
    · obtain ⟨elsewhere, cleared⟩ := consistent.dangling other here before
      refine ⟨elsewhere, ?_⟩
      rw [clearing, if_neg fun same => by simp [same ▸ cleared] at idle]
      exact cleared
    · exact ⟨thread, by rw [clearing, if_pos rfl, List.mem_singleton.mp new]; rfl⟩
  · rw [freed_goTo, freed]
    rw [clearing] at cleared
    split at cleared
    · cases cleared
      exact List.mem_append_right _ (List.mem_singleton.mpr rfl)
    · exact List.mem_append_left _ (consistent.cleared other address cleared)
  · refine (consistent.taken other).trans ?_
    simp only [releases, freed_goTo, freed, List.mem_append, List.mem_singleton]
    constructor
    · rintro (before | ⟨elsewhere, found⟩)
      · exact .inl (.inl before)
      · by_cases same : elsewhere = thread
        · subst same
          cases releasing.symm.trans found
          exact .inl (.inr rfl)
        · exact .inr ⟨elsewhere, by rwa [if_neg same]⟩
    · rintro ((before | rfl) | ⟨elsewhere, found⟩)
      · exact .inl before
      · exact .inr ⟨thread, releasing⟩
      · split at found
        · cases found
        · exact .inr ⟨elsewhere, found⟩

theorem asking_keeps_freed (state : Threads) (request : TokenRequest) (credentials : Credentials) :
    (state.log (request.asks credentials)).freed = state.freed := by
  rw [freed_log, asking_frees_none, List.append_nil]

/-- The new token is the one of the member, and has a number that none had before. -/
theorem mem_held_make {number : ℕ} (numbered : token.address = state.made) (calls : List TokenCall)
    (phase : Option Phase) :
    number ∈ (((state.log calls).make token).goTo thread phase).held ↔ number = state.made := by
  rw [← numbered]
  simp [Threads.held, Threads.goTo, Threads.make, Threads.store]

private theorem made_consistent (consistent : Consistent state) (numbered : token.address = state.made)
    (working : state.working thread = some (.creating request credentials)) :
    Consistent (((state.log (request.asks credentials)).make token).goTo thread
      (some (.reading request credentials))) := by
  let stored := ((state.log (request.asks credentials)).make token).goTo thread
    (some (.reading request credentials))
  have freed : stored.freed = state.freed := asking_keeps_freed state request credentials
  have below (other : ℕ) (member : other ∈ state.taken) : other < state.made :=
    consistent.bounded other (.inl member)
  have releases (other : ThreadId) : stored.of Phase.releases other = state.of Phase.releases other :=
    goTo_of_quiet (silent_of working rfl) rfl other
  have clearing (other : ThreadId) : stored.of Phase.clears other = state.of Phase.clears other :=
    goTo_of_quiet (silent_of working rfl) rfl other
  refine ⟨fun other there => ?_, fun other here gone => ?_, fun other address cleared => ?_, fun other => ?_⟩
  · change other < state.made + 1
    rcases there with taken | held
    · exact Nat.lt_succ_of_lt (below other taken)
    · exact ((mem_held_make numbered _ _).mp held).le.trans_lt (Nat.lt_succ_self _)
  · have old := below other ((consistent.taken other).mpr (.inl (freed ▸ gone)))
    exact absurd ((mem_held_make numbered _ _).mp here) old.ne
  · exact freed.symm ▸ consistent.cleared other address ((clearing other).symm.trans cleared)
  · refine (consistent.taken other).trans (or_congr ?_ (exists_congr fun elsewhere => ?_))
    · rw [← freed]
    · rw [← releases]

theorem copying_silent (request : TokenRequest) (pointer : Option AwsCredentials) :
    (pointer.map (Phase.copying request)).bind Phase.releases = none ∧
      (pointer.map (Phase.copying request)).bind Phase.clears = none := by
  cases pointer <;> exact ⟨rfl, rfl⟩

theorem handing_keeps_freed (state : Threads) (request : TokenRequest) (credentials : Credentials)
    (pointer : Option AwsCredentials) (sized : AwsCredentials) :
    ((state.readSize sized).log [request.hands credentials pointer sized.size]).freed = state.freed := by
  rw [freed_log, handing_frees_none, List.append_nil]
  rfl

end Consistency

theorem searching_keeps_freed (state : Threads) : (state.log [.freeAwsCredentials none]).freed = state.freed := by
  rw [freed_log]
  exact List.append_nil _

theorem step_consistent (consistent : Consistent state)
    (accepted : step periods clears state input = some next) : Consistent next := by
  cases (step_cases accepted).1 with
  | started idle | ended idle =>
    exact consistent.of_same rfl rfl rfl (fun _ => id) (goTo_of_quiet (silent_of idle rfl) rfl)
      fun other => .inl (goTo_of_quiet (silent_of idle rfl) rfl other)
  | @foundNull thread task working empty =>
    let searched := state.log [.freeAwsCredentials none]
    refine consistent.of_same (by simp; rfl) (by simp; rfl)
      ((freed_proceed ..).trans (searching_keeps_freed state)) (by simp) ?_ ?_
    · exact proceed_of_quiet searched thread task Phase.releases (silent_of working rfl) fun _ _ => rfl
    · exact fun other => .inl
        (proceed_of_quiet searched thread task Phase.clears (silent_of working rfl) (fun _ _ => rfl) other)
  | found working held => exact found_consistent consistent held working
  | released working => exact released_consistent consistent working
  | @cleared thread token task working =>
    have clearing := proceed_of (state.store none) thread task Phase.clears fun _ _ => rfl
    refine consistent.of_same (by simp; rfl) (by simp; rfl) (by simp) (by simp)
      (proceed_of_quiet (state.store none) thread task Phase.releases (silent_of working rfl) fun _ _ => rfl)
      fun other => ?_
    rw [clearing]
    split
    · exact .inr ⟨by simp, rfl⟩
    · exact .inl rfl
  | made working created numbered => exact made_consistent consistent numbered working
  | @refused thread request credentials status working created =>
    have freed := asking_keeps_freed state request credentials
    have releases : state.of Phase.releases thread = none := silent_of working rfl
    have clearing : state.of Phase.clears thread = none := silent_of working rfl
    split
    · exact consistent.of_same rfl rfl freed (by simp) (goTo_of_quiet releases rfl)
        fun other => .inl (goTo_of_quiet clearing rfl other)
    · exact consistent.of_same rfl rfl freed (fun _ => id) (goTo_of_quiet releases rfl)
        fun other => .inl (goTo_of_quiet clearing rfl other)
  | pointed working | copied working =>
    exact consistent.of_same rfl rfl rfl (fun _ => id) (goTo_of_quiet (silent_of working rfl) rfl)
      fun other => .inl (goTo_of_quiet (silent_of working rfl) rfl other)
  | crashed working held =>
    exact consistent.of_same rfl rfl rfl (fun _ => id) (fun _ => rfl) fun _ => .inl rfl
  | @handed thread request credentials pointer sized working held =>
    obtain ⟨releases, clearing⟩ := copying_silent request pointer
    exact consistent.of_same rfl rfl (handing_keeps_freed ..) (fun _ => id)
      (goTo_of_quiet (silent_of working rfl) releases)
      fun other => .inl (goTo_of_quiet (silent_of working rfl) clearing other)

/-! ## Which steps are sound -/

/-- What becomes of soundness when no token is released. -/
theorem TokensSound.of_same (sound : TokensSound state) (alive : next.crashed = false)
    (live : next.readReleased = false) (whole : ∀ call ∈ next.calls, call.HandsWhole)
    (freed : next.freed = state.freed)
    (releases : ∀ thread, next.of Phase.releases thread = state.of Phase.releases thread)
    (uses : ∀ thread token, next.of Phase.uses thread = some token →
      state.of Phase.uses thread = some token ∨ token ∉ state.freed)
    (outlives : next.destroyed = true → ∀ thread, next.working thread = none) : TokensSound next where
  alive := alive
  live := live
  whole := whole
  freedOnce := freed ▸ sound.freedOnce
  pending thread token := by
    simp only [releases, freed]
    exact sound.pending thread token
  used thread token using' := by
    rw [freed]
    exact (uses thread token using').elim (sound.used thread token) id
  outlives := outlives

section Soundness
variable {thread : ThreadId} {task : Task} {request : TokenRequest} {credentials : Credentials}
  {token sized : AwsCredentials} {pointer : Option AwsCredentials}

/-- A provider that is not at its end outlives its handlers so far. -/
private theorem runs_on (running : state.destroyed = false) (same : next.destroyed = state.destroyed)
    (gone : next.destroyed = true) (thread : ThreadId) : next.working thread = none := by
  rw [same, running] at gone
  cases gone

private theorem whole_then {calls added : List TokenCall} (before : ∀ call ∈ calls, call.HandsWhole)
    (new : ∀ call ∈ added, call.HandsWhole) : ∀ call ∈ calls ++ added, call.HandsWhole :=
  fun call member => (List.mem_append.mp member).elim (before call) (new call)

private theorem free_hands_whole (freed : Option AwsCredentials) :
    ∀ call ∈ [TokenCall.freeAwsCredentials freed], call.HandsWhole := by
  intro call member
  rw [List.mem_singleton.mp member]
  trivial

/-- A call that returns is sound unless it ends the destructor under another thread. -/
private theorem proceed_sound_iff (sound : TokensSound state) (running : state.destroyed = false)
    (releases : state.of Phase.releases thread = none) (uses : state.of Phase.uses thread = none)
    (whole : ∀ call ∈ next.calls, call.HandsWhole) (freed : next.freed = state.freed)
    (same : next.crashed = state.crashed ∧ next.readReleased = state.readReleased ∧
      next.destroyed = state.destroyed ∧ next.working = state.working) :
    TokensSound (next.proceed thread task) ↔ EndsAlone state thread task := by
  obtain ⟨crashed, readReleased, destroyed, working⟩ := same
  have alike (part : Phase → Option ℕ) (other : ThreadId) : next.of part other = state.of part other := by
    rw [Threads.of, working]
    rfl
  have ends := @proceed_outlives next thread task (destroyed.trans running)
  have alone : EndsAlone next thread task ↔ EndsAlone state thread task := by
    unfold EndsAlone
    rw [working]
  rw [← alone]
  constructor
  · exact fun after => ends.mp after.outlives
  · intro left
    have releasing := proceed_of_quiet next thread task Phase.releases
      ((alike Phase.releases thread).trans releases) fun _ _ => rfl
    have using' := proceed_of_quiet next thread task Phase.uses ((alike Phase.uses thread).trans uses)
      fun _ _ => rfl
    refine sound.of_same ((crashed_proceed ..).trans (crashed.trans sound.alive))
      ((readReleased_proceed ..).trans (readReleased.trans sound.live)) (by rw [calls_proceed]; exact whole)
      ((freed_proceed ..).trans freed) (fun other => (releasing other).trans (alike _ other))
      (fun other token used => .inl ?_) (ends.mpr left)
    rw [← alike, ← using', used]

private theorem found_sound_iff (consistent : Consistent state) (sound : TokensSound state)
    (running : state.destroyed = false) (held : state.self.securityToken = some token)
    (working : state.working thread = some (.freeing task)) :
    TokensSound ((state.find token).goTo thread (some (.releasing token task))) ↔
      ∀ other, state.of Phase.releases other ≠ some token.address ∧
        state.of Phase.clears other ≠ some token.address := by
  have here : token.address ∈ state.held := by simp [Threads.held, held]
  have idle : state.of Phase.releases thread = none := silent_of working rfl
  have releases (other : ThreadId) := goTo_of (state.find token) thread (some (.releasing token task))
    Phase.releases other
  have uses (other : ThreadId) :
      ((state.find token).goTo thread (some (.releasing token task))).of Phase.uses other =
        state.of Phase.uses other := goTo_of_quiet (silent_of working rfl) rfl other
  constructor
  · intro after other
    obtain ⟨unfreed, alone⟩ := after.pending thread token.address (by rw [releases, if_pos rfl]; rfl)
    refine ⟨fun releasing => ?_, fun clearing => unfreed (consistent.cleared other _ clearing)⟩
    have apart : other ≠ thread := fun same => by simp [same ▸ releasing] at idle
    exact apart (alone other (by rw [releases, if_neg apart]; exact releasing))
  · intro untouched
    have unfreed : token.address ∉ state.freed := fun gone => by
      obtain ⟨other, clearing⟩ := consistent.dangling _ here gone
      exact (untouched other).2 clearing
    refine ⟨sound.alive, sound.live, sound.whole, sound.freedOnce, fun one address first => ?_,
      fun other address used => sound.used other address ((uses other).symm.trans used), runs_on running rfl⟩
    rw [releases] at first
    split at first
    · rename_i same
      cases first
      refine ⟨unfreed, fun other second => ?_⟩
      rw [releases] at second
      split at second
      · rename_i sameToo
        rw [same, sameToo]
      · exact absurd second (untouched other).1
    · obtain ⟨unfreedToo, alone⟩ := sound.pending one address first
      refine ⟨unfreedToo, fun other second => ?_⟩
      rw [releases] at second
      split at second
      · cases second
        exact absurd first (untouched one).1
      · exact alone other second

private theorem released_sound_iff (sound : TokensSound state) (running : state.destroyed = false)
    (working : state.working thread = some (.releasing token task)) :
    TokensSound ((state.log [.freeAwsCredentials (some token)]).goTo thread (some (.clearing token task))) ↔
      ∀ other, state.of Phase.uses other ≠ some token.address := by
  have freed := freed_by_release state token
  have releasing : state.of Phase.releases thread = some token.address := by rw [Threads.of, working]; rfl
  have releases (other : ThreadId) := goTo_of (state.log [.freeAwsCredentials (some token)]) thread
    (some (.clearing token task)) Phase.releases other
  have uses (other : ThreadId) :
      ((state.log [.freeAwsCredentials (some token)]).goTo thread (some (.clearing token task))).of
        Phase.uses other = state.of Phase.uses other := goTo_of_quiet (silent_of working rfl) rfl other
  obtain ⟨unfreed, alone⟩ := sound.pending thread token.address releasing
  constructor
  · intro after other used
    have kept := after.used other token.address ((uses other).trans used)
    rw [freed_goTo, freed] at kept
    exact kept (List.mem_append_right _ (List.mem_singleton.mpr rfl))
  · intro unused
    have stays {address : ℕ} (before : address ∉ state.freed) (apart : address ≠ token.address) :
        address ∉ state.freed ++ [token.address] := by
      simp [before, apart]
    refine ⟨sound.alive, sound.live, whole_then sound.whole (free_hands_whole _), ?_,
      fun one address first => ?_, fun other address used => ?_, runs_on running rfl⟩
    · rw [freed_goTo, freed]
      exact List.nodup_append.mpr ⟨sound.freedOnce, by simp, fun one before other new =>
        fun same => unfreed (List.mem_singleton.mp new ▸ same ▸ before)⟩
    · rw [releases] at first
      split at first
      · cases first
      · rename_i apart
        obtain ⟨unfreedToo, aloneToo⟩ := sound.pending one address first
        rw [freed_goTo, freed]
        refine ⟨stays unfreedToo fun same => apart (alone one (same ▸ first)), fun other second => ?_⟩
        rw [releases] at second
        split at second
        · cases second
        · exact aloneToo other second
    · have before := (uses other).symm.trans used
      rw [freed_goTo, freed]
      exact stays (sound.used other address before) fun same => unused other (same ▸ before)

private theorem pointed_sound_iff (consistent : Consistent state) (sound : TokensSound state)
    (running : state.destroyed = false)
    (working : state.working thread = some (.reading request credentials)) :
    TokensSound (state.goTo thread (some (.handing request credentials state.self.securityToken))) ↔
      ∀ token, state.self.securityToken = some token →
        ∀ other, state.of Phase.clears other ≠ some token.address := by
  have uses := goTo_of state thread (some (.handing request credentials state.self.securityToken)) Phase.uses
  constructor
  · intro after token held other clearing
    refine after.used thread token.address ?_ (consistent.cleared other _ clearing)
    rw [uses, if_pos rfl, held]
    rfl
  · intro alive
    refine sound.of_same sound.alive sound.live sound.whole rfl (goTo_of_quiet (silent_of working rfl) rfl)
      (fun other address used => ?_) (runs_on running rfl)
    rw [uses] at used
    split at used
    · obtain ⟨token, held, rfl⟩ := Option.map_eq_some_iff.mp used
      refine .inr fun gone => ?_
      obtain ⟨elsewhere, clearing⟩ := consistent.dangling _ (by simp [Threads.held, held]) gone
      exact alive token held elsewhere clearing
    · exact .inl used

private theorem handed_sound_iff (consistent : Consistent state) (sound : TokensSound state)
    (running : state.destroyed = false) (held : state.self.securityToken = some sized)
    (working : state.working thread = some (.handing request credentials pointer)) :
    TokensSound (((state.readSize sized).log [request.hands credentials pointer sized.size]).goTo thread
        (pointer.map (.copying request))) ↔
      pointer.map (·.size) = some sized.size ∧ ∀ other, state.of Phase.clears other ≠ some sized.address := by
  have here : sized.address ∈ state.held := by simp [Threads.held, held]
  have unread : (((state.readSize sized).log [request.hands credentials pointer sized.size]).goTo thread
      (pointer.map (.copying request))).readReleased =
        (state.readReleased || state.freed.contains sized.address) := rfl
  constructor
  · intro after
    refine ⟨(hands_whole_iff ..).mp (after.whole _ (List.mem_append_right _ List.mem_cons_self)),
      fun other clearing => ?_⟩
    have gone := consistent.cleared other _ clearing
    have live := after.live
    rw [unread] at live
    simp [gone] at live
  · rintro ⟨whole, alive⟩
    have unfreed : sized.address ∉ state.freed := fun gone => by
      obtain ⟨other, clearing⟩ := consistent.dangling _ here gone
      exact alive other clearing
    refine sound.of_same sound.alive ?_ (whole_then sound.whole fun call member => ?_)
      (handing_keeps_freed ..) (goTo_of_quiet (silent_of working rfl) (copying_silent request pointer).1)
      (fun other token used => .inl ?_) (runs_on running rfl)
    · rw [unread]
      simp [sound.live, unfreed]
    · rw [List.mem_singleton.mp member]
      exact (hands_whole_iff ..).mpr whole
    · rw [goTo_of] at used
      split at used
      · rename_i same
        rw [same, Threads.of, working]
        cases pointer with
        | none => cases used
        | some handed => exact used
      · exact used

end Soundness

theorem sound_step (consistent : Consistent state) (sound : TokensSound state)
    (accepted : step periods clears state input = some next) : TokensSound next ↔ TouchesLive state input := by
  obtain ⟨steps, running⟩ := step_cases accepted
  cases steps with
  | started idle | ended idle =>
    exact iff_of_true (sound.of_same sound.alive sound.live sound.whole rfl
      (goTo_of_quiet (silent_of idle rfl) rfl)
      (fun other token used => .inl ((goTo_of_quiet (silent_of idle rfl) rfl other).symm.trans used))
      (runs_on running rfl)) trivial
  | foundNull working empty =>
    simp only [TouchesLive, working, empty]
    exact proceed_sound_iff sound running (silent_of working rfl) (silent_of working rfl)
      (whole_then sound.whole (free_hands_whole _)) (searching_keeps_freed state) ⟨rfl, rfl, rfl, rfl⟩
  | found working held =>
    simp only [TouchesLive, working, held]
    exact found_sound_iff consistent sound running held working
  | released working =>
    simp only [TouchesLive, working]
    exact released_sound_iff sound running working
  | cleared working =>
    simp only [TouchesLive, working]
    exact proceed_sound_iff sound running (silent_of working rfl) (silent_of working rfl) sound.whole rfl
      ⟨rfl, rfl, rfl, rfl⟩
  | @made thread request credentials token working created numbered =>
    simp only [TouchesLive, working, iff_true]
    exact sound.of_same sound.alive sound.live
      (whole_then sound.whole (asking_hands_none request credentials)) (asking_keeps_freed ..)
      (goTo_of_quiet (silent_of working rfl) rfl)
      (fun other token used => .inl ((goTo_of_quiet (silent_of working rfl) rfl other).symm.trans used))
      (runs_on running rfl)
  | @refused thread request credentials status working created =>
    have whole := whole_then sound.whole (asking_hands_none request credentials)
    have freed := asking_keeps_freed state request credentials
    have releases : state.of Phase.releases thread = none := silent_of working rfl
    have uses : state.of Phase.uses thread = none := silent_of working rfl
    simp only [TouchesLive, working, iff_true]
    split
    · exact sound.of_same sound.alive sound.live whole freed (goTo_of_quiet releases rfl)
        (fun other token used => .inl ((goTo_of_quiet uses rfl other).symm.trans used)) (runs_on running rfl)
    · exact sound.of_same sound.alive sound.live whole freed (goTo_of_quiet releases rfl)
        (fun other token used => .inl ((goTo_of_quiet uses rfl other).symm.trans used)) (runs_on running rfl)
  | pointed working =>
    simp only [TouchesLive, working]
    exact pointed_sound_iff consistent sound running working
  | crashed working held =>
    simp only [TouchesLive, working, held]
    exact iff_of_false (fun after => by cases after.alive) (by simp)
  | handed working held =>
    simp only [TouchesLive, working, held, Option.some.injEq, exists_eq_left']
    exact handed_sound_iff consistent sound running held working
  | copied working =>
    simp only [TouchesLive, working, iff_true]
    refine sound.of_same sound.alive sound.live sound.whole rfl (goTo_of_quiet (silent_of working rfl) rfl)
      (fun other token used => ?_) (runs_on running rfl)
    rw [goTo_of] at used
    split at used
    · cases used
    · exact .inl used

/-! ## The ledger -/

/-- Every token that was made is in one place: a call of `freeAwsCredentials` has
found it, the member points to it, or it was overwritten. -/
structure Ledger (state : Threads) (lost : List ℕ) : Prop where
  places : ∀ token, token < state.made ↔ token ∈ state.taken ∨ token ∈ state.held ∨ token ∈ lost
  lostOnce : lost.Nodup
  lostApart : ∀ token ∈ lost, token ∉ state.taken ∧ token ∉ state.held

theorem Ledger.of_same (ledger : Ledger state lost) (made : next.made = state.made)
    (taken : next.taken = state.taken) (held : next.held = state.held) : Ledger next (lost ++ []) := by
  rw [List.append_nil]
  refine ⟨fun token => ?_, ledger.lostOnce, fun token member => ?_⟩
  · rw [made, taken, held]
    exact ledger.places token
  · rw [taken, held]
    exact ledger.lostApart token member

theorem mem_unclaimed {token : ℕ} : token ∈ state.unclaimed ↔ token ∈ state.held ∧ token ∉ state.taken := by
  simp [Threads.unclaimed]

/-- What is lost when the member gets new contents. -/
theorem Ledger.overwrite (ledger : Ledger state lost) (taken : next.taken = state.taken)
    (made : ∀ token, token < next.made ↔ token < state.made ∨ token ∈ next.held)
    (fresh : ∀ token ∈ next.held, state.made ≤ token) : Ledger next (lost ++ state.unclaimed) := by
  have old (token : ℕ) (there : token ∈ state.held ∨ token ∈ lost) : token < state.made :=
    (ledger.places token).mpr (.inr there)
  refine ⟨fun token => ?_, List.nodup_append.mpr ⟨ledger.lostOnce, ?_, ?_⟩, fun token member => ?_⟩
  · rw [made, ledger.places, taken, List.mem_append, mem_unclaimed]
    tauto
  · have single : state.held.Nodup := by
      unfold Threads.held
      cases state.self.securityToken <;> simp
    exact List.Pairwise.filter _ single
  · rintro token member _ unclaimed rfl
    exact (ledger.lostApart token member).2 (mem_unclaimed.mp unclaimed).1
  · rw [taken]
    rcases List.mem_append.mp member with before | unclaimed
    · exact ⟨(ledger.lostApart token before).1, fun here =>
        absurd (old token (.inr before)) (Nat.not_lt.mpr (fresh token here))⟩
    · obtain ⟨here, unfound⟩ := mem_unclaimed.mp unclaimed
      exact ⟨unfound, fun again => absurd (old token (.inl here)) (Nat.not_lt.mpr (fresh token again))⟩

theorem step_ledger (ledger : Ledger state lost) (accepted : step periods clears state input = some next) :
    Ledger next (lost ++ overwritten clears state input) := by
  cases (step_cases accepted).1 with
  | started idle | ended idle => exact ledger.of_same rfl rfl rfl
  | foundNull working empty =>
    simp only [overwritten, working]
    exact ledger.of_same (by simp; rfl) (by simp; rfl) (by simp)
  | @found thread task token working held =>
    have here : state.held = [token.address] := by simp [Threads.held, held]
    simp only [overwritten, working, List.append_nil]
    refine ⟨fun other => ?_, ledger.lostOnce, fun other member => ?_⟩
    · refine (ledger.places other).trans ?_
      change _ ↔ other ∈ state.taken ++ [token.address] ∨ other ∈ state.held ∨ other ∈ lost
      simp only [here, List.mem_append, List.mem_singleton]
      tauto
    · obtain ⟨unfound, elsewhere⟩ := ledger.lostApart other member
      refine ⟨fun taken => ?_, elsewhere⟩
      rcases List.mem_append.mp taken with before | new
      · exact unfound before
      · exact elsewhere (here ▸ new)
  | released working =>
    simp only [overwritten, working]
    exact ledger.of_same rfl rfl rfl
  | cleared working =>
    simp only [overwritten, working]
    exact ledger.overwrite (by simp; rfl) (fun token => by simp; rfl) (by simp)
  | @made thread request credentials token working created numbered =>
    simp only [overwritten, working, created]
    refine ledger.overwrite rfl (fun other => ?_) fun other here => ?_
    · rw [mem_held_make numbered]
      exact Nat.lt_succ_iff_lt_or_eq
    · exact ((mem_held_make numbered _ _).mp here).ge
  | @refused thread request credentials status working created =>
    simp only [overwritten, working, created]
    split
    · exact ledger.overwrite rfl (fun token => by simp; rfl) (by simp)
    · exact ledger.of_same rfl rfl rfl
  | pointed working | copied working | crashed working | handed working =>
    simp only [overwritten, working]
    exact ledger.of_same rfl rfl rfl

theorem init_sound_tokens : TokensSound {} where
  alive := rfl
  live := rfl
  whole _ member := by cases member
  freedOnce := List.nodup_nil
  pending _ _ releasing := by cases releasing
  used _ _ used := by cases used
  outlives gone := by cases gone

theorem init_ledger : Ledger {} [] where
  places token := by simp [Threads.held]
  lostOnce := List.nodup_nil
  lostApart _ member := by cases member

end TokenRaces
end KvsProducer
