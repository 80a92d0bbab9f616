import Mathlib.Data.List.Infix
import Mathlib.Data.List.Induction

/-! Runs of a machine whose steps may be refused. Every safety statement of the
development is about all the states one run visits, so the two inductions over
runs are made once here: an invariant kept by each permitted step, and the
exact condition on single steps under which a state property is never lost. -/
namespace KvsProducer.Runs

variable {State Input : Type*} (step : State → Input → Option State)

/-- The state after a whole sequence of inputs, when none of them is refused. -/
def run (start : State) (inputs : List Input) : Option State := inputs.foldlM step start

@[simp] theorem run_nil (start : State) : run step start [] = some start := rfl

@[simp] theorem run_cons (start : State) (input : Input) (rest : List Input) :
    run step start (input :: rest) = (step start input).bind (fun next => run step next rest) := rfl

theorem run_append (start : State) (first second : List Input) :
    run step start (first ++ second) =
      (run step start first).bind (fun middle => run step middle second) := by
  simp only [run, List.foldlM_append]
  rfl

theorem run_snoc (start : State) (inputs : List Input) (input : Input) :
    run step start (inputs ++ [input]) =
      (run step start inputs).bind (fun middle => step middle input) := by
  rw [run_append]
  congr 1
  funext middle
  cases accepted : step middle input <;> simp [accepted]

/-- Some sequence of inputs leads from one state to the other. -/
def Reaches (start final : State) : Prop := ∃ inputs, run step start inputs = some final

theorem Reaches.refl (start : State) : Reaches step start start := ⟨[], rfl⟩

variable {step}

theorem Reaches.trans (first : Reaches step start middle) (second : Reaches step middle final) :
    Reaches step start final := by
  obtain ⟨before, ranBefore⟩ := first
  obtain ⟨after, ranAfter⟩ := second
  exact ⟨before ++ after, by rw [run_append, ranBefore]; exact ranAfter⟩

theorem Reaches.extend (reached : Reaches step start middle) (accepted : step middle input = some next) :
    Reaches step start next :=
  reached.trans ⟨[input], by simp [accepted]⟩

variable (step)

/-- The property holds in every state that the run visits: where it starts, and
after each input until one is refused. -/
def Throughout (holds : State → Prop) : State → List Input → Prop
  | start, [] => holds start
  | start, input :: rest =>
    holds start ∧ ∀ next, step start input = some next → Throughout holds next rest

/-- Every accepted step of the run meets the condition, which may look at the
state before the step and at its input. -/
def EachStep (meets : State → Input → Prop) : State → List Input → Prop
  | _, [] => True
  | start, input :: rest =>
    ∀ next, step start input = some next → meets start input ∧ EachStep meets next rest

/-- Whether the steps of a concrete run meet a condition can be computed. -/
instance decidableEachStep {meets : State → Input → Prop} [∀ state input, Decidable (meets state input)]
    (start : State) (inputs : List Input) : Decidable (EachStep step meets start inputs) :=
  match inputs with
  | [] => isTrue trivial
  | input :: rest =>
    match accepted : step start input with
    | none => isTrue fun next impossible => by rw [accepted] at impossible; cases impossible
    | some next =>
      have : Decidable (EachStep step meets next rest) := decidableEachStep next rest
      decidable_of_iff (meets start input ∧ EachStep step meets next rest)
        ⟨fun met other same => by rw [accepted] at same; cases same; exact met, fun all => all next accepted⟩

variable {step}

/-- The recursive form says what it should: the property holds after every
accepted prefix of the inputs. -/
theorem throughout_iff_prefixes {holds : State → Prop} :
    Throughout step holds start inputs ↔
      ∀ before state, before <+: inputs → run step start before = some state → holds state := by
  induction inputs generalizing start with
  | nil =>
    constructor
    · intro holdsHere before state initial ran
      cases List.prefix_nil.mp initial
      cases ran
      exact holdsHere
    · intro everywhere
      exact everywhere [] start List.nil_prefix rfl
  | cons input rest ih =>
    constructor
    · rintro ⟨holdsHere, later⟩ before state initial ran
      cases before with
      | nil => cases ran; exact holdsHere
      | cons first before =>
        obtain ⟨rfl, initialRest⟩ := List.cons_prefix_cons.mp initial
        rw [run_cons] at ran
        obtain ⟨next, accepted, ran⟩ := Option.bind_eq_some_iff.mp ran
        exact ih.mp (later next accepted) before state initialRest ran
    · intro everywhere
      refine ⟨everywhere [] start List.nil_prefix rfl, fun next accepted => ih.mpr ?_⟩
      intro before state initial ran
      exact everywhere (input :: before) state (List.cons_prefix_cons.mpr ⟨rfl, initial⟩)
        (by rw [run_cons, accepted]; exact ran)

theorem Throughout.at_end {holds : State → Prop} (always : Throughout step holds start inputs)
    (ran : run step start inputs = some final) : holds final :=
  throughout_iff_prefixes.mp always inputs final (List.prefix_refl _) ran

theorem Throughout.imp {weak strong : State → Prop} (weaker : ∀ state, strong state → weak state)
    (always : Throughout step strong start inputs) : Throughout step weak start inputs :=
  throughout_iff_prefixes.mpr fun before state initial ran =>
    weaker state (throughout_iff_prefixes.mp always before state initial ran)

theorem Throughout.and {first second : State → Prop} (one : Throughout step first start inputs)
    (other : Throughout step second start inputs) :
    Throughout step (fun state => first state ∧ second state) start inputs :=
  throughout_iff_prefixes.mpr fun before state initial ran =>
    ⟨throughout_iff_prefixes.mp one before state initial ran,
      throughout_iff_prefixes.mp other before state initial ran⟩

/-- What is known of every state of a run may be used at each of its steps. -/
theorem Throughout.carries {assumed invariant : State → Prop}
    (always : Throughout step assumed start inputs)
    (keeps : ∀ state input next, assumed state → invariant state →
      step state input = some next → invariant next)
    (initially : invariant start) : Throughout step invariant start inputs := by
  induction inputs generalizing start with
  | nil => exact initially
  | cons input rest ih =>
    exact ⟨initially, fun next accepted =>
      ih (always.2 next accepted) (keeps start input next always.1 initially accepted)⟩

/-- A condition met by every step of a run is met by every step of its prefixes. -/
theorem EachStep.shorten {meets : State → Input → Prop}
    (all : EachStep step meets start inputs) (initial : before <+: inputs) :
    EachStep step meets start before := by
  induction inputs generalizing start before with
  | nil => cases List.prefix_nil.mp initial; trivial
  | cons input rest ih =>
    cases before with
    | nil => trivial
    | cons first before =>
      obtain ⟨rfl, initialRest⟩ := List.cons_prefix_cons.mp initial
      intro next accepted
      exact ⟨(all next accepted).1, ih (all next accepted).2 initialRest⟩

theorem EachStep.imp {weak strong : State → Input → Prop}
    (weaker : ∀ state input, strong state input → weak state input)
    (all : EachStep step strong start inputs) : EachStep step weak start inputs := by
  induction inputs generalizing start with
  | nil => trivial
  | cons input rest ih =>
    intro next accepted
    exact ⟨weaker start input (all next accepted).1, ih (all next accepted).2⟩

theorem each_step_of_forall {meets : State → Input → Prop}
    (always : ∀ state input, meets state input) : EachStep step meets start inputs := by
  induction inputs generalizing start with
  | nil => trivial
  | cons input rest ih => exact fun next _ => ⟨always start input, ih⟩

theorem each_step_of_members {meets : State → Input → Prop}
    (always : ∀ state, ∀ input ∈ inputs, meets state input) : EachStep step meets start inputs := by
  induction inputs generalizing start with
  | nil => trivial
  | cons input rest ih =>
    exact fun next _ => ⟨always start input List.mem_cons_self,
      ih fun state later member => always state later (List.mem_cons_of_mem input member)⟩

/-- **Invariants.** What the start satisfies and every permitted step keeps
holds in every state of a run whose steps are all permitted. -/
theorem invariant_throughout {invariant : State → Prop} {meets : State → Input → Prop}
    (keeps : ∀ state input next, invariant state → meets state input →
      step state input = some next → invariant next)
    (initially : invariant start) (all : EachStep step meets start inputs) :
    Throughout step invariant start inputs := by
  induction inputs generalizing start with
  | nil => exact initially
  | cons input rest ih =>
    refine ⟨initially, fun next accepted => ?_⟩
    have permitted := all next accepted
    exact ih (keeps start input next initially permitted.1 accepted) permitted.2

/-- An invariant that every step keeps holds in every reachable state. -/
theorem invariant_reached {invariant : State → Prop}
    (keeps : ∀ state input next, invariant state → step state input = some next → invariant next)
    (initially : invariant start) (reached : Reaches step start final) : invariant final := by
  obtain ⟨inputs, ran⟩ := reached
  have all : EachStep step (fun _ _ => True) start inputs := each_step_of_forall (fun _ _ => trivial)
  exact (invariant_throughout (fun state input next held _ => keeps state input next held)
    initially all).at_end ran

/-- Conditions that say the same of every step say the same of every run. -/
theorem each_step_iff {background : State → Prop} {meets other : State → Input → Prop}
    (keeps : ∀ state input next, background state → step state input = some next → background next)
    (same : ∀ state input next, background state → step state input = some next →
      (meets state input ↔ other state input)) (initially : background start) :
    EachStep step meets start inputs ↔ EachStep step other start inputs := by
  induction inputs generalizing start with
  | nil => exact Iff.rfl
  | cons input rest ih =>
    apply forall_congr'
    intro next
    apply forall_congr'
    intro accepted
    exact and_congr (same start input next initially accepted) (ih (keeps start input next initially accepted))

/-- The same where both ends of every step have a property. -/
theorem Throughout.each_step_iff {background : State → Prop} {meets other : State → Input → Prop}
    (always : Throughout step background start inputs)
    (same : ∀ state input next, background state → background next → step state input = some next →
      (meets state input ↔ other state input)) :
    EachStep step meets start inputs ↔ EachStep step other start inputs := by
  induction inputs generalizing start with
  | nil => exact Iff.rfl
  | cons input rest ih =>
    apply forall_congr'
    intro next
    apply forall_congr'
    intro accepted
    have later := always.2 next accepted
    have arrived : background next := throughout_iff_prefixes.mp later [] next List.nil_prefix rfl
    exact and_congr (same start input next
      (throughout_iff_prefixes.mp always [] start List.nil_prefix rfl) arrived accepted) (ih later)

/-- **Exact conditions.** When one permitted step from a good state leads to a
good state precisely if the step meets a condition, a run of permitted steps
stays good precisely if all its steps meet it. The background invariant holds of
every state anyway. -/
theorem throughout_iff_each_permitted_step {background good : State → Prop}
    {permitted meets : State → Input → Prop}
    (keeps : ∀ state input next, background state → permitted state input →
      step state input = some next → background next)
    (exact_step : ∀ state input next, background state → good state → permitted state input →
      step state input = some next → (good next ↔ meets state input))
    (initially : background start) (goodStart : good start)
    (allPermitted : EachStep step permitted start inputs) :
    Throughout step good start inputs ↔ EachStep step meets start inputs := by
  induction inputs generalizing start with
  | nil => exact ⟨fun _ => trivial, fun _ => goodStart⟩
  | cons input rest ih =>
    constructor
    · rintro ⟨_, later⟩ next accepted
      obtain ⟨here, permittedLater⟩ := allPermitted next accepted
      have goodNext : good next :=
        throughout_iff_prefixes.mp (later next accepted) [] next List.nil_prefix rfl
      exact ⟨(exact_step start input next initially goodStart here accepted).mp goodNext,
        (ih (keeps start input next initially here accepted) goodNext permittedLater).mp
          (later next accepted)⟩
    · intro all
      refine ⟨goodStart, fun next accepted => ?_⟩
      obtain ⟨here, permittedLater⟩ := allPermitted next accepted
      have goodNext := (exact_step start input next initially goodStart here accepted).mpr
        (all next accepted).1
      exact (ih (keeps start input next initially here accepted) goodNext permittedLater).mpr
        (all next accepted).2

/-- The same where every step is permitted. -/
theorem throughout_iff_each_step {background good : State → Prop} {meets : State → Input → Prop}
    (keeps : ∀ state input next, background state → step state input = some next → background next)
    (exact_step : ∀ state input next, background state → good state →
      step state input = some next → (good next ↔ meets state input))
    (initially : background start) (goodStart : good start) :
    Throughout step good start inputs ↔ EachStep step meets start inputs :=
  throughout_iff_each_permitted_step (fun state input next held _ => keeps state input next held)
    (fun state input next held good _ => exact_step state input next held good) initially goodStart
    (each_step_of_forall fun _ _ => trivial)

/-- A property that a step can lose but never regain holds at the end of a run
precisely if it held at the start and no step lost it. -/
theorem at_end_iff_each_step {background good : State → Prop} {meets : State → Input → Prop}
    (keeps : ∀ state input next, background state → step state input = some next → background next)
    (exact_step : ∀ state input next, background state → step state input = some next →
      (good next ↔ good state ∧ meets state input))
    (initially : background start) (ran : run step start inputs = some final) :
    good final ↔ good start ∧ EachStep step meets start inputs := by
  induction inputs generalizing start with
  | nil =>
    cases ran
    simp [EachStep]
  | cons input rest ih =>
    rw [run_cons] at ran
    obtain ⟨next, accepted, ran⟩ := Option.bind_eq_some_iff.mp ran
    rw [ih (keeps start input next initially accepted) ran,
      exact_step start input next initially accepted]
    constructor
    · rintro ⟨⟨goodStart, met⟩, later⟩
      refine ⟨goodStart, fun other again => ?_⟩
      cases accepted.symm.trans again
      exact ⟨met, later⟩
    · rintro ⟨goodStart, all⟩
      exact ⟨⟨goodStart, (all next accepted).1⟩, (all next accepted).2⟩

/-- What is left of a run after some of its inputs meets the condition too. -/
theorem EachStep.after {meets : State → Input → Prop}
    (all : EachStep step meets start (before ++ rest)) (ran : run step start before = some middle) :
    EachStep step meets middle rest := by
  induction before generalizing start with
  | nil =>
    cases ran
    exact all
  | cons input before ih =>
    rw [run_cons] at ran
    obtain ⟨next, accepted, ran⟩ := Option.bind_eq_some_iff.mp ran
    exact ih (all next accepted).2 ran

/-! ## Machines that hear less -/

/-- **Simulation.** A machine that hears only some inputs of another, and does at
them what the other shows, runs along with it. -/
theorem run_heard {Heard View : Type*} {follow : View → Heard → Option View} {hears : Input → Option Heard}
    {view : State → View}
    (steps : ∀ state input next heard, step state input = some next → hears input = some heard →
      follow (view state) heard = some (view next))
    (stays : ∀ state input next, step state input = some next → hears input = none → view next = view state)
    (ran : run step start inputs = some final) :
    run follow (view start) (inputs.filterMap hears) = some (view final) := by
  induction inputs generalizing start with
  | nil =>
    cases ran
    rfl
  | cons input rest ih =>
    rw [run_cons] at ran
    obtain ⟨next, accepted, ran⟩ := Option.bind_eq_some_iff.mp ran
    cases heard : hears input with
    | none =>
      rw [List.filterMap_cons_none heard, ← stays start input next accepted heard]
      exact ih ran
    | some said =>
      rw [List.filterMap_cons_some heard, run_cons, steps start input next said accepted heard]
      exact ih ran

/-! ## What a run gives out -/

variable {Output : Type*} (step)

/-- The outputs of the accepted steps, in their order. -/
def emitted (emit : State → Input → List Output) : State → List Input → List Output
  | _, [] => []
  | start, input :: rest =>
    match step start input with
    | none => []
    | some next => emit start input ++ emitted emit next rest

variable {step}

theorem emitted_append {emit : State → Input → List Output}
    (ran : run step start before = some middle) (rest : List Input) :
    emitted step emit start (before ++ rest) =
      emitted step emit start before ++ emitted step emit middle rest := by
  induction before generalizing start with
  | nil =>
    cases ran
    rfl
  | cons input before ih =>
    rw [run_cons] at ran
    obtain ⟨next, accepted, ran⟩ := Option.bind_eq_some_iff.mp ran
    simp only [List.cons_append, emitted, accepted, ih ran, List.append_assoc]

/-- **Accounts.** A relation between the state and what has been given out so
far, kept by every permitted step, relates the end of a run to all its outputs. -/
theorem run_accounts {accounts : State → List Output → Prop} {emit : State → Input → List Output}
    {meets : State → Input → Prop}
    (keeps : ∀ state input next given, accounts state given → meets state input →
      step state input = some next → accounts next (given ++ emit state input))
    (initially : accounts start given) (all : EachStep step meets start inputs)
    (ran : run step start inputs = some final) :
    accounts final (given ++ emitted step emit start inputs) := by
  induction inputs generalizing start given with
  | nil =>
    cases ran
    rw [emitted, List.append_nil]
    exact initially
  | cons input rest ih =>
    rw [run_cons] at ran
    obtain ⟨next, accepted, ran⟩ := Option.bind_eq_some_iff.mp ran
    have permitted := all next accepted
    have later := ih (keeps start input next given initially permitted.1 accepted) permitted.2 ran
    rw [List.append_assoc] at later
    simpa only [emitted, accepted] using later

end KvsProducer.Runs
