import DeploymentLifecycle.Proofs.Lifecycle.Requests
import DeploymentLifecycle.Proofs.State.Repository

namespace DeploymentLifecycle.Lifecycle

/-! What may be relied on while an operation on a deployment runs: that the store serves, and
nothing else. The provider, the agent and the clock may give any answer at any time. -/

def surroundings : Conduct signature (Option Document)
  | stored, ⟨.store request, answer⟩, after => Store.Serves stored ⟨request, answer⟩ after
  | stored, _, after => after = stored

structure Asset where
  resource : Resource
  cid : Cid resource

/-- The resource that a provider says is gone: it has deleted it, or does not know it. -/
def agreement? : Event signature → Option Asset
  | ⟨.delete resource cid, .ok _⟩ => some ⟨resource, cid⟩
  | _ => none

def agreements (trace : List (Event signature)) : List Asset := trace.filterMap agreement?

theorem mem_agreements {trace : List (Event signature)} {resource : Resource} {cid : Cid resource} :
    ⟨resource, cid⟩ ∈ agreements trace ↔
      ∃ deletion, ⟨.delete resource cid, .ok deletion⟩ ∈ trace := by
  rw [agreements, List.mem_filterMap]
  constructor
  · intro found
    obtain ⟨⟨request, answer⟩, member, agreed⟩ := found
    cases request with
    | delete other otherCid =>
        cases answer with
        | error error => simp [agreement?] at agreed
        | ok deletion =>
            obtain ⟨rfl, same⟩ := Asset.mk.inj (Option.some.inj agreed)
            obtain rfl := eq_of_heq same
            exact ⟨deletion, member⟩
    | _ => simp [agreement?] at agreed
  · intro found
    obtain ⟨deletion, member⟩ := found
    exact ⟨_, member, rfl⟩

/-- What the stored document is, and what the provider has agreed to since an operation began. -/
structure Moment where
  stored : Option Document
  agreed : List Asset

namespace Moment

def follows : Conduct signature Moment := fun moment event after =>
  surroundings moment.stored event after.stored ∧
    after.agreed = moment.agreed ++ (agreement? event).toList

theorem along_follows {trace : List (Event signature)} {stored after : Option Document}
    (along : surroundings.Along stored trace after) (agreed : List Asset) :
    follows.Along ⟨stored, agreed⟩ trace ⟨after, agreed ++ agreements trace⟩ := by
  induction trace generalizing stored agreed with
  | nil =>
      obtain rfl : after = stored := along
      simp [Conduct.Along, agreements]
  | cons event rest ih =>
      obtain ⟨middle, step, along⟩ := along
      refine ⟨⟨middle, agreed ++ (agreement? event).toList⟩, ⟨step, rfl⟩, ?_⟩
      have continued := ih along (agreed ++ (agreement? event).toList)
      have same : agreements (event :: rest) = (agreement? event).toList ++ agreements rest := by
        cases agreed : agreement? event <;> simp [agreements, agreed]
      rwa [same, ← List.append_assoc]

end Moment

/-- The terms on which an operation may have resources deleted. All else it may ask for freely. -/
def terms (mayDelete : Moment → (resource : Resource) → Cid resource → Prop) :
    Terms signature Moment where
  mayAsk
    | moment, .delete resource cid => mayDelete moment resource cid
    | _, _ => True
  conduct := Moment.follows

/-- Any deletion may be asked for. -/
def freely : Terms signature Moment := terms fun _ _ _ => True

section Rules

variable {mayDelete : Moment → (resource : Resource) → Cid resource → Prop} {moment : Moment}
  {stored after : Option Document} {trace : List (Event signature)} {α : Type}

theorem ends_of_keeps {program : Prog signature α} {goal : α → Moment → Prop} {result : α}
    (keeps : program.Keeps (terms mayDelete) ⟨stored, []⟩ goal) (run : program.Yields trace result)
    (along : surroundings.Along stored trace after) : goal result ⟨after, agreements trace⟩ :=
  keeps.ends run (Moment.along_follows along [])

theorem mayDelete_of_keeps {program : Prog signature α} {goal : α → Moment → Prop} {result : α}
    {early late : List (Event signature)} {resource : Resource} {cid : Cid resource}
    {answer : Except CloudError Deletion} {now : Option Document}
    (keeps : program.Keeps (terms mayDelete) ⟨stored, []⟩ goal)
    (run : program.Yields (early ++ ⟨.delete resource cid, answer⟩ :: late) result)
    (along : surroundings.Along stored early now) :
    mayDelete ⟨now, agreements early⟩ resource cid :=
  keeps.asks run (Moment.along_follows along [])

theorem keeps_ask {request : Request} (aside : request.IsAside)
    {goal : Answer request → Moment → Prop} :
    (ask request).Keeps (terms mayDelete) moment goal ↔ ∀ answer, goal answer moment := by
  have still : ∀ answer after, Moment.follows moment ⟨request, answer⟩ after ↔ after = moment := by
    intro answer after
    obtain ⟨stored, agreed⟩ := moment
    obtain ⟨nowStored, nowAgreed⟩ := after
    cases request <;> first
      | exact aside.elim
      | simp [Moment.follows, surroundings, agreement?]
  have allowed : (terms mayDelete).mayAsk moment request := by
    cases request <;> first | exact aside.elim | trivial
  constructor
  · intro keeps answer
    exact keeps.2 answer moment ((still answer moment).2 rfl)
  · intro ends
    refine ⟨allowed, fun answer after step => ?_⟩
    obtain rfl := (still answer after).1 step
    exact ends answer

theorem keeps_ask_bind {request : Request} {next : Answer request → Prog signature α}
    (aside : request.IsAside) {goal : α → Moment → Prop}
    (rest : ∀ answer, (next answer).Keeps (terms mayDelete) moment goal) :
    (ask request >>= next).Keeps (terms mayDelete) moment goal :=
  Prog.keeps_bind.2 ((keeps_ask aside).2 rest)

theorem keeps_of_aside {program : Prog signature α} {goal : α → Moment → Prop}
    (aside : program.Asks Request.IsAside) (ends : ∀ result, goal result moment) :
    program.Keeps (terms mayDelete) moment goal := by
  induction program with
  | done value => exact ends value
  | ask request next ih =>
      change (ask request >>= next).Keeps (terms mayDelete) moment goal
      exact keeps_ask_bind aside.1 fun answer => ih answer (aside.2 answer)

theorem keeps_delete {resource : Resource} {cid : Cid resource}
    {goal : Except LifecycleError Deletion → Moment → Prop} :
    (cloudCall (ask (.delete resource cid))).run.Keeps (terms mayDelete) moment goal ↔
      mayDelete moment resource cid ∧ (∀ error, goal (.error (.cloud error)) moment) ∧
        ∀ deletion, goal (.ok deletion) ⟨moment.stored, moment.agreed ++ [⟨resource, cid⟩]⟩ := by
  constructor
  · intro keeps
    obtain ⟨allowed, ends⟩ := keeps
    refine ⟨allowed, fun error => ?_, fun deletion => ?_⟩
    · exact ends (.error error) moment ⟨rfl, by simp [agreement?]⟩
    · exact ends (.ok deletion) _ ⟨rfl, by simp [agreement?]⟩
  · intro outcomes
    obtain ⟨allowed, failed, agreed⟩ := outcomes
    refine ⟨allowed, fun answer after step => ?_⟩
    obtain ⟨nowStored, nowAgreed⟩ := after
    obtain ⟨rfl, rfl⟩ : nowStored = moment.stored ∧ _ := step
    cases answer with
    | error error =>
        have same : (⟨moment.stored, moment.agreed ++ []⟩ : Moment) = moment := by simp
        exact same.symm ▸ failed error
    | ok deletion => exact agreed deletion

/-- A program over the store does with the stored document what it does to it on its own. -/
theorem keeps_stored {program : Store.Program α} {goal : Except LifecycleError α → Moment → Prop}
    (keeps : program.run.Keeps Store.terms moment.stored fun result after =>
      goal (result.mapError .state) ⟨after, moment.agreed⟩) :
    (Lifecycle.stored program).run.Keeps (terms mayDelete) moment goal := by
  have interpreted : ∀ {β : Type} (inner : Prog Store.signature β) (moment : Moment)
      (goal : β → Moment → Prop),
      (inner.Keeps Store.terms moment.stored fun result after =>
        goal result ⟨after, moment.agreed⟩) →
      (inner.interpret fun request => ask (.store request)).Keeps
        (terms mayDelete) moment goal := by
    intro β inner
    induction inner with
    | done value => exact fun _ _ keeps => keeps
    | ask request next ih =>
        intro moment goal keeps
        refine Prog.keeps_bind.2 ⟨trivial, fun answer after step => ?_⟩
        obtain ⟨nowStored, nowAgreed⟩ := after
        obtain ⟨served, agreed⟩ := step
        obtain rfl : nowAgreed = moment.agreed := by simpa [agreement?] using agreed
        exact ih answer ⟨nowStored, moment.agreed⟩ goal (keeps.2 answer nowStored served)
  exact Prog.keeps_bind.2 (interpreted program.run moment _ keeps)

theorem keeps_perform {label : String} {work : Program Step}
    {goal : Except LifecycleError Unit → Moment → Prop}
    (keeps : work.run.Keeps (terms mayDelete) moment fun result after =>
      goal (result.map fun _ => ()) after) :
    (perform label work).run.Keeps (terms mayDelete) moment goal := by
  refine keeps_ask_bind (by trivial) fun _ => keeps_ask_bind (by trivial) fun started => ?_
  refine keeps.bind fun result after reached => keeps_ask_bind (by trivial) fun ended => ?_
  cases result with
  | ok step => exact keeps_ask_bind (by trivial) fun _ => reached
  | error error => exact keeps_ask_bind (by trivial) fun _ => reached

end Rules

end DeploymentLifecycle.Lifecycle
