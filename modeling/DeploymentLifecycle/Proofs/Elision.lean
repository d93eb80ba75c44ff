import DeploymentLifecycle.Proofs.Perform

namespace DeploymentLifecycle.Prog

/-! Requests whose answer is known beforehand, such as those that only tell somebody something. A
program goes on in the same way without them, and it is not noticed who is told. -/

variable {S T : Signature} {σ ρ τ α β γ δ ε : Type}
  (known? : (request : S.Request) → Option (S.Answer request))

/-- The program without the requests whose answers are known. -/
def elide : Prog S α → Prog S α
  | .done value => .done value
  | .ask request next =>
    match known? request with
    | some answer => (next answer).elide
    | none => .ask request fun answer => (next answer).elide

theorem elide_bind {program : Prog S α} {next : α → Prog S β} :
    (program >>= next).elide known? =
      program.elide known? >>= fun value => (next value).elide known? := by
  change (program.bind next).elide known? =
    (program.elide known?).bind fun value => (next value).elide known?
  induction program with
  | done value => rfl
  | ask request go ih =>
      cases known : known? request with
      | some answer => simp only [Prog.bind, elide, known, ih]
      | none => simp only [Prog.bind, elide, known, ih]

variable {known?}

theorem elide_known {request : S.Request} {answer : S.Answer request}
    {next : S.Answer request → Prog S α} (known : known? request = some answer) :
    (Prog.request request >>= next).elide known? = (next answer).elide known? := by
  change (Prog.ask request next).elide known? = _
  rw [elide, known]

section Mirrors

variable (known?) in
/-- But for known requests, the one program does what the other does, and comes to the image of what
that comes to. -/
def Mirrors (image : α → β) (program : Prog S α) (other : Prog S β) : Prop :=
  other.elide known? = image <$> program.elide known?

theorem mirrors_self {program : Prog S α} : Mirrors known? id program program :=
  (id_map _).symm

theorem mirrors_pure {image : α → β} {value : α} :
    Mirrors known? image (pure value) (pure (image value)) := rfl

theorem Mirrors.bind {image : α → β} {last : γ → δ} {program : Prog S α} {other : Prog S β}
    {next : α → Prog S γ} {after : β → Prog S δ} (first : Mirrors known? image program other)
    (rest : ∀ value, Mirrors known? last (next value) (after (image value))) :
    Mirrors known? last (program >>= next) (other >>= after) := by
  rw [Mirrors, elide_bind, elide_bind, first, bind_map_left, map_bind]
  exact bind_congr rest

/-- The answer of a request that is known takes the place of the request. -/
theorem Mirrors.known {image : α → β} {request told : S.Request} {answer : S.Answer request}
    {reply : S.Answer told} {next : S.Answer request → Prog S α} {after : S.Answer told → Prog S β}
    (known : known? request = some answer) (alsoKnown : known? told = some reply)
    (rest : Mirrors known? image (next answer) (after reply)) :
    Mirrors known? image (Prog.request request >>= next) (Prog.request told >>= after) := by
  rw [Mirrors, elide_known known, elide_known alsoKnown, rest]

theorem Mirrors.interpret {program : Prog T α}
    {answer answering : (request : T.Request) → Prog S (T.Answer request)}
    (each : ∀ request, Mirrors known? id (answer request) (answering request)) :
    Mirrors known? id (program.interpret answer) (program.interpret answering) := by
  induction program with
  | done value => exact mirrors_pure
  | ask request next ih => exact (each request).bind ih

variable (known?) in
/-- The same of programs that may end in an error, of which there is an image, too. -/
def MirrorsExcept (failure : ε → ε) (image : α → β) (program : ExceptT ε (Prog S) α)
    (other : ExceptT ε (Prog S) β) : Prop :=
  Mirrors known? (fun result => (result.map image).mapError failure) program.run other.run

variable {failure : ε → ε}

theorem mirrorsExcept_pure {image : α → β} {value : α} :
    MirrorsExcept known? failure image (pure value) (pure (image value)) := rfl

theorem mirrorsExcept_lift {program : Prog S α} {other : Prog S α}
    (mirrors : Mirrors known? id program other) :
    MirrorsExcept known? failure id (ExceptT.lift program) (ExceptT.lift other) :=
  mirrors.bind fun _ => rfl

theorem MirrorsExcept.bind {image : α → β} {last : γ → δ} {program : ExceptT ε (Prog S) α}
    {other : ExceptT ε (Prog S) β} {next : α → ExceptT ε (Prog S) γ}
    {after : β → ExceptT ε (Prog S) δ}
    (first : MirrorsExcept known? failure image program other)
    (rest : ∀ value, MirrorsExcept known? failure last (next value) (after (image value))) :
    MirrorsExcept known? failure last (program >>= next) (other >>= after) := by
  rw [MirrorsExcept, ExceptT.run_bind, ExceptT.run_bind]
  refine Mirrors.bind first fun result => ?_
  cases result with
  | ok value => exact rest value
  | error error => exact mirrors_pure

theorem mirrorsExcept_forM {items : List α} {act acting : α → ExceptT ε (Prog S) Unit}
    (mirrors : ∀ item, MirrorsExcept known? failure id (act item) (acting item)) :
    MirrorsExcept known? failure id (items.forM act) (items.forM acting) := by
  induction items with
  | nil => exact mirrorsExcept_pure
  | cons item rest ih => exact (mirrors item).bind fun _ => ih

end Mirrors

section Attended

variable (known?) in
/-- The world answers what is not known, and a listener is told of what is. Neither of them learns
what the other is asked or told. -/
def attended (world : (request : S.Request) → StateM σ (S.Answer request))
    (listen : S.Request → ρ → ρ) (request : S.Request) : StateM (σ × ρ) (S.Answer request) :=
  fun (state, heard) =>
    match known? request with
    | some answer => (answer, state, listen request heard)
    | none =>
      let reply := (world request).run state
      (reply.1, reply.2, heard)

variable (known?) in
/-- What there is to a run besides the listener. -/
def Recorded.unheard (run : Recorded S α (σ × ρ)) : Recorded S α σ :=
  ⟨run.trace.filter fun event => (known? event.request).isNone, run.value, run.state.1⟩

def Recorded.map (image : α → β) (run : Recorded S α σ) : Recorded S β σ :=
  { run with value := image run.value }

variable {world : (request : S.Request) → StateM σ (S.Answer request)} {listen : S.Request → ρ → ρ}

theorem attended_of_known {request : S.Request} {answer : S.Answer request} {state : σ} {heard : ρ}
    (known : known? request = some answer) :
    (attended known? world listen request).run (state, heard) =
      (answer, state, listen request heard) := by
  simp [attended, StateT.run, known]

theorem attended_of_unknown {request : S.Request} {state : σ} {heard : ρ}
    (unknown : known? request = none) :
    (attended known? world listen request).run (state, heard) =
      (((world request).run state).1, ((world request).run state).2, heard) := by
  simp [attended, StateT.run, unknown]

theorem unheard_record {program : Prog S α} {state : σ} {heard : ρ} :
    (program.record (attended known? world listen) (state, heard)).unheard known? =
      (program.elide known?).record world state := by
  -- A known request leaves the world as it is, and nothing behind of what is kept of the trace.
  induction program generalizing state heard with
  | done value => rfl
  | ask request next ih =>
      cases known : known? request with
      | some answer =>
          rw [elide, known, ← ih answer]
          simp only [record, attended_of_known known, Recorded.unheard]
          rw [List.filter_cons_of_neg (by simp [known])]
      | none =>
          rw [elide, known]
          simp only [record, attended_of_unknown known, ← @ih _ _ heard, Recorded.unheard]
          rw [List.filter_cons_of_pos (by simp [known])]

theorem record_map {program : Prog S α} {image : α → β} {state : σ} :
    (image <$> program).record world state = (program.record world state).map image := by
  rw [map_eq_pure_bind, record_bind]
  have ends : ∀ (value : β) (after : σ), (pure value : Prog S β).record world after =
      ⟨[], value, after⟩ := fun _ _ => rfl
  simp [ends, Recorded.map]

/-- Of two programs, one of which mirrors the other, different listeners may be told. -/
theorem Mirrors.unheard {image : α → β} {program : Prog S α} {other : Prog S β}
    (mirrors : Mirrors known? image program other) (listenOther : S.Request → τ → τ) (state : σ)
    (heard : ρ) (heardOther : τ) :
    (other.record (attended known? world listenOther) (state, heardOther)).unheard known? =
      ((program.record (attended known? world listen) (state, heard)).unheard known?).map
        image := by
  rw [unheard_record, unheard_record, mirrors, record_map]

end Attended

end DeploymentLifecycle.Prog
