import DeploymentLifecycle.Cli.Arguments

namespace DeploymentLifecycle.Cli

/-! How a command line is read does not depend on which output modes it names. -/

def OutputMode.text : OutputMode → String
  | .normal => "normal"
  | .quiet => "quiet"
  | .json => "json"

/-- Two command lines that differ in nothing but the output modes that they name. -/
inductive Varied : List String → List String → Prop
  | nil : Varied [] []
  | same {first second : List String} (argument : String) (rest : Varied first second) :
      Varied (argument :: first) (argument :: second)
  | apart {first second : List String} (one other : OutputMode) (rest : Varied first second) :
      Varied ("--output" :: one.text :: first) ("--output" :: other.text :: second)
  | joined {first second : List String} (one other : OutputMode) (rest : Varied first second) :
      Varied (("--output=" ++ one.text) :: first) (("--output=" ++ other.text) :: second)

theorem Varied.length_eq {first second : List String} (varied : Varied first second) :
    first.length = second.length := by
  induction varied with
  | nil => rfl
  | same _ _ ih | joined _ _ _ ih => exact congrArg (· + 1) ih
  | apart _ _ _ ih => exact congrArg (· + 2) ih

section Agreement

variable {α β γ δ : Type} {related : α → β → Prop} {also : γ → δ → Prop}

/-- Both are refused for the same reason, or what is read is related. -/
inductive Agree (related : α → β → Prop) : Except Refusal α → Except Refusal β → Prop
  | refused (refusal : Refusal) : Agree related (.error refusal) (.error refusal)
  | read {first : α} {second : β} (same : related first second) :
      Agree related (.ok first) (.ok second)

theorem Agree.bind {first : Except Refusal α} {second : Except Refusal β}
    {next : α → Except Refusal γ} {after : β → Except Refusal δ}
    (agree : Agree related first second)
    (rest : ∀ value other, related value other → Agree also (next value) (after other)) :
    Agree also (first >>= next) (second >>= after) := by
  cases agree with
  | refused refusal => exact .refused refusal
  | read same => exact rest _ _ same

end Agreement

namespace Given

/-- The same was given, but for the output mode. -/
structure Alike (first second : Given) : Prop where
  flags : first.flags = second.flags
  values : ∀ option, option ≠ .output → first.value? option = second.value? option
  output : (first.value? .output).isSome = (second.value? .output).isSome

namespace Alike

variable {first second : Given} {option : ValueOption}

theorem has (alike : first.Alike second) (flag : Flag) : first.has flag = second.has flag := by
  rw [Given.has, Given.has, alike.flags]

theorem isSome (alike : first.Alike second) (option : ValueOption) :
    (first.value? option).isSome = (second.value? option).isSome := by
  by_cases mode : option = .output
  · rw [mode, alike.output]
  · rw [alike.values option mode]

theorem addFlag (alike : first.Alike second) (flag : Flag) :
    Agree Alike (first.addFlag flag) (second.addFlag flag) := by
  rw [Given.addFlag, Given.addFlag, alike.has]
  split
  · exact .refused .misuse
  · exact .read ⟨congrArg (flag :: ·) alike.flags, alike.values, alike.output⟩

theorem value?_add {given : Given} {value : String} {other : ValueOption} :
    ({ given with values := (option, value) :: given.values } : Given).value? other =
      if other = option then some value else given.value? other := by
  simp only [Given.value?, List.lookup_cons]
  by_cases same : other = option
  · simp [same]
  · simp [same, beq_eq_false_iff_ne.2 same]

theorem addValue {value other : String} (alike : first.Alike second)
    (same : option ≠ .output → value = other)
    (accepted : accepts option value = accepts option other) :
    Agree Alike (first.addValue option value) (second.addValue option other) := by
  rw [Given.addValue, Given.addValue, alike.isSome, accepted]
  split
  · exact .refused .misuse
  · refine .read ⟨alike.flags, fun another mode => ?_, ?_⟩
    · rw [value?_add, value?_add]
      split
      · next given => rw [same (given ▸ mode)]
      · exact alike.values another mode
    · rw [value?_add, value?_add]
      split
      · rfl
      · exact alike.output

theorem addMode (alike : first.Alike second) (one other : OutputMode) :
    Agree Alike (first.addValue .output one.text) (second.addValue .output other.text) :=
  alike.addValue (fun differs => absurd rfl differs) (by cases one <;> cases other <;> rfl)

end Alike

end Given

/-- What was read so far, and what is left of the command line. -/
def AlikeSoFar (first second : Given × List String) : Prop :=
  first.1.Alike second.1 ∧ Varied first.2 second.2

section Options

variable {first second : Given} {left right : List String} {level : Level}

theorem Agree.withRest {one other : Except Refusal Given}
    (agree : Agree Given.Alike one other) (varied : Varied left right) :
    Agree AlikeSoFar (do return (← one, left)) (do return (← other, right)) :=
  agree.bind fun _ _ alike => .read ⟨alike, varied⟩

theorem looksLikeOption_joined (mode : OutputMode) :
    looksLikeOption ("--output=" ++ mode.text) := by
  cases mode <;> decide

theorem takeNext_agree {option : ValueOption} (alike : first.Alike second)
    (varied : Varied left right) :
    Agree AlikeSoFar (takeNext first option left) (takeNext second option right) := by
  cases varied with
  | nil => exact .refused .misuse
  | same argument rest =>
      rw [takeNext, takeNext]
      split
      · exact .refused .misuse
      · exact .withRest (alike.addValue (fun _ => rfl) rfl) rest
  | apart one other rest => exact .refused .misuse
  | joined one other rest =>
      rw [takeNext, takeNext, if_pos (looksLikeOption_joined one),
        if_pos (looksLikeOption_joined other)]
      exact .refused .misuse

theorem readLong_agree {name : String} {value : Option String} (alike : first.Alike second)
    (varied : Varied left right) :
    Agree AlikeSoFar (readLong level first name value left)
      (readLong level second name value right) := by
  unfold readLong
  split
  · exact .withRest (alike.addValue (fun _ => rfl) rfl) varied
  · exact takeNext_agree alike varied
  · exact .withRest (alike.addFlag _) varied
  · exact .refused .help
  · exact .refused .version
  · exact .refused .misuse

theorem readShort_agree {letters : List Char} (alike : first.Alike second)
    (varied : Varied left right) :
    Agree AlikeSoFar (readShort level first left letters)
      (readShort level second right letters) := by
  induction letters generalizing first second with
  | nil => exact .read ⟨alike, varied⟩
  | cons letter letters ih =>
      rw [readShort, readShort]
      split
      · exact (alike.addFlag _).bind fun _ _ alike => ih alike
      · split
        · exact takeNext_agree alike varied
        · exact .withRest (alike.addValue (fun _ => rfl) rfl) varied
        · exact .withRest (alike.addValue (fun _ => rfl) rfl) varied
      · exact .refused .help
      · exact .refused .version
      · exact .refused .misuse

theorem readOption_agree {argument : List Char} (alike : first.Alike second)
    (varied : Varied left right) :
    Agree AlikeSoFar (readOption level first argument left)
      (readOption level second argument right) := by
  unfold readOption
  split
  · dsimp only
    split
    · exact readLong_agree alike varied
    · exact readLong_agree alike varied
  · exact readShort_agree alike varied
  · exact .refused .misuse

theorem readOption_apart (level : Level) (mode : OutputMode) {given : Given} {rest : List String} :
    readOption level given "--output".toList (mode.text :: rest) =
      (do return (← given.addValue .output mode.text, rest)) := by
  cases level <;> cases mode <;> rfl

theorem readOption_joined (level : Level) (mode : OutputMode) {given : Given}
    {rest : List String} : readOption level given ("--output=" ++ mode.text).toList rest =
      (do return (← given.addValue .output mode.text, rest)) := by
  cases level <;> cases mode <;> rfl

theorem readLevel_joined {fuel : Nat} (mode : OutputMode) {given : Given} {rest : List String} :
    readLevel level (fuel + 1) given (("--output=" ++ mode.text) :: rest) = (do
      let (given, rest) ← readOption level given ("--output=" ++ mode.text).toList rest
      readLevel level fuel given rest) := by
  have other : "--output=" ++ mode.text ≠ "--" := by cases mode <;> decide
  rw [readLevel, if_neg other, if_pos (looksLikeOption_joined mode)]

theorem readLevel_agree {fuel : Nat} (alike : first.Alike second) (varied : Varied left right) :
    Agree AlikeSoFar (readLevel level fuel first left) (readLevel level fuel second right) := by
  induction fuel generalizing first second left right with
  | zero => exact .read ⟨alike, varied⟩
  | succ fuel ih =>
      have goesOn : ∀ {one other : Except Refusal (Given × List String)},
          Agree AlikeSoFar one other →
            Agree AlikeSoFar (do let (given, rest) ← one; readLevel level fuel given rest)
              (do let (given, rest) ← other; readLevel level fuel given rest) :=
        fun agree => agree.bind fun _ _ soFar => ih soFar.1 soFar.2
      cases varied with
      | nil => exact .read ⟨alike, .nil⟩
      | @same left right argument rest =>
          have empty : left.isEmpty = right.isEmpty := by cases rest <;> rfl
          rw [readLevel, readLevel, empty]
          split
          · split
            · exact .read ⟨alike, .nil⟩
            · exact .refused .misuse
          · split
            · exact goesOn (readOption_agree alike rest)
            · exact .read ⟨alike, .same argument rest⟩
      | apart one other rest =>
          have agree := Agree.withRest (alike.addMode one other) rest
          rw [← readOption_apart level one, ← readOption_apart level other] at agree
          exact goesOn agree
      | joined one other rest =>
          have agree := Agree.withRest (alike.addMode one other) rest
          rw [← readOption_joined level one, ← readOption_joined level other] at agree
          rw [readLevel_joined, readLevel_joined]
          exact goesOn agree

theorem options_agree (varied : Varied left right) :
    Agree AlikeSoFar (options level left) (options level right) := by
  rw [options, options, varied.length_eq]
  exact readLevel_agree ⟨rfl, fun _ _ => rfl, rfl⟩ varied

theorem commandOf?_alike {name : String} (alike : first.Alike second) :
    commandOf? name first = commandOf? name second := by
  simp only [commandOf?, alike.has, alike.values .deployment nofun, alike.values .cpi nofun]

theorem readHelp_agree {related : Invocation → Invocation → Prop} (varied : Varied left right) :
    Agree related (readHelp left) (readHelp right) := by
  cases varied with
  | nil => exact .refused .help
  | same name rest =>
      cases rest with
      | nil =>
          unfold readHelp
          dsimp only
          split <;> exact .refused _
      | _ => exact .refused .misuse
  | apart => exact .refused .misuse
  | joined one other rest =>
      cases rest with
      | nil => cases one <;> cases other <;> exact .refused .misuse
      | _ => exact .refused .misuse

end Options

/-- The same is to be done, and only what is printed of it may differ. -/
def SameButOutput (first second : Invocation) : Prop :=
  ∃ mode, second = { first with output := mode }

theorem ofArguments_agree {left right : List String} (varied : Varied left right) :
    Agree SameButOutput (Invocation.ofArguments left) (Invocation.ofArguments right) := by
  refine (options_agree varied).bind fun (outer, _) (otherOuter, _) ⟨alikeOuter, varied⟩ => ?_
  cases varied with
  | nil => exact .refused .misuse
  | same name rest =>
      by_cases help : name = "help"
      · subst help
        exact readHelp_agree rest
      · simp only
        split
        · exact .refused .misuse
        · next level _ =>
          refine (options_agree rest).bind fun (inner, _) (otherInner, _) ⟨alikeInner, last⟩ => ?_
          cases last with
          | nil =>
              dsimp only
              rw [commandOf?_alike alikeInner]
              cases commandOf? name otherInner with
              | none => exact .refused .misuse
              | some command =>
                  let mode := modeOf ((otherInner.value? .output).or (otherOuter.value? .output))
                  refine .read ⟨mode, ?_⟩
                  simp only [mode, alikeInner.has, alikeOuter.has, alikeInner.values .config nofun,
                    alikeOuter.values .config nofun]
          | _ => exact .refused .misuse
  | apart one other rest => exact .refused .misuse
  | joined one other rest => cases one <;> cases other <;> exact .refused .misuse

end DeploymentLifecycle.Cli
