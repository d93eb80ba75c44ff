import DeploymentLifecycle.Proofs.Config.Accepted
import DeploymentLifecycle.Proofs.Config.Template
import DeploymentLifecycle.Proofs.Yaml.Fields

namespace DeploymentLifecycle

/-! What the template of a configuration says of texts that do not stand for themselves: something
else, or nothing at all. -/

namespace Yaml

open Reading

variable {α β : Type} {x key : String} {node value : Node} {fields : List (Node × Node)}
  {properties : Properties} {style : Style} {names : List String}

theorem text_gives (other : node.IsOther x) : node.text.Gives (· ≠ x) := by
  intro anchored left text rest read
  cases node with
  | scalar =>
      cases read
      exact other
  | sequence => cases read
  | mapping => cases read
  | _ => exact other.elim

theorem gives_mapM {holds : α → β → Prop} {list : List α} {read : α → Reading β}
    (each : ∀ item ∈ list, (read item).Gives (holds item)) :
    (list.mapM read).Gives (List.Forall₂ holds list) := by
  induction list with
  | nil => exact gives_pure .nil
  | cons item list ih =>
      obtain ⟨here, each⟩ := List.forall_mem_cons.1 each
      rw [List.mapM_cons]
      exact here.bind fun first held => (ih each).bind fun rest others =>
        gives_pure (.cons held others)

/-- The only field of a name is the value under that name. -/
theorem eq_of_uniqueField? {named : List (String × α)} {value : α} {slot : Option α}
    (member : (key, value) ∈ named) (unique : uniqueField? named key = some slot) :
    slot = some value := by
  have kept : (key, value) ∈ named.filter fun (other, _) => other = key := by simp [member]
  rw [uniqueField?] at unique
  split at unique
  · next none =>
    rw [none] at kept
    cases kept
  · next single =>
    rw [single, List.mem_singleton] at kept
    cases kept
    cases unique
    rfl
  · cases unique

theorem exists_of_forall₂ {holds : α → β → Prop} {list : List α} {found : List β} {item : α}
    (held : List.Forall₂ holds list found) (member : item ∈ list) : ∃ out ∈ found, holds item out := by
  induction held with
  | nil => cases member
  | cons here _ ih =>
      rcases List.mem_cons.1 member with rfl | member
      · exact ⟨_, List.mem_cons_self, here⟩
      · obtain ⟨out, member, held⟩ := ih member
        exact ⟨out, List.mem_cons_of_mem _ member, held⟩

/-- What a mapping gives under a name that one of its fields has. -/
theorem record_gives (member : (.scalar properties style key, value) ∈ fields) :
    ((Node.mapping {} fields).record names).Gives fun slots =>
      ∀ slot, (key, slot) ∈ names.zip slots → slot = some value := by
  have taken : ((Node.mapping {} fields).fields).Gives (· = fields) := by
    intro anchored left found rest read
    cases read
    rfl
  have name : (Node.scalar properties style key).text.Gives (· = key) := by
    intro anchored left text rest read
    cases read
    rfl
  refine taken.bind ?_
  rintro _ rfl
  refine (@gives_mapM _ _ (fun field named =>
    field = (.scalar properties style key, value) → named = (key, value)) _ _ fun field _ => ?_).bind
      fun named held => ?_
  · by_cases same : field = (.scalar properties style key, value)
    · subst same
      exact name.bind fun text same => gives_pure fun _ => by rw [same]
    · exact Gives.after fun text => gives_pure fun equal => absurd equal same
  · obtain ⟨_, inside, same⟩ := exists_of_forall₂ held member
    rw [same rfl] at inside
    intro anchored left slots rest read slot paired
    have each := @gives_mapM _ _ (fun name slot => uniqueField? named name = some slot) names _
      (fun name _ => gives_lift fun _ same => same) anchored left slots rest read
    exact eq_of_uniqueField? inside (List.forall₂_zip each paired)

end Yaml

namespace Config

open Yaml (Node Properties Style record_gives text_gives)
open Yaml.Reading

variable {x : String} {value : Node} {fields : List (Node × Node)} {properties : Properties}
  {style : Style}

theorem deployment_gives (member : (.scalar properties style "deployment", value) ∈ fields)
    (other : value.IsOther x) : (ofNode (.mapping {} fields)).Gives (·.deployment ≠ x) := by
  refine (record_gives member).bind fun slots held => ?_
  split
  · next deployment stateFile instanceName cpi agent update =>
    obtain rfl := held deployment List.mem_cons_self
    have named : (optional Node.text (some value)).Gives fun found => found.getD "bosun" ≠ x := by
      rw [Yaml.Reading.optional, map_eq_pure_bind]
      exact (text_gives other).bind fun text ne => gives_pure ne
    exact named.bind fun found ne => Gives.after fun _ => Gives.after fun _ => Gives.after fun _ =>
      Gives.after fun _ => Gives.after fun _ => gives_pure ne
  · exact gives_failure

theorem command_gives (member : (.scalar properties style "command", value) ∈ fields)
    (other : value.IsOther x) :
    (CpiConfig.ofNode (.mapping {} fields)).Gives (·.command.text ≠ x) := by
  refine (record_gives member).bind fun slots held => ?_
  split
  · next command arguments context apiVersion timeout =>
    cases held (some command) List.mem_cons_self
    exact (text_gives other).bind fun text ne => Gives.after fun _ => Gives.after fun _ =>
      Gives.after fun _ => Gives.after fun _ => gives_pure ne
  · exact gives_failure

theorem cpi_gives {inner : List (Node × Node)}
    (member : (.scalar properties style "cpi", .mapping {} inner) ∈ fields)
    (command : (.scalar properties style "command", value) ∈ inner) (other : value.IsOther x) :
    (ofNode (.mapping {} fields)).Gives (·.cpi.command.text ≠ x) := by
  refine (record_gives member).bind fun slots held => ?_
  split
  · next deployment stateFile instanceName cpi agent update =>
    cases held (some cpi) (by simp)
    exact Gives.after fun _ => Gives.after fun _ => Gives.after fun _ =>
      (command_gives command other).bind fun cpi ne => Gives.after fun _ => Gives.after fun _ =>
        gives_pure ne
  · exact gives_failure

section Template

open Yaml (Line Parsing areLines isPermitted isPlainLine isPlainText isPlainText_iff textOf)
open Yaml.Lexing (Blocks Below)

variable {deployment cpi text : String} {config : Config}

/-- Behind the name. -/
def linesAfterName (cpi : String) : List Line := (templateLines "" cpi).drop 1

/-- Behind the command. -/
def linesAfterCommand : List Line := (templateLines "" "").drop 6

theorem isBlank_of_isGap {c : Char} (gap : Yaml.isGap c = true) : Text.isBlank c = true := by
  simp only [Yaml.isGap, Yaml.isBlank, Yaml.isBreak, Bool.or_eq_true, beq_iff_eq] at gap
  rcases gap with (rfl | rfl) | (((rfl | rfl) | rfl) | rfl) | rfl <;> decide

theorem below_name (plain : isPlainName deployment = true) (other : deployment ≠ "instance") :
    ∃ next count, Below deployment.toList ((linesAfterName cpi).flatMap (·.text.toList)) next
      "instance".toList 0 count := by
  have word : Yaml.isKeyWord "instance".toList = true := by decide
  have next := @Yaml.Lexing.nextLine_line (.block 0 "instance")
    ((linesAfterName cpi).tail.flatMap (·.text.toList)) word
  refine ⟨_, _, next, Nat.le_refl 0, ?_, ?_, word, ?_⟩
  · -- A scalar that is still open takes in the end of the next line, but the name has no blanks.
    intro single fuel text q found read same
    have visible : ∀ c ∈ "instance:".toList, Yaml.isGap c = false ∧ c ≠ '\'' ∧ c ≠ '"' ∧ c ≠ '\\' := by
      have all : ("instance:".toList.all fun c =>
        !Yaml.isGap c && c != '\'' && c != '"' && c != '\\') = true := rfl
      simpa [List.all_eq_true, and_assoc] using all
    obtain ⟨c, member, gap⟩ := Yaml.quotedFrom?_gap visible (by exact read)
    rw [same] at member
    simp only [isPlainName, Bool.and_eq_true, Bool.not_eq_true', List.any_eq_false] at plain
    exact plain.2 c member (isBlank_of_isGap gap)
  · exact Yaml.Lexing.lands_block word
  · intro same
    exact other (String.toList_injective same.symm)

theorem noQuotes_afterCommand : ∀ c ∈ linesAfterCommand.flatMap (·.text.toList),
    c ≠ '\'' ∧ c ≠ '"' := by
  have all : (linesAfterCommand.all fun line =>
    line.body.toList.all fun c => c != '\'' && c != '"') = true := by decide
  intro c member
  obtain ⟨line, inside, member⟩ := List.mem_flatMap.1 member
  rw [Line.toList_text] at member
  rcases List.mem_append.1 member with space | member
  · rw [List.eq_of_mem_replicate space]
    decide
  · rcases List.mem_append.1 member with member | feed
    · have plain := List.all_eq_true.1 (List.all_eq_true.1 all line inside) c member
      simpa using plain
    · rw [List.mem_singleton.1 feed]
      decide

theorem below_command (other : cpi ≠ "agent") :
    ∃ next count, Below cpi.toList (linesAfterCommand.flatMap (·.text.toList)) next
      "agent".toList 2 count := by
  have next := @Yaml.Lexing.nextLine_line (.comment 2 " context:")
    (linesAfterCommand.tail.flatMap (·.text.toList)) (by decide)
  refine ⟨_, _, next, Nat.le_refl 2, ?_, ?_, by decide, ?_⟩
  · intro single fuel text q found read same
    have none := @Yaml.quotedFrom?_none text fuel single ⟨_, q⟩ fun c member =>
      noQuotes_afterCommand c (by
        refine (congrArg (c ∈ ·) next.whole).mpr ?_
        exact List.mem_append_right _ member)
    rw [none] at read
    cases read
  · exact Yaml.Lexing.lands_comment (Yaml.Lexing.lands_comment
      (Yaml.Lexing.lands_block (by decide)) (by decide)) (by decide)
  · intro same
    exact other (String.toList_injective same.symm)

theorem tokens_beforeName :
    ((({} : Blocks).lines []).key 0 "deployment".toList).tokens.reverse =
      [.mappingStart, .key, .scalar .plain "deployment", .value] := by
  decide

/-- A name that is read back is a plain line. -/
theorem isPlainLine_name (plain : isPlainName deployment = true)
    (read : ofYaml (template deployment cpi) = .ok config) (named : config.deployment = deployment) :
    isPlainLine deployment.toList = true := by
  by_cases other : deployment = "instance"
  · rw [other]
    decide
  have nonempty : deployment ≠ "" := by
    rintro rfl
    cases plain
  obtain ⟨node, parsed, _, _, _, _, run⟩ := exists_of_ofYaml read
  rw [Node.ofText?] at parsed
  obtain ⟨tokens, lexed, parsed⟩ := Option.bind_eq_some_iff.1 parsed
  obtain ⟨next, count, below⟩ := @below_name deployment cpi plain other
  have split : templateLines deployment cpi =
      [] ++ .field 0 "deployment" deployment :: linesAfterName cpi := rfl
  rw [template_eq, split] at lexed
  rcases @Yaml.Lexing.tokens?_value_other tokens _ _ 0 count [] (linesAfterName cpi) "deployment"
    deployment below nonempty rfl (by decide) (by simp) lexed with line | ⟨later, rfl, isOther⟩
  · exact line
  · rw [tokens_beforeName] at parsed
    obtain ⟨fields, less, t, rfl, fieldsRead⟩ := Parsing.document?_mapping parsed
    obtain ⟨value, others, s, less, rfl, valueRead, _⟩ := Parsing.blockFields?_field fieldsRead
    have value := Parsing.value?_other nonempty rfl isOther valueRead
    exact absurd named (deployment_gives List.mem_cons_self value _ _ _ _ run)

/-- In front of the command. -/
def linesBeforeCommand (deployment : String) : List Line := (templateLines deployment "").take 5

theorem areLines_beforeCommand (line : isPlainLine deployment.toList = true) :
    areLines (linesBeforeCommand deployment) = true := by
  simp only [linesBeforeCommand, templateLines, List.take_succ_cons, List.take_zero, areLines,
    Line.isProper, Line.mayLead, Line.column, line, Bool.and_eq_true]
  and_intros <;> first | rfl | trivial

theorem tokens_beforeCommand :
    ((({} : Blocks).lines (linesBeforeCommand deployment)).key 2 "command".toList).tokens.reverse =
      [.mappingStart, .key, .scalar .plain "deployment", .value, .scalar .plain deployment,
        .key, .scalar .plain "instance", .value, .mappingStart,
        .key, .scalar .plain "job", .value, .scalar .plain "unknown",
        .key, .scalar .plain "index", .value, .scalar .plain "0", .blockEnd,
        .key, .scalar .plain "cpi", .value, .mappingStart, .key, .scalar .plain "command", .value] := by
  rfl

theorem command_of_validate (valid : config.validate = .ok ()) : config.cpi.command.text ≠ "" := by
  have nonempty : ¬ config.cpi.command.text.isEmpty := by
    rw [validate] at valid
    grind
  simpa using nonempty

/-- A command that is read back is a plain line. -/
theorem isPlainLine_command (line : isPlainLine deployment.toList = true)
    (read : ofYaml (template deployment cpi) = .ok config) (same : config.cpi.command.text = cpi) :
    isPlainLine cpi.toList = true := by
  by_cases other : cpi = "agent"
  · rw [other]
    decide
  obtain ⟨node, parsed, valid, _, _, _, run⟩ := exists_of_ofYaml read
  have nonempty : cpi ≠ "" := same ▸ command_of_validate valid
  rw [Node.ofText?] at parsed
  obtain ⟨tokens, lexed, parsed⟩ := Option.bind_eq_some_iff.1 parsed
  obtain ⟨next, count, below⟩ := @below_command cpi other
  have split : templateLines deployment cpi =
      linesBeforeCommand deployment ++ .field 2 "command" cpi :: linesAfterCommand := rfl
  rw [template_eq, split] at lexed
  rcases @Yaml.Lexing.tokens?_value_other tokens _ _ 2 count (linesBeforeCommand deployment)
    linesAfterCommand "command" cpi below nonempty (areLines_beforeCommand line) (by decide) (by
      rintro last ⟨⟩ _ _ _ ⟨⟩) lexed with line | ⟨later, rfl, isOther⟩
  · exact line
  · rw [tokens_beforeCommand] at parsed
    obtain ⟨fields, _, _, rfl, read⟩ := Parsing.document?_mapping parsed
    obtain ⟨name, fields, _, _, rfl, nameRead, read⟩ := Parsing.blockFields?_field read
    obtain ⟨rfl, rfl⟩ := Parsing.value?_plain nameRead
    obtain ⟨place, fields, _, _, rfl, placeRead, read⟩ := Parsing.blockFields?_field read
    -- The instance is a mapping of its own, with two fields.
    obtain ⟨_, _, rfl, inside⟩ := Parsing.node?_mapping (by exact placeRead)
    obtain ⟨_, _, _, _, rfl, jobRead, inside⟩ := Parsing.blockFields?_field inside
    obtain ⟨rfl, rfl⟩ := Parsing.value?_plain jobRead
    obtain ⟨_, _, _, _, rfl, indexRead, inside⟩ := Parsing.blockFields?_field inside
    obtain ⟨rfl, rfl⟩ := Parsing.value?_plain indexRead
    obtain ⟨rfl, rfl⟩ := Parsing.blockFields?_end inside
    obtain ⟨cpiNode, fields, _, _, rfl, cpiRead, read⟩ := Parsing.blockFields?_field read
    obtain ⟨_, _, rfl, inside⟩ := Parsing.node?_mapping (by exact cpiRead)
    obtain ⟨value, _, _, _, rfl, valueRead, _⟩ := Parsing.blockFields?_field inside
    have value := Parsing.value?_other nonempty rfl isOther valueRead
    exact absurd same (cpi_gives (List.mem_cons_of_mem _ (List.mem_cons_of_mem _ List.mem_cons_self))
      List.mem_cons_self value _ _ _ _ run)

theorem permitted_of_template (permitted : (template deployment cpi).toList.all isPermitted = true) :
    deployment.toList.all isPermitted = true ∧ cpi.toList.all isPermitted = true := by
  unfold template at permitted
  simp only [String.toList_append, List.all_append, Bool.and_eq_true] at permitted
  simp only [permitted, and_self]

theorem permitted_of_ofYaml (read : ofYaml text = .ok config) : text.toList.all isPermitted = true := by
  obtain ⟨node, parsed, _⟩ := exists_of_ofYaml read
  rw [Node.ofText?, Yaml.tokens?] at parsed
  split at parsed
  · next permitted => exact permitted
  · cases parsed

theorem not_isBlankText {text : String} (plain : isPlainName text = true) :
    Text.isBlankText text = false := by
  simp only [isPlainName, Bool.and_eq_true, Bool.not_eq_true', List.any_eq_false] at plain
  obtain ⟨nonempty, visible⟩ := plain
  obtain ⟨c, rest, whole⟩ : ∃ c rest, text.toList = c :: rest :=
    List.exists_cons_of_ne_nil (by simpa using nonempty)
  have first : Text.isBlank c = false := by simpa using visible c (by simp [whole])
  rw [Text.isBlankText, whole, List.all_cons, first, Bool.false_and]

/-- For a name without blanks, the template says what it is meant to exactly if both texts stand for
themselves. -/
theorem ofYaml_template_iff (plain : isPlainName deployment = true) :
    ofYaml (template deployment cpi) = .ok (templateConfig deployment cpi) ↔
      isPlainText deployment = true ∧ isPlainText cpi = true := by
  constructor
  · intro read
    obtain ⟨permittedName, permittedCommand⟩ := permitted_of_template (permitted_of_ofYaml read)
    have line := isPlainLine_name plain read rfl
    exact ⟨isPlainText_iff.2 ⟨line, permittedName⟩,
      isPlainText_iff.2 ⟨isPlainLine_command line read rfl, permittedCommand⟩⟩
  · rintro ⟨name, command⟩
    exact ofYaml_template (not_isBlankText plain) name command

end Template

end Config

end DeploymentLifecycle
