import DeploymentLifecycle.Proofs.Yaml.Lines

namespace DeploymentLifecycle.Yaml

/-! The tokens of a text that is laid out in lines. -/

/-- A line of a text, indented up to a column: a key with a plain value, a key with a block below it,
or a comment. -/
inductive Line where
  | field (column : Nat) (key value : String)
  | block (column : Nat) (key : String)
  | comment (column : Nat) (text : String)

namespace Line

def column : Line → Nat
  | field column .. | block column _ | comment column _ => column

def body : Line → String
  | field _ key value => key ++ ": " ++ value
  | block _ key => key ++ ":"
  | comment _ text => "#" ++ text

def text (line : Line) : String :=
  String.ofList (List.replicate line.column ' ') ++ line.body ++ "\n"

theorem toList_text {line : Line} : line.text.toList =
    List.replicate line.column ' ' ++ (line.body.toList ++ ['\n']) := by
  simp [text]

def isProper : Line → Bool
  | field _ key value => isKeyWord key.toList && isPlainLine value.toList
  | block _ key => isKeyWord key.toList
  | comment _ text => text.toList.all fun c => !isBreak c

/-- A line that is further indented would continue the value of a field. -/
def mayLead : Line → List Line → Bool
  | field column .., next :: _ => next.column ≤ column
  | _, _ => true

/-- How many tokens a line is read in, mere starts and ends of blocks aside. -/
def rounds : Line → Nat
  | field .. => 3
  | block .. => 2
  | comment .. => 0

end Line

def roundsOf : List Line → Nat
  | [] => 0
  | line :: rest => line.rounds + roundsOf rest

/-- The text of all lines. -/
def textOf (lines : List Line) : String :=
  lines.foldl (fun whole line => whole ++ line.text) ""

/-- Whether lines are laid out so that each stands for itself. -/
def areLines : List Line → Bool
  | [] => true
  | line :: rest => line.isProper && line.mayLead rest && areLines rest

namespace Lexing

/-- What a line adds to the tokens. -/
def Blocks.line (blocks : Blocks) : Line → Blocks
  | .field column key value => (blocks.key column key.toList).push [.scalar .plain value]
  | .block column key => blocks.key column key.toList
  | .comment .. => blocks

/-- What all lines add. -/
def Blocks.lines (blocks : Blocks) (lines : List Line) : Blocks :=
  lines.foldl Blocks.line blocks

/-- All tokens in order, with the open blocks closed. -/
def Blocks.finished (blocks : Blocks) : List Token :=
  (blocks.indents.map (fun _ => Token.blockEnd) ++ blocks.tokens).reverse

variable {line : Line} {lines : List Line} {blocks : Blocks} {rest : List Char} {number fuel : Nat}

theorem shown_body (proper : line.isProper = true) : atGap (line.body.toList ++ rest) = false := by
  have key : ∀ {key : List Char}, isKeyWord key = true → ∀ rest, atGap (key ++ rest) = false := by
    intro key word rest
    obtain ⟨c, more, rfl, each, _⟩ := exists_keyChar word
    exact (each c (by simp)).1
  cases line with
  | field _ name value =>
      rw [Line.body, String.append_assoc, String.toList_append, List.append_assoc]
      exact key (Bool.and_eq_true_iff.1 proper).1 _
  | block _ name =>
      rw [Line.body, String.toList_append, List.append_assoc]
      exact key proper _
  | comment _ text =>
      rw [Line.body, String.toList_append, List.append_assoc]
      rfl

/-- What follows a line does not continue it. -/
def Ends (line : Line) (rest : List Char) : Prop :=
  ∀ column key value, line = .field column key value → ∃ count next,
    rest = List.replicate count ' ' ++ next ∧ count ≤ column ∧ (atGap next = false ∨ next = [])

/-- Behind a key, the innermost block is the one that the key lies in. -/
theorem exists_key_indents {column : Nat} {key : List Char} :
    ∃ outer, (blocks.key column key).indents = column :: outer := by
  rw [Blocks.key, Blocks.push, Blocks.opened]
  split
  · exact ⟨_, rfl⟩
  · next here =>
    cases still : (blocks.closed column).indents with
    | nil => simp [still] at here
    | cons innermost outer =>
        have within : innermost ≤ column := closed_within (by rw [still]; rfl)
        have notBefore : column ≤ innermost := by simpa [still] using here
        exact ⟨outer, by rw [Nat.le_antisymm within notBefore]⟩

theorem run?_line (proper : line.isProper = true) (ends : Ends line rest) :
    run? (fuel + line.rounds) (lineStart number (line.text.toList ++ rest) blocks) =
      run? fuel (lineStart (number + 1) rest (blocks.line line)) := by
  cases line with
  | field column key value =>
      obtain ⟨word, plain⟩ := Bool.and_eq_true_iff.1 proper
      obtain ⟨count, next, rfl, shallow, shown⟩ := ends column key value rfl
      have whole : (Line.field column key value).text.toList ++ (List.replicate count ' ' ++ next) =
          List.replicate column ' ' ++ (key.toList ++ ':' :: (' ' :: value.toList ++
            '\n' :: (List.replicate count ' ' ++ next))) := by
        simp [Line.toList_text, Line.body, Line.column]
      obtain ⟨reached, sameLine, further, read⟩ :=
        @run?_key number column (' ' :: value.toList ++ '\n' :: (List.replicate count ' ' ++ next))
          blocks key.toList word rfl
      obtain ⟨outer, opened⟩ := @exists_key_indents blocks column key.toList
      rw [whole, show fuel + Line.rounds (.field column key value) = fuel + 1 + 2 from rfl, read,
        run?_value plain opened further shallow shown, sameLine, String.ofList_toList]
      rfl
  | block column key =>
      have whole : (Line.block column key).text.toList ++ rest =
          List.replicate column ' ' ++ (key.toList ++ ':' :: '\n' :: rest) := by
        simp [Line.toList_text, Line.body, Line.column]
      obtain ⟨reached, sameLine, _, read⟩ :=
        @run?_key number column ('\n' :: rest) blocks key.toList proper rfl
      rw [whole, show fuel + Line.rounds (.block column key) = fuel + 2 from rfl, read,
        run?_congr skipToNextToken_break, sameLine]
      rfl
  | comment column text =>
      have whole : (Line.comment column text).text.toList ++ rest =
          List.replicate column ' ' ++ ('#' :: text.toList ++ '\n' :: rest) := by
        simp [Line.toList_text, Line.body, Line.column]
      rw [whole]
      refine run?_congr (skipToNextToken_comment fun c member => ?_)
      simpa using List.all_eq_true.1 proper c member

theorem run?_lines (laid : areLines lines = true) (ends : ∀ line ∈ lines.getLast?, Ends line rest) :
    run? (fuel + roundsOf lines) (lineStart number (lines.flatMap (·.text.toList) ++ rest) blocks) =
      run? fuel (lineStart (number + lines.length) rest (blocks.lines lines)) := by
  induction lines generalizing number fuel blocks with
  | nil => rfl
  | cons line lines ih =>
      simp only [areLines, Bool.and_eq_true] at laid
      obtain ⟨⟨proper, lead⟩, laid⟩ := laid
      have here : Ends line (lines.flatMap (·.text.toList) ++ rest) := by
        cases lines with
        | nil => exact ends line rfl
        | cons next lines =>
            rintro column key value rfl
            simp only [areLines, Bool.and_eq_true] at laid
            have shallow : next.column ≤ column := by simpa [Line.mayLead] using lead
            exact ⟨next.column, next.body.toList ++ ('\n' :: (lines.flatMap (·.text.toList) ++ rest)),
              by simp [Line.toList_text], shallow, .inl (shown_body laid.1.1)⟩
      have later : ∀ line ∈ lines.getLast?, Ends line rest := by
        intro last member
        refine ends last ?_
        cases lines with
        | nil => cases member
        | cons next lines => rwa [List.getLast?_cons_cons]
      have rounds : fuel + roundsOf (line :: lines) = fuel + roundsOf lines + line.rounds := by
        rw [roundsOf]
        omega
      rw [List.flatMap_cons, List.append_assoc, rounds, run?_line proper here, ih laid later,
        List.length_cons]
      rw [show number + 1 + lines.length = number + (lines.length + 1) by omega]
      rfl

/-- At the end of the text, all blocks are closed. -/
theorem run?_end : run? (fuel + 1) (lineStart number [] blocks) = some blocks.finished := rfl

theorem rounds_le_length (proper : line.isProper = true) :
    line.rounds ≤ line.text.toList.length := by
  have nonempty : ∀ {key : String}, isKeyWord key.toList = true → 0 < key.length := by
    intro key word
    obtain ⟨c, more, whole, _⟩ := exists_keyChar word
    rw [← String.length_toList, whole]
    exact Nat.succ_pos _
  have body : line.rounds ≤ line.body.length := by
    cases line with
    | field _ key value =>
        have word := nonempty (Bool.and_eq_true_iff.1 proper).1
        have colon : ": ".length = 2 := rfl
        simp only [Line.rounds, Line.body, String.length_append]
        omega
    | block _ key =>
        have word := nonempty proper
        have colon : ":".length = 1 := rfl
        simp only [Line.rounds, Line.body, String.length_append]
        omega
    | comment => exact Nat.zero_le _
  simp only [Line.toList_text, List.length_append, String.length_toList]
  omega

theorem roundsOf_le_length (laid : areLines lines = true) :
    roundsOf lines ≤ (lines.flatMap (·.text.toList)).length := by
  induction lines with
  | nil => exact Nat.le_refl 0
  | cons line lines ih =>
      simp only [areLines, Bool.and_eq_true] at laid
      have here := rounds_le_length laid.1.1
      have later := ih laid.2
      simp only [roundsOf, List.flatMap_cons, List.length_append]
      omega

theorem toList_textOf : (textOf lines).toList = lines.flatMap (·.text.toList) := by
  have behind : ∀ whole : String, (lines.foldl (fun whole line => whole ++ line.text) whole).toList =
      whole.toList ++ lines.flatMap (·.text.toList) := by
    induction lines with
    | nil => simp
    | cons line lines ih =>
        intro whole
        rw [List.foldl_cons, ih, String.toList_append, List.append_assoc, List.flatMap_cons]
  exact (behind "").trans (List.nil_append _)

/-- Nothing is continued at the end of the text. -/
theorem ends_nil : Ends line [] :=
  fun _ _ _ _ => ⟨0, [], rfl, Nat.zero_le _, .inr rfl⟩

/-- A text laid out in lines has the tokens of its lines. -/
theorem tokens?_lines (laid : areLines lines = true)
    (permitted : (textOf lines).toList.all isPermitted = true) :
    tokens? (textOf lines) = some (({} : Blocks).lines lines).finished := by
  have enough := roundsOf_le_length laid
  obtain ⟨spare, fuel⟩ := Nat.exists_eq_add_of_le enough
  have read := @run?_lines lines {} [] 0 (spare + 1) laid fun _ _ => ends_nil
  rw [List.append_nil] at read
  rw [tokens?, if_pos permitted, toList_textOf, fuel,
    show ∀ rounds, rounds + spare + 1 = spare + 1 + rounds by omega]
  exact read.trans run?_end

end Lexing

end DeploymentLifecycle.Yaml
