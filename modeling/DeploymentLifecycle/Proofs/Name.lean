import DeploymentLifecycle.Name
import DeploymentLifecycle.Proofs.Text.Cut
import DeploymentLifecycle.Proofs.Text.Natural
import DeploymentLifecycle.Proofs.Text.Utf8

namespace DeploymentLifecycle

/-! Which texts are job names, why the others are refused, and that the label of an instance tells its
job and its index. -/

namespace JobName

/-- The letters and digits of ASCII, and the three marks that may stand beside them. -/
def alphabet : List Char :=
  "ABCDEFGHIJKLMNOPQRSTUVWXYZabcdefghijklmnopqrstuvwxyz0123456789-_.".toList

/-- The rule for job names, with the length in characters. -/
structure Allowed (text : String) : Prop where
  nonempty : text ≠ ""
  short : text.length ≤ 128
  spelled : ∀ c ∈ text.toList, c ∈ alphabet

/-- `c` is the first character of the text that no job name has. -/
def FirstForeign (text : String) (c : Char) : Prop :=
  ∃ before after, text.toList = before ++ c :: after ∧ (∀ d ∈ before, d ∈ alphabet) ∧ c ∉ alphabet

/-- What becomes of a text that is to be a job name. Its length, in bytes, counts before its
characters do. -/
inductive Judged : String → Except JobNameError JobName → Prop where
  | empty : Judged "" (.error .empty)
  | tooLong {text : String} (long : 128 < text.utf8ByteSize) : Judged text (.error .tooLong)
  | foreign {text : String} {c : Char} (short : text.utf8ByteSize ≤ 128)
      (first : FirstForeign text c) : Judged text (.error (.invalidChar c))
  | accepted (job : JobName) : Judged job.text (.ok job)

variable {text : String} {c : Char} {job : JobName} {result : Except JobNameError JobName}

theorem toNat_lt_of_le {last : Char} (ascii : last.toNat < 128) (below : c.val ≤ last.val) :
    c.toNat < 128 :=
  Nat.lt_of_le_of_lt (UInt32.le_iff_toNat_le.1 below) ascii

theorem toNat_lt_of_isJobNameChar (permitted : isJobNameChar c = true) : c.toNat < 128 := by
  simp only [isJobNameChar, Char.isAlphanum, Bool.or_eq_true, beq_iff_eq] at permitted
  rcases permitted with (((letter | digit) | rfl) | rfl) | rfl
  · rcases Bool.or_eq_true_iff.1 letter with upper | lower
    · have range : 'A'.val ≤ c.val ∧ c.val ≤ 'Z'.val := of_decide_eq_true upper
      exact toNat_lt_of_le (by decide) range.2
    · have range := Bool.and_eq_true_iff.1 lower
      exact toNat_lt_of_le (by decide) (of_decide_eq_true range.2)
  · have range := Bool.and_eq_true_iff.1 digit
    exact toNat_lt_of_le (by decide) (of_decide_eq_true range.2)
  all_goals decide

theorem isJobNameChar_iff : isJobNameChar c = true ↔ c ∈ alphabet := by
  constructor
  -- A character that is permitted is one of ASCII, and there all can be looked at.
  · have known : ∀ code < 128, isJobNameChar (Char.ofNat code) = true →
        Char.ofNat code ∈ alphabet := by
      decide +kernel
    intro permitted
    have spelled := known c.toNat (toNat_lt_of_isJobNameChar permitted)
    rw [Char.ofNat_toNat] at spelled
    exact spelled permitted
  · have known : alphabet.all isJobNameChar = true := by decide +kernel
    exact List.all_eq_true.1 known c

theorem utf8Size_of_mem_alphabet (spelled : c ∈ alphabet) : c.utf8Size = 1 := by
  have known : (alphabet.all fun c => c.utf8Size == 1) = true := by decide +kernel
  exact eq_of_beq (List.all_eq_true.1 known c spelled)

/-- What is spelled with the alphabet has as many bytes as characters. -/
theorem utf8ByteSize_of_spelled (spelled : ∀ c ∈ text.toList, c ∈ alphabet) :
    text.utf8ByteSize = text.length :=
  Text.utf8ByteSize_eq_length fun c member => utf8Size_of_mem_alphabet (spelled c member)

theorem allowed_text (job : JobName) : Allowed job.text := by
  have spelled : ∀ c ∈ job.text.toList, c ∈ alphabet :=
    fun c member => isJobNameChar_iff.1 (job.permitted c member)
  exact ⟨job.nonempty, utf8ByteSize_of_spelled spelled ▸ job.short, spelled⟩

theorem Allowed.exists_job (allowed : Allowed text) : ∃ job : JobName, job.text = text := by
  have short : text.utf8ByteSize ≤ 128 := by
    rw [utf8ByteSize_of_spelled allowed.spelled]
    exact allowed.short
  exact ⟨⟨text, allowed.nonempty, short,
    fun c member => isJobNameChar_iff.2 (allowed.spelled c member)⟩, rfl⟩

theorem text_injective : Function.Injective JobName.text := by
  rintro ⟨text⟩ ⟨other⟩ same
  cases same
  rfl

theorem find?_eq_some_iff :
    (text.toList.find? fun c => !isJobNameChar c) = some c ↔ FirstForeign text c := by
  simp only [List.find?_eq_some_iff_append, Bool.not_not, Bool.not_eq_true', ← Bool.not_eq_true,
    isJobNameChar_iff, FirstForeign]
  constructor
  · rintro ⟨foreign, before, after, split, spelled⟩
    exact ⟨before, after, split, spelled, foreign⟩
  · rintro ⟨before, after, split, spelled, foreign⟩
    exact ⟨foreign, before, after, split, spelled⟩

theorem FirstForeign.ne_empty (first : FirstForeign text c) : text ≠ "" := by
  rintro rfl
  obtain ⟨before, after, split, -, -⟩ := first
  simp at split

theorem judged_ofText (text : String) : Judged text (ofText text) := by
  rw [ofText]
  split
  · next isEmpty =>
    subst isEmpty
    exact .empty
  · split
    · next isLong => exact .tooLong isLong
    · next isShort =>
      split
      · next c found => exact .foreign (Nat.le_of_not_lt isShort) (find?_eq_some_iff.1 found)
      · exact .accepted ⟨text, _, _, _⟩

theorem ofText_text (job : JobName) : ofText job.text = .ok job := by
  rw [ofText, dif_neg job.nonempty, dif_neg (Nat.not_lt.2 job.short)]
  split
  · next c found =>
    have foreign := List.find?_some found
    have member := List.mem_of_find?_eq_some found
    simp [job.permitted c member] at foreign
  · rfl

theorem ofText_of_long (long : 128 < text.utf8ByteSize) : ofText text = .error .tooLong := by
  have nonempty : text ≠ "" := by
    rintro rfl
    cases long
  rw [ofText, dif_neg nonempty, dif_pos long]

theorem ofText_of_foreign (short : text.utf8ByteSize ≤ 128) (first : FirstForeign text c) :
    ofText text = .error (.invalidChar c) := by
  rw [ofText, dif_neg first.ne_empty, dif_neg (Nat.not_lt.2 short)]
  split
  · next d found =>
    rw [find?_eq_some_iff.2 first] at found
    cases found
    rfl
  · next found =>
    rw [find?_eq_some_iff.2 first] at found
    cases found

theorem judged_iff : Judged text result ↔ ofText text = result := by
  constructor
  · intro judged
    cases judged with
    | empty => rfl
    | tooLong long => exact ofText_of_long long
    | foreign short first => exact ofText_of_foreign short first
    | accepted job => exact ofText_text job
  · rintro rfl
    exact judged_ofText text

theorem ofText_eq_empty_iff : ofText text = .error .empty ↔ text = "" := by
  rw [← judged_iff]
  constructor
  · rintro ⟨⟩
    rfl
  · rintro rfl
    exact .empty

theorem ofText_eq_tooLong_iff : ofText text = .error .tooLong ↔ 128 < text.utf8ByteSize := by
  rw [← judged_iff]
  exact ⟨fun | .tooLong long => long, .tooLong⟩

theorem ofText_eq_invalidChar_iff : ofText text = .error (.invalidChar c) ↔
    text.utf8ByteSize ≤ 128 ∧ FirstForeign text c := by
  rw [← judged_iff]
  exact ⟨fun | .foreign short first => ⟨short, first⟩, fun ⟨short, first⟩ => .foreign short first⟩

theorem ofText_eq_ok_iff : ofText text = .ok job ↔ job.text = text := by
  rw [← judged_iff]
  constructor
  · rintro ⟨⟩
    rfl
  · rintro rfl
    exact .accepted job

/-- The limit is one on bytes, but of the texts that are spelled with the alphabet it leaves out just
those of more than 128 characters. -/
theorem accepts_iff : (∃ job, ofText text = .ok job) ↔ Allowed text := by
  simp only [ofText_eq_ok_iff]
  constructor
  · rintro ⟨job, rfl⟩
    exact allowed_text job
  · exact Allowed.exists_job

theorem slash_not_mem (job : JobName) : '/' ∉ job.text.toList :=
  fun member => absurd (job.permitted '/' member) (by decide)

end JobName

namespace InstanceName

variable {name other : InstanceName}

theorem toList_label (name : InstanceName) : name.label.toList =
    name.job.text.toList ++ '/' :: Nat.toDigits 10 name.index.toNat := by
  simp [label]

/-- A job name has no slash, so the label is cut at its only one. -/
theorem label_eq_iff : name.label = other.label ↔
    name.job = other.job ∧ name.index = other.index := by
  constructor
  · intro same
    have written := congrArg String.toList same
    rw [toList_label, toList_label] at written
    obtain ⟨job, index⟩ :=
      Text.append_cons_inj name.job.slash_not_mem other.job.slash_not_mem written
    exact ⟨JobName.text_injective (String.toList_inj.1 job),
      UInt32.toNat_inj.1 (Text.toDigits_injective index)⟩
  · rintro ⟨job, index⟩
    rw [label, label, job, index]

end InstanceName

/-- A text is a job name, unchanged, when it has one to 128 characters and all of them are of the
alphabet. Otherwise it is refused as empty, as too long if it has more than 128 bytes whatever they
are, or else for its first character that is not of the alphabet. Instances with the same label have
the same job and the same index. -/
theorem job_names_exact_and_labels_distinct :
    (∀ text,
      ((∃ job, JobName.ofText text = .ok job) ↔ JobName.Allowed text) ∧
      (∀ job, JobName.ofText text = .ok job ↔ job.text = text) ∧
      (JobName.ofText text = .error .empty ↔ text = "") ∧
      (JobName.ofText text = .error .tooLong ↔ 128 < text.utf8ByteSize) ∧
      ∀ c, JobName.ofText text = .error (.invalidChar c) ↔
        text.utf8ByteSize ≤ 128 ∧ JobName.FirstForeign text c) ∧
    ∀ name other : InstanceName, name.label = other.label ↔
      name.job = other.job ∧ name.index = other.index :=
  ⟨fun _ => ⟨JobName.accepts_iff, fun _ => JobName.ofText_eq_ok_iff, JobName.ofText_eq_empty_iff,
    JobName.ofText_eq_tooLong_iff, fun _ => JobName.ofText_eq_invalidChar_iff⟩,
    fun _ _ => InstanceName.label_eq_iff⟩

/-- Few characters may be too long: each of these has three bytes. -/
example : JobName.ofText (String.ofList (List.replicate 43 '€')) = .error .tooLong :=
  JobName.ofText_eq_tooLong_iff.2 (by decide +kernel)

end DeploymentLifecycle
