import DeploymentLifecycle.Text.Basic

namespace DeploymentLifecycle.Text

/-! What is left of a text without the blanks around it. -/

variable {before inner after text : List Char}

theorem isBlank_of_isDigit {c : Char} (digit : c.isDigit = true) : isBlank c = false := by
  simp only [Char.isDigit, Bool.and_eq_true, decide_eq_true_eq, ge_iff_le, UInt32.le_iff_toNat_le]
    at digit
  have within : 48 ≤ c.toNat ∧ c.toNat ≤ 57 := digit
  simp [isBlank, blankRanges]
  omega

theorem exists_trim (text : List Char) : ∃ before after, text = before ++ trim text ++ after ∧
    ∀ c ∈ before ++ after, isBlank c = true := by
  let rest := text.dropWhile isBlank
  have split : text = text.takeWhile isBlank ++ trim text ++
      (rest.reverse.takeWhile isBlank).reverse := by
    rw [trim, List.append_assoc, ← List.reverse_append, List.takeWhile_append_dropWhile,
      List.reverse_reverse, List.takeWhile_append_dropWhile]
  refine ⟨_, _, split, fun c member => ?_⟩
  rcases List.mem_append.1 member with front | back
  · exact List.all_eq_true.1 List.all_takeWhile c front
  · exact List.all_eq_true.1 List.all_takeWhile c (List.mem_reverse.1 back)

theorem dropWhile_bare (bare : ∀ c ∈ inner, isBlank c = false) :
    inner.dropWhile isBlank = inner := by
  cases inner with
  | nil => rfl
  | cons c inner => exact List.dropWhile_cons_of_neg (by simp [bare c])

theorem trim_surrounded (blank : ∀ c ∈ before ++ after, isBlank c = true)
    (bare : ∀ c ∈ inner, isBlank c = false) : trim (before ++ inner ++ after) = inner := by
  obtain ⟨front, back⟩ := List.forall_mem_append.1 blank
  rw [trim, List.append_assoc, List.dropWhile_append_of_pos front]
  cases inner with
  | nil =>
      rw [List.nil_append, ← List.append_nil after, List.dropWhile_append_of_pos back]
      rfl
  | cons c inner =>
      have starts : ((c :: inner) ++ after).dropWhile isBlank = (c :: inner) ++ after :=
        List.dropWhile_cons_of_neg (by simp [bare c])
      rw [starts, List.reverse_append,
        List.dropWhile_append_of_pos fun c member => back c (List.mem_reverse.1 member),
        dropWhile_bare fun c member => bare c (List.mem_reverse.1 member), List.reverse_reverse]

end DeploymentLifecycle.Text
