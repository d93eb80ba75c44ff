import Mathlib.Data.List.Basic

namespace DeploymentLifecycle.Text

/-! A text that is cut where a character stands, or one of a kind. -/

variable {mark c : Char} {before before' after after' text : List Char} {kind : Char → Bool}

theorem forall_ne_of_not_mem (absent : mark ∉ before) : ∀ c ∈ before, (c != mark) = true :=
  fun _ member => bne_iff_ne.2 fun same => absent (same ▸ member)

theorem takeWhile_cut (absent : mark ∉ before) :
    (before ++ mark :: after).takeWhile (· != mark) = before := by
  rw [List.takeWhile_append_of_pos (forall_ne_of_not_mem absent)]
  simp

theorem dropWhile_cut (absent : mark ∉ before) :
    (before ++ mark :: after).dropWhile (· != mark) = mark :: after := by
  rw [List.dropWhile_append_of_pos (forall_ne_of_not_mem absent)]
  simp

theorem takeWhile_of_not_mem (absent : mark ∉ text) : text.takeWhile (· != mark) = text := by
  rw [← List.append_nil text, List.takeWhile_append_of_pos (forall_ne_of_not_mem absent),
    List.takeWhile_nil]

theorem dropWhile_of_not_mem (absent : mark ∉ text) : text.dropWhile (· != mark) = [] := by
  rw [← List.append_nil text, List.dropWhile_append_of_pos (forall_ne_of_not_mem absent),
    List.dropWhile_nil]

/-- A text has one first place where a character stands. -/
theorem append_cons_inj (absent : mark ∉ before) (absent' : mark ∉ before')
    (same : before ++ mark :: after = before' ++ mark :: after') :
    before = before' ∧ after = after' := by
  have front := congrArg (List.takeWhile (· != mark)) same
  rw [takeWhile_cut absent, takeWhile_cut absent'] at front
  subst front
  exact ⟨rfl, List.tail_eq_of_cons_eq (List.append_cancel_left same)⟩

/-- A text has one last place where a character stands. -/
theorem append_cons_inj_last (absent : mark ∉ after) (absent' : mark ∉ after')
    (same : before ++ mark :: after = before' ++ mark :: after') :
    before = before' ∧ after = after' := by
  have turned := congrArg List.reverse same
  simp only [List.reverse_append, List.reverse_cons, List.append_assoc, List.singleton_append]
    at turned
  obtain ⟨back, front⟩ := append_cons_inj (by simpa using absent) (by simpa using absent') turned
  exact ⟨List.reverse_injective front, List.reverse_injective back⟩

theorem exists_last (member : mark ∈ text) :
    ∃ before after, text = before ++ mark :: after ∧ mark ∉ after := by
  obtain ⟨back, front, turned, absent⟩ := List.eq_append_cons_of_mem (List.mem_reverse.2 member)
  refine ⟨front.reverse, back.reverse, ?_, by simpa using absent⟩
  have same := congrArg List.reverse turned
  simpa using same

/-- A text is cut in front of the first character of a kind, or at its end if it has none. -/
structure Cut (kind : Char → Bool) (before after : List Char) : Prop where
  before : ∀ c ∈ before, kind c = false
  after : ∀ c, after.head? = some c → kind c = true

theorem cut_span (kind : Char → Bool) (text : List Char) :
    Cut kind (text.takeWhile fun c => !kind c) (text.dropWhile fun c => !kind c) where
  before c member := by
    have other := List.all_eq_true.1 List.all_takeWhile c member
    simpa using other
  after c first := by
    have stop := List.head?_dropWhile_not (fun c => !kind c) text
    rw [first] at stop
    simpa using stop

theorem Cut.takeWhile (cut : Cut kind before after) :
    (before ++ after).takeWhile (fun c => !kind c) = before := by
  have others : ∀ c ∈ before, (!kind c) = true := by simpa using cut.before
  rw [List.takeWhile_append_of_pos others]
  cases after with
  | nil => simp
  | cons c after => simp [cut.after c rfl]

theorem Cut.unique (cut : Cut kind before after) (cut' : Cut kind before' after')
    (same : before ++ after = before' ++ after') : before = before' ∧ after = after' := by
  have front := congrArg (List.takeWhile fun c => !kind c) same
  rw [cut.takeWhile, cut'.takeWhile] at front
  subst front
  exact ⟨rfl, List.append_cancel_left same⟩

end DeploymentLifecycle.Text
