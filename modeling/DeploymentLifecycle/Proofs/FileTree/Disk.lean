import DeploymentLifecycle.Machine
import DeploymentLifecycle.Proofs.Perform

namespace DeploymentLifecycle

/-! A disk that holds a tree of files and may fail at anything. -/

/-- How a disk conducts itself. What it says it has done, it has done; but anything may fail. Then a
file may have got the start of its content, and of some directories the outer ones may have been
made. -/
def disk (current : FileTree.Place) : Conduct Host.signature FileTree := fun tree event after =>
  match event with
  | ⟨.read path, answer⟩ => after = tree ∧
      (answer = tree.read current path ∨ ∃ cause, cause ≠ .notFound ∧ answer = .error cause)
  | ⟨.makeDirectories path, .ok ()⟩ => tree.makeDirectories current path = (.ok (), after)
  | ⟨.makeDirectories path, .error _⟩ =>
    ∃ outer, outer <:+ path.lineage ∧ after = (tree.ensureFirst current outer).2
  | ⟨.write path text, .ok ()⟩ => tree.write current path (Text.encode text) = .ok after
  | ⟨.write path text, .error _⟩ => after = tree ∨
      ∃ torn, torn <+: Text.encode text ∧ tree.write current path torn = .ok after
  | ⟨.rename source target, .ok ()⟩ => tree.rename current source target = .ok after
  | _ => after = tree

theorem changeFiles_kept (machine : Machine) (files : Except IoError FileTree) :
    (machine.changeFiles files).2.current = machine.current := by
  cases files <;> rfl

/-- The files of a machine are on such a disk. -/
theorem disk_of_answer (request : Host.Request) (name : Nat → String) (machine : Machine) :
    let reply := (Machine.answer name request).run machine
    disk machine.current machine.files ⟨request, reply.1⟩ reply.2.files ∧
      reply.2.current = machine.current := by
  cases request with
  | read path => exact ⟨⟨rfl, .inl rfl⟩, rfl⟩
  | makeDirectories path =>
      refine ⟨?_, rfl⟩
      change disk machine.current machine.files
        ⟨.makeDirectories path, (machine.files.makeDirectories machine.current path).1⟩
        (machine.files.makeDirectories machine.current path).2
      rcases made : machine.files.makeDirectories machine.current path with ⟨cause | _, files⟩
      · exact ⟨path.lineage, List.suffix_rfl, congrArg Prod.snd made.symm⟩
      · exact made
  | write path text =>
      refine ⟨?_, changeFiles_kept machine _⟩
      change disk machine.current machine.files ⟨.write path text, (machine.changeFiles
          (machine.files.write machine.current path (Text.encode text))).1⟩ (machine.changeFiles
          (machine.files.write machine.current path (Text.encode text))).2.files
      cases wrote : machine.files.write machine.current path (Text.encode text) with
      | error cause => exact .inl rfl
      | ok files => exact wrote
  | rename source target =>
      refine ⟨?_, changeFiles_kept machine _⟩
      change disk machine.current machine.files ⟨.rename source target, (machine.changeFiles
          (machine.files.rename machine.current source target)).1⟩ (machine.changeFiles
          (machine.files.rename machine.current source target)).2.files
      cases renamed : machine.files.rename machine.current source target with
      | error cause => rfl
      | ok files => exact renamed
  | run execution =>
      change (machine.run execution).2.files = machine.files ∧
        (machine.run execution).2.current = machine.current
      rw [Machine.run]
      split
      · exact ⟨rfl, rfl⟩
      · dsimp only
        constructor <;> cases machine.performances <;> dsimp only <;> split <;> rfl
  | _ => exact ⟨rfl, rfl⟩

theorem along_disk {α : Type} (program : Host.Program α) (name : Nat → String) (machine : Machine) :
    (disk machine.current).Along machine.files (program.record (Machine.answer name) machine).trace
      (program.record (Machine.answer name) machine).state.files := by
  induction program generalizing machine with
  | done value => rfl
  | ask request next ih =>
      obtain ⟨conducted, stays⟩ := disk_of_answer request name machine
      refine ⟨_, conducted, ?_⟩
      rw [← stays]
      exact ih _ _

/-- What a program does on a machine is a run on a disk. -/
theorem exists_run_on_machine {α : Type} {program : Host.Program α} {name : Nat → String}
    {machine : Machine} {value : α}
    (comes : (program.perform (Machine.answer name) machine).1 = value) :
    ∃ trace, program.Yields trace value ∧ (disk machine.current).Along machine.files trace
      (program.perform (Machine.answer name) machine).2.files := by
  have performed : program.perform (Machine.answer name) machine =
      ((program.record (Machine.answer name) machine).value,
        (program.record (Machine.answer name) machine).state) := Prog.record_perform
  rw [performed] at comes ⊢
  subst comes
  exact ⟨_, Prog.yields_record program, along_disk program name machine⟩

end DeploymentLifecycle
