import Lifelines.CommandLine.Run
import Lifelines.Proofs.Requests

/-!
# What a run gives

What prints nothing leaves the text that has been printed as it is. So a run first gets its
settings, without printing, and then goes on with these from the files that there are by
then; where it gets none, it has failed.

* `CommandLine.run_quietly_bind`: what is done after something that prints nothing;
* `CommandLine.run_report_execute`: a run goes on from its settings.
-/

namespace Lifelines.CommandLine

variable {α β : Type} {tool : Tool} {env : Environment} {o : Options} {args : List String}

/-- What prints nothing hands on the text that has been printed so far. -/
theorem run_quietly_bind (x : Running α) (f : α → Printing β) (printed : String)
    (t : FileTree) : ((quietly x >>= f).run.run printed).run t =
      match x.run.run t with
      | (.ok a, t') => ((f a).run.run printed).run t'
      | (.error e, t') => ((.error e, printed), t') := by
  have hx : ((quietly x).run.run printed).run t =
      (((x.run.run t).1, printed), (x.run.run t).2) := rfl
  rw [ExceptT.run_bind, StateT.run_bind, StateT.run_bind, hx]
  rcases x.run.run t with ⟨_ | a, t'⟩ <;> rfl

/-- What is seen of a run is what it has printed and how it has ended. -/
theorem run_report (x : Printing Unit) (t : FileTree) : (report x).run t =
    match (x.run.run "").run t with
    | ((.ok _, printed), t') => (⟨0, printed, none⟩, t')
    | ((.error e, printed), t') => (⟨1, printed, some e.message⟩, t') := by
  rw [report, StateT.run_bind]
  rcases (x.run.run "").run t with ⟨⟨_ | _, printed⟩, t'⟩ <;> rfl

/-- A run goes on from its settings. -/
theorem run_report_execute (tool : Tool) (env : Environment) (o : Options) (t : FileTree) :
    (report (execute tool env o)).run t =
      match (prepare env o).run.run t with
      | (.ok settings, t') => (report (proceed tool env o settings)).run t'
      | (.error e, t') => (⟨1, "", some e.message⟩, t') := by
  rw [run_report, execute, run_quietly_bind]
  rcases (prepare env o).run.run t with ⟨_ | settings, t'⟩
  · rfl
  · exact (run_report _ t').symm

theorem run_of_parse_eq_run (h : parse args = .ok (.run o)) :
    run tool env args = report (execute tool env o) := by
  rw [run, h]

end Lifelines.CommandLine
