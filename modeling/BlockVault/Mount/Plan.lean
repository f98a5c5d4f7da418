import BlockVault.FileTree
import BlockVault.Journal

/-!
# Plans

Work on mount points is a plan: it asks a question, goes on with the answer, and ends in a value.
A `World` answers the questions from a state. What a plan does is thereby known for every probe, one
whose answers change from question to question included.
-/

namespace BlockVault.Mount

/-- What a plan may ask for. -/
inductive Query where
  | pathExists (path : String)
  | isMountPoint (path : String)
  | filesystemType (path : String)
  /-- Unmount; a time limit asks for it by force. -/
  | unmount (path : String) (force : Option Quantity)
  | removeDirectory (path : String)

/-- What a query is answered with. -/
def Query.Answer : Query → Type
  | .pathExists _ => Except Failure Bool
  | .isMountPoint _ => Except Failure Bool
  | .filesystemType _ => Except Failure String
  | .unmount .. => Except Failure Unit
  | .removeDirectory _ => Except PathFault Unit

inductive Plan (α : Type) where
  | done (value : α)
  | ask (q : Query) (next : q.Answer → Plan α)
  | report (line : Journal.Line) (rest : Plan α)

/-- Answers queries from a state, which each answer moves on. -/
abbrev World (σ : Type) := (q : Query) → σ → Logged (q.Answer × σ)

namespace Plan

variable {σ α β : Type}

/-- One plan after another. -/
def bind : Plan α → (α → Plan β) → Plan β
  | .done a, f => f a
  | .ask q next, f => .ask q fun answer => bind (next answer) f
  | .report line rest, f => .report line (bind rest f)

instance : Monad Plan where
  pure := .done
  bind := bind

/-- Carries out a plan. -/
def run (world : World σ) : Plan α → σ → Logged (α × σ)
  | .done a, s => pure (a, s)
  | .ask q next, s => do
    let (answer, s) ← world q s
    run world (next answer) s
  | .report line rest, s => do
    .write line.level line.channel line.message
    run world rest s

@[simp] theorem run_done (world : World σ) (a : α) (s : σ) :
    (Plan.done a).run world s = pure (a, s) := rfl

/-- A plan in two parts is carried out part by part. -/
theorem run_bind (world : World σ) (p : Plan α) (f : α → Plan β) (s : σ) :
    (p.bind f).run world s = (do let (a, s) ← p.run world s; (f a).run world s) := by
  induction p generalizing s with
  | done a => rfl
  | ask q next ih => simp [bind, run, ih, Bind.bind, List.append_assoc]
  | report line rest ih => simp [bind, run, ih, Bind.bind, List.append_assoc]

end Plan

/-- A plan that may fail. -/
abbrev Task (α : Type) := ExceptT Failure Plan α

namespace Task

/-- Asks a query. -/
def ask (q : Query) : Task q.Answer := ExceptT.lift (.ask q .done)

/-- Writes a line to the journal. -/
def report (level : Journal.Level) (message : String) : Task Unit :=
  ExceptT.lift (.report ⟨level, .mounts, message⟩ (.done ()))

/-- How a task ends, without a failure of its own. -/
def outcome {α : Type} (t : Task α) : Task (Except Failure α) := ExceptT.lift t.run

end Task

end BlockVault.Mount
