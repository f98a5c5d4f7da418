import BlockVault.Mount.Plan

/-!
# What a plan asks

A plan that is carried out in a world leaves a history: the queries it asked, each with its answer. The
history of a plan in two parts is that of the first part and, from where that part ends, that of the
second (`Task.history_bind`). With it one can say of a plan what it does in every world, and not only
what it ends in.
-/

namespace BlockVault.Mount

variable {σ α β : Type}

/-- A query with the answer it was given. -/
structure Exchange where
  query : Query
  answer : query.Answer

/-- Unmounting, in whatever way. -/
def Query.isUnmount : Query → Bool
  | .unmount .. => true
  | _ => false

/-- A query that asks for something to be changed. -/
def Query.changes : Query → Bool
  | .unmount .. | .removeDirectory _ => true
  | _ => false

/-- What a plan asks a world, in order, and what it is told. -/
def Plan.history (world : World σ) : Plan α → σ → List Exchange
  | .done _, _ => []
  | .ask q next, s =>
    let told := (world q s).value
    ⟨q, told.1⟩ :: history world (next told.1) told.2
  | .report _ rest, s => history world rest s

theorem Plan.history_bind (world : World σ) (p : Plan α) (f : α → Plan β) (s : σ) :
    (p.bind f).history world s =
      p.history world s ++
        (f (p.run world s).value.1).history world (p.run world s).value.2 := by
  induction p generalizing s with
  | done a => rfl
  | ask q next ih => simp only [bind, history, ih, run, Logged.bind_value, List.cons_append]
  | report line rest ih => simp only [bind, history, ih, run, Logged.bind_value]

namespace Task

/-- How a task ends in a world, and the state that it leaves. -/
def perform (world : World σ) (t : Task α) (s : σ) : Except Failure α × σ := (t.run.run world s).value

/-- What a task asks a world, in order, and what it is told. -/
def history (world : World σ) (t : Task α) (s : σ) : List Exchange := t.run.history world s

variable (world : World σ) (s : σ)

@[simp] theorem perform_pure (a : α) : (pure a : Task α).perform world s = (.ok a, s) := rfl

@[simp] theorem history_pure (a : α) : (pure a : Task α).history world s = [] := rfl

@[simp] theorem perform_throw (f : Failure) : (throw f : Task α).perform world s = (.error f, s) := rfl

@[simp] theorem history_throw (f : Failure) : (throw f : Task α).history world s = [] := rfl

@[simp] theorem perform_ask (q : Query) :
    (ask q).perform world s = (.ok (world q s).value.1, (world q s).value.2) := rfl

@[simp] theorem history_ask (q : Query) : (ask q).history world s = [⟨q, (world q s).value.1⟩] := rfl

@[simp] theorem perform_report (level : Journal.Level) (message : String) :
    (report level message).perform world s = (.ok (), s) := rfl

@[simp] theorem history_report (level : Journal.Level) (message : String) :
    (report level message).history world s = [] := rfl

/-- A task goes on where its first part succeeds, and ends where that fails. -/
@[simp] theorem perform_bind (t : Task α) (f : α → Task β) :
    (t >>= f).perform world s =
      match t.perform world s with
      | (.ok a, s) => (f a).perform world s
      | (.error e, s) => (.error e, s) := by
  have parts := congrArg Logged.value (Plan.run_bind world t.run (ExceptT.bindCont f) s)
  refine parts.trans ?_
  unfold perform
  rw [Logged.bind_value]
  generalize (t.run.run world s).value = first
  rcases first with ⟨a | a, s⟩ <;> rfl

@[simp] theorem history_bind (t : Task α) (f : α → Task β) :
    (t >>= f).history world s =
      t.history world s ++
        match t.perform world s with
        | (.ok a, s) => (f a).history world s
        | (.error _, _) => [] := by
  have parts := Plan.history_bind world t.run (ExceptT.bindCont f) s
  refine parts.trans ?_
  unfold perform
  generalize (t.run.run world s).value = first
  rcases first with ⟨a | a, s⟩ <;> rfl

@[simp] theorem perform_outcome (t : Task α) :
    t.outcome.perform world s = (.ok (t.perform world s).1, (t.perform world s).2) := by
  exact congrArg Logged.value
    (Plan.run_bind world t.run (fun a => .done (.ok a : Except Failure (Except Failure α))) s)

@[simp] theorem history_outcome (t : Task α) : t.outcome.history world s = t.history world s := by
  have parts := Plan.history_bind world t.run
    (fun a => .done (.ok a : Except Failure (Except Failure α))) s
  refine parts.trans ?_
  simp only [Plan.history, List.append_nil, history]

end Task

end BlockVault.Mount
