import TaskRunner.Execution
import TaskRunner.Proofs.Lemmas.Batches
import TaskRunner.Proofs.Lemmas.Run

/-!
# The table of a manager

Tasks come into the table of a manager by two kinds of calls: a Runfile is loaded, or a mapping of tasks is merged.
`table_of_calls` says what holds of the table after any history of calls, and what one more call does: it puts the tasks that it
brings after those that are there, or it is stopped and the table is as it was. A table that is changed in place could be left half
changed by a call that is stopped, so that a call is executed in place here (`Call.perform`), with the manager as a part of the
state.
-/

namespace TaskRunner

open Run

/-- The tasks that the Runfile at a path declares. -/
def Runfile.declaredBy (path : Path) : Run (List Task) := do
  let path := Location.path (← Run.observe (·.resolve path))
  Run.debug "runx.manager" ("Loading " ++ path.toString)
  let scope ← openScope path.parent
  evaluate scope path

namespace Manager

/-- A call that brings tasks to a manager. -/
inductive Call where
  /-- Loads the Runfile at a path. -/
  | load (path : Path)
  /-- Merges the tasks of a mapping, under whatever keys they are there. -/
  | merge (mapping : Assoc String Task)

/-- The tasks that a call brings. -/
def Call.brings : Call → Run (List Task)
  | .load path => Runfile.declaredBy path
  | .merge mapping => pure mapping.values

/-- What a call gives: the manager with the tasks that have come, and how many they are. -/
def call (m : Manager) : Call → Run (Manager × Nat)
  | .load path => m.load path
  | .merge mapping => Run.ofExcept (m.merge mapping.values)

/-- A call merges what it brings. -/
theorem call_eq (m : Manager) (c : Call) : m.call c = c.brings >>= fun batch => Run.ofExcept (m.merge batch) := by
  have hmerge (batch : List Task) : Run.ofExcept (m.merge batch) = do
      let merged ← Run.ofExcept (m.registry.merge batch)
      return ({ m with registry := merged.1 }, merged.2) := by
    unfold merge
    cases m.registry.merge batch <;> rfl
  cases c with
  | merge mapping => rfl
  | load path =>
    unfold call load Call.brings Runfile.declaredBy
    simp only [bind_assoc, hmerge]

/-! ## Calls in place -/

/-- A computation that changes a manager and the state of a run in place: what it has changed before it is stopped stays changed. -/
abbrev Held (α : Type) := EStateM Stop (Manager × World) α

namespace Held

/-- A computation that has nothing to do with the manager. -/
def apart {α : Type} (x : Run α) : Held α := fun (m, w) =>
  match x w with
  | .ok a w' => .ok a (m, w')
  | .error stop w' => .error stop (m, w')

/-- Puts a task into the table. -/
def put (entry : String × Task) : Held Unit :=
  modify fun (m, w) => ({ m with registry := ⟨m.registry.table.insert entry.1 entry.2⟩ }, w)

/-- Puts tasks into the table, one after the other. -/
def putAll : List (String × Task) → Held Unit
  | [] => return ()
  | entry :: rest => do
    put entry
    putAll rest

/-- Merges a batch: all of it is collected before the first task is put into the table. -/
def merge (batch : List Task) : Held Nat := do
  let (m, _) ← get
  let incoming ← apart (Run.ofExcept (m.registry.collect Assoc.empty batch))
  putAll incoming.toList
  return incoming.size

/-- What comes after a computation goes on where the computation ends. -/
theorem bind_apply {α β : Type} (x : Held α) (f : α → Held β) (state : Manager × World) :
    (x >>= f) state = match x state with
      | .ok a state' => f a state'
      | .error stop state' => .error stop state' := by
  show EStateM.bind x f state = _
  unfold EStateM.bind
  cases x state <;> rfl

end Held

/-- Executes a call in place. -/
def Call.perform (c : Call) : Held Nat := do Held.merge (← Held.apart c.brings)

theorem putAll_apply (entries : List (String × Task)) (m : Manager) (w : World) :
    Held.putAll entries (m, w) = .ok () ({ m with registry := ⟨m.registry.table.insertAll entries⟩ }, w) := by
  induction entries generalizing m with
  | nil => rfl
  | cons entry rest ih => exact ih { m with registry := ⟨m.registry.table.insert entry.1 entry.2⟩ }

theorem heldMerge_apply (batch : List Task) (m : Manager) (w : World) :
    Held.merge batch (m, w) = match m.merge batch with
      | .ok (m', n) => .ok n (m', w)
      | .error f => .error (.failure f) (m, w) := by
  show EStateM.bind (Held.apart (Run.ofExcept (m.registry.collect Assoc.empty batch))) _ (m, w) = _
  unfold merge Registry.merge
  cases m.registry.collect Assoc.empty batch with
  | error f => rfl
  | ok incoming =>
    show (Held.putAll incoming.toList >>= fun _ => pure incoming.size) (m, w) = _
    rw [Held.bind_apply, putAll_apply]
    rfl

/-- A call in place gives what the call gives, and where the call is stopped the manager stays as it is. -/
theorem perform_apply (c : Call) (m : Manager) (w : World) :
    c.perform (m, w) = match m.call c w with
      | .ok (m', n) w' => .ok n (m', w')
      | .error stop w' => .error stop (m, w') := by
  rw [call_eq, Run.bind_apply, Call.perform, Held.bind_apply, Held.apart]
  cases c.brings w with
  | error stop w' => rfl
  | ok batch w' =>
    dsimp only
    rw [heldMerge_apply]
    cases m.merge batch <;> rfl

/-! ## Histories of calls -/

/-- The manager that a call in place leaves, whether it is stopped or not. -/
def afterCall (m : Manager) (c : Call) (w : World) : Manager :=
  match c.perform (m, w) with
  | .ok _ (m', _) | .error _ (m', _) => m'

/-- The manager after a history of calls, each in a state of its own: whatever happens to the surroundings between two calls. -/
def afterCalls (m : Manager) (history : List (Call × World)) : Manager :=
  history.foldl (fun m (c, w) => m.afterCall c w) m

/-- A manager takes a batch in as its table does. -/
theorem merge_eq_ok {m m' : Manager} {batch : List Task} {n : Nat} (h : m.merge batch = .ok (m', n)) :
    m.registry.merge batch = .ok (m'.registry, n) ∧ m'.commands = m.commands := by
  unfold merge at h
  cases hr : m.registry.merge batch with
  | error f =>
    rw [hr] at h
    cases h
  | ok merged =>
    rw [hr] at h
    cases h
    exact ⟨rfl, rfl⟩

/-- A call that ends puts what it brings after the tasks of the table. -/
theorem call_eq_ok {m m' : Manager} {c : Call} {n : Nat} {w w' : World} (h : m.call c w = .ok (m', n) w') :
    ∃ batch, c.brings w = .ok batch w' ∧ m.registry.Fresh batch ∧
      m'.registry.table.toList = m.registry.table.toList ++ Registry.entriesOf batch ∧ n = batch.length ∧
      m'.commands = m.commands := by
  rw [call_eq] at h
  obtain ⟨batch, w₁, hbrings, h⟩ := bind_eq_ok h
  obtain ⟨hmerge, rfl⟩ := ofExcept_eq_ok h
  obtain ⟨hr, hcommands⟩ := merge_eq_ok hmerge
  obtain ⟨hfresh, htable, hn⟩ := Registry.merge_eq_ok hr
  exact ⟨batch, hbrings, hfresh, htable, hn, hcommands⟩

theorem merge_eq_error_iff (m : Manager) (batch : List Task) (f : Failure) :
    m.merge batch = .error f ↔ ∃ t, m.registry.FirstTaken batch t ∧ f = .duplicateTask t.name := by
  rw [← Registry.merge_eq_error_iff]
  unfold merge
  cases m.registry.merge batch with
  | error f' =>
    constructor <;> intro h <;> cases h <;> rfl
  | ok merged =>
    constructor <;> intro h <;> cases h

/-- A call is stopped while it brings its tasks, or because one of them has a key that is taken. -/
theorem call_eq_error {m : Manager} {c : Call} {stop : Stop} {w w' : World} (h : m.call c w = .error stop w') :
    c.brings w = .error stop w' ∨
      ∃ batch t, c.brings w = .ok batch w' ∧ m.registry.FirstTaken batch t ∧ stop = .failure (.duplicateTask t.name) := by
  rw [call_eq] at h
  refine (bind_eq_error h).imp_right ?_
  rintro ⟨batch, w₁, hbrings, h⟩
  obtain ⟨f, hmerge, rfl, rfl⟩ := ofExcept_eq_error h
  obtain ⟨t, ht, rfl⟩ := (merge_eq_error_iff m batch f).1 hmerge
  exact ⟨batch, t, hbrings, ht, rfl⟩

/-- A call leaves the manager that it gives, or the one that it was made on. -/
theorem afterCall_eq (m : Manager) (c : Call) (w : World) :
    m.afterCall c w = match m.call c w with
      | .ok (m', _) _ => m'
      | .error _ _ => m := by
  unfold afterCall
  rw [perform_apply]
  cases m.call c w <;> rfl

/-- A task of the table was there before a call, or the call has brought it. -/
theorem mem_afterCall {m : Manager} {c : Call} {w : World} {entry : String × Task}
    (h : entry ∈ (m.afterCall c w).registry.table.toList) :
    entry ∈ m.registry.table.toList ∨ ∃ batch w', c.brings w = .ok batch w' ∧ entry.2 ∈ batch := by
  rw [afterCall_eq] at h
  cases hc : m.call c w with
  | error stop w' =>
    rw [hc] at h
    exact .inl h
  | ok result w' =>
    rw [hc] at h
    obtain ⟨batch, hbrings, -, htable, -⟩ := call_eq_ok hc
    dsimp only at h
    rw [htable, List.mem_append] at h
    refine h.imp_right fun hnew => ?_
    obtain ⟨t, ht, rfl⟩ := List.mem_map.1 hnew
    exact ⟨batch, w', hbrings, ht⟩

/-- A task of the table was there before a history, or one of its calls has brought it. -/
theorem mem_afterCalls {m : Manager} {history : List (Call × World)} {entry : String × Task}
    (h : entry ∈ (m.afterCalls history).registry.table.toList) : entry ∈ m.registry.table.toList ∨
      ∃ c ∈ history, ∃ batch w', c.1.brings c.2 = .ok batch w' ∧ entry.2 ∈ batch := by
  induction history generalizing m with
  | nil => exact .inl h
  | cons first rest ih =>
    rcases ih h with he | ⟨later, hlater, hbrings⟩
    · refine (mem_afterCall he).imp_right ?_
      rintro ⟨batch, w', hbrings⟩
      exact ⟨first, List.mem_cons_self, batch, w', hbrings⟩
    · exact .inr ⟨later, List.mem_cons_of_mem _ hlater, hbrings⟩

/-- What comes to a table comes after what is there. -/
theorem toList_prefix_afterCall (m : Manager) (c : Call) (w : World) :
    m.registry.table.toList <+: (m.afterCall c w).registry.table.toList := by
  rw [afterCall_eq]
  cases hc : m.call c w with
  | error stop w' => exact List.prefix_rfl
  | ok result w' =>
    obtain ⟨batch, -, -, htable, -⟩ := call_eq_ok hc
    exact ⟨_, htable.symm⟩

theorem toList_prefix_afterCalls (m : Manager) (history : List (Call × World)) :
    m.registry.table.toList <+: (m.afterCalls history).registry.table.toList := by
  induction history generalizing m with
  | nil => exact List.prefix_rfl
  | cons first rest ih => exact (toList_prefix_afterCall m first.1 first.2).trans (ih _)

/-- The entries of a table are under the keys of their tasks, and no key has two of them. -/
structure Filed (m : Manager) : Prop where
  single : m.registry.table.Single
  keys : ∀ entry ∈ m.registry.table.toList, entry.1 = entry.2.key

/-- Tasks that are new keep a table in order. -/
theorem Filed.of_append {m m' : Manager} (h : m.Filed) {batch : List Task} (hfresh : m.registry.Fresh batch)
    (htable : m'.registry.table.toList = m.registry.table.toList ++ Registry.entriesOf batch) : m'.Filed where
  single := by
    have hkeys : m'.registry.table.keys = m.registry.table.keys ++ batch.map Task.key := by
      rw [Assoc.keys, htable, List.map_append, Registry.keys_entriesOf]
      rfl
    rw [Assoc.Single, hkeys]
    exact List.nodup_append.2 ⟨h.single, hfresh.nodup, fun key hkey other hother he =>
      hfresh.not_mem_keys hother (he ▸ hkey)⟩
  keys := by
    intro entry he
    rw [htable, List.mem_append] at he
    rcases he with he | he
    · exact h.keys entry he
    · obtain ⟨t, -, rfl⟩ := List.mem_map.1 he
      rfl

/-- One call keeps a table in order. -/
theorem Filed.afterCall {m : Manager} (h : m.Filed) (c : Call) (w : World) : (m.afterCall c w).Filed := by
  rw [afterCall_eq]
  cases hc : m.call c w with
  | error stop w' => exact h
  | ok result w' =>
    obtain ⟨batch, -, hfresh, htable, -⟩ := call_eq_ok hc
    exact h.of_append hfresh htable

theorem Filed.afterCalls {m : Manager} (h : m.Filed) (history : List (Call × World)) : (m.afterCalls history).Filed := by
  induction history generalizing m with
  | nil => exact h
  | cons first rest ih => exact ih (h.afterCall first.1 first.2)

/-- The table of a manager after any history of calls, and what one more call does in any state. Every key is the key of its task,
which is its name in lower case, and no key is there twice. A call that ends has put the tasks that it brings after the others, in
their order, and gives their number. A batch is refused if and only if one of its tasks has the key of a task of the table or of an
earlier one of the batch; the refusal names the first such task as it is spelled. A call that is stopped, while it brings its tasks
or by that refusal, leaves the manager as it was. -/
theorem table_of_calls (commands : CommandSettings) (history : List (Call × World)) :
    let m := (⟨commands, Registry.empty⟩ : Manager).afterCalls history
    (m.registry.table.Single ∧
      ∀ key t, m.registry.table.find? key = some t → t.key = key ∧ key = Text.lower t.name) ∧
    (∀ c w m' n w', m.call c w = .ok (m', n) w' → c.perform (m, w) = .ok n (m', w') ∧
      ∃ batch, c.brings w = .ok batch w' ∧ n = batch.length ∧ m'.commands = m.commands ∧
        m'.registry.table.toList = m.registry.table.toList ++ batch.map fun t => (t.key, t)) ∧
    (∀ batch f, m.merge batch = .error f ↔ ∃ t, m.registry.FirstTaken batch t ∧ f = .duplicateTask t.name) ∧
    ∀ c w stop w', m.call c w = .error stop w' → c.perform (m, w) = .error stop (m, w') ∧
      (c.brings w = .error stop w' ∨
        ∃ batch t, c.brings w = .ok batch w' ∧ m.registry.FirstTaken batch t ∧ stop = .failure (.duplicateTask t.name)) := by
  intro m
  have hfiled : m.Filed := Filed.afterCalls ⟨Assoc.single_empty, fun _ h => absurd h List.not_mem_nil⟩ history
  refine ⟨⟨hfiled.single, fun key t ht => ?_⟩, fun c w m' n w' h => ?_, merge_eq_error_iff m, fun c w stop w' h => ?_⟩
  · have hkey : key = t.key := hfiled.keys _ (Assoc.mem_toList_of_find? ht)
    exact ⟨hkey.symm, hkey⟩
  · obtain ⟨batch, hbrings, -, htable, hn, hcommands⟩ := call_eq_ok h
    exact ⟨by rw [perform_apply, h], batch, hbrings, hn, hcommands, htable⟩
  · exact ⟨by rw [perform_apply, h], call_eq_error h⟩

namespace Refused

/-- A task of a name that does nothing. -/
def task (name : String) : Task := ⟨name, none, .steps [], ⟨1, []⟩, 0⟩

def world : World := World.initial ⟨FileSystem.empty, ⟨[], 0⟩, ⟨[], []⟩, Assoc.empty⟩ ["runner"]

/-- A task comes under another key than its own, and a batch is refused that has it in another spelling. -/
def history : List (Call × World) :=
  [(.merge ⟨[("other", task "Build")]⟩, world), (.merge ⟨[("test", task "test"), ("build", task "BUILD")]⟩, world)]

def manager : Manager := (⟨⟨.null, false⟩, Registry.empty⟩ : Manager).afterCalls history

theorem keys_manager : manager.registry.table.keys = ["build"] := by decide +kernel

/-- The first task of the batch is new, the second is not. -/
theorem firstTaken : manager.registry.FirstTaken [task "test", task "BUILD"] (task "BUILD") := by
  have htest : (task "test").key = "test" := by decide +kernel
  have hbuild : (task "BUILD").key = "build" := by decide +kernel
  refine ⟨[task "test"], [], rfl, .inl ?_, (Registry.fresh_nil _).snoc ?_⟩
  · rw [keys_manager, hbuild]
    exact List.mem_singleton_self _
  · rintro (h | ⟨u, hu, -⟩)
    · rw [keys_manager, htest] at h
      exact absurd h (by decide)
    · cases hu

end Refused

open Refused in
/-- Nothing of a batch that is refused comes into the table, and the batch is refused again after that. -/
theorem table_of_calls_refused :
    manager.registry.table.keys = ["build"] ∧ manager.merge [task "test", task "BUILD"] = .error (.duplicateTask "BUILD") :=
  ⟨keys_manager, ((table_of_calls ⟨.null, false⟩ history).2.2.1 _ _).2 ⟨task "BUILD", firstTaken, rfl⟩⟩

end Manager
end TaskRunner
