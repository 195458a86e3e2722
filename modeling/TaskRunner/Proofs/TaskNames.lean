import TaskRunner.Proofs.OriginDirectories
import TaskRunner.Proofs.RefusedRequests

/-!
# The names of tasks

A name is put into lower case in many places: when a task is declared, when a decorator is applied, when a batch is merged, when a
task is looked up. They agree, whatever a manager has loaded and merged (`Manager.names_agree_in_any_case`): a name that differs from
that of a task in the case of ASCII letters alone stands for this task everywhere (`Manager.StandsFor`), and a name whose lower form
is the key of no task stands for none (`Manager.Unknown`).
-/

namespace TaskRunner

open Run

namespace Manager

variable {m : Manager} {t : Task} {name : String} {w w' : World} {c : Call} {batch : List Task}

/-- Runs the body of a task in its directory. -/
def invoke (m : Manager) (host : Host) (depth : Nat) (t : Task) (args : List Data) : Run Value := fun w =>
  withDirectory t.directory (m.contextOf host depth t args).execute (w.dispatching t args)

/-- A name stands for a task with a manager. The task is found under it and is the one that runs, from outside and from any body. No
other task can have the name: not in a Runfile that has declared or reserved its key already, and not in one that is loaded or in a
mapping that is merged, which is refused for the first task whose key is taken. -/
structure StandsFor (m : Manager) (name : String) (t : Task) : Prop where
  contains : m.registry.contains name = true
  find? : m.registry.find? name = some t
  runs : ∀ host depth args w, m.runTask host (depth + 1) name args w = m.invoke host depth t args w
  runsWithin : ∀ host depth task given a args w, (m.contextOf host (depth + 1) task given).asks a w = some (name, args) →
    (m.contextOf host (depth + 1) task given).perform a w = m.invoke host depth t args w
  begins : ∀ call b, call.name = name → m.begins call = some b → b.task = t
  declared : ∀ w scope s body, w.scopes[scope]? = some s → s.declarations.closed = false →
    s.declarations.isTaken t.key = true → Runfile.declare scope name body w = .error (.failure (.duplicateTask name)) w
  applied : ∀ w scope s r body, w.scopes[scope]? = some s → s.declarations.closed = false → r.name = name →
    body.isCallable = true → t.key ∈ s.declarations.committed.keys →
      outcome (Runfile.decorate scope r body) w = .error (.failure (.duplicateTask name))
  brought : ∀ (c : Call) w w' earlier t' later, c.brings w = .ok (earlier ++ t' :: later) w' → t'.name = name →
    ∃ first, m.registry.FirstTaken (earlier ++ t' :: later) first ∧ (m.registry.Fresh earlier → first = t') ∧
      c.perform (m, w) = .error (.failure (.duplicateTask first.name)) (m, w')

/-- A name stands for no task with a manager: nothing is found under it, and to run it, from outside or from any body, fails without
any effect, in the name as it is spelled. -/
structure Unknown (m : Manager) (name : String) : Prop where
  contains : m.registry.contains name = false
  find? : m.registry.find? name = none
  runs : ∀ host depth args w, m.runTask host (depth + 1) name args w = .error (.failure (.unknownTask name)) w
  runsWithin : ∀ host depth task given a args w, (m.contextOf host (depth + 1) task given).asks a w = some (name, args) →
    (m.contextOf host (depth + 1) task given).perform a w = .error (.failure (.unknownTask name)) w
  begins : ∀ call, call.name = name → m.begins call = none

/-! ## One key -/

/-- The one task of a key is found under every name that has the key. -/
theorem Filed.find?_of_mem (h : m.Filed) (ht : t ∈ m.registry.tasks) (hkey : keyOf name = t.key) :
    m.registry.find? name = some t := by
  obtain ⟨entry, he, rfl⟩ := List.mem_map.1 ht
  rw [Registry.find?, hkey, ← h.keys entry he]
  exact Assoc.find?_of_mem h.single he

theorem Filed.find?_eq_none (h : m.Filed) (hnone : ∀ t ∈ m.registry.tasks, t.key ≠ keyOf name) : m.registry.find? name = none := by
  cases hfind : m.registry.find? name with
  | none => rfl
  | some t =>
    have he := Assoc.mem_toList_of_find? hfind
    exact absurd (h.keys _ he).symm (hnone t (List.mem_map_of_mem he))

theorem contains_eq_isSome (r : Registry) (name : String) : r.contains name = (r.find? name).isSome := rfl

/-- A call is refused for the first task that it brings whose key is taken. -/
theorem perform_of_firstTaken (hbrings : c.brings w = .ok batch w') (ht : m.registry.FirstTaken batch t) :
    c.perform (m, w) = .error (.failure (.duplicateTask t.name)) (m, w') := by
  have hmerge : m.merge batch = .error (.duplicateTask t.name) := (merge_eq_error_iff m batch _).2 ⟨t, ht, rfl⟩
  rw [perform_apply, call_eq, bind_ok hbrings, hmerge]
  rfl

/-- A name whose key is that of a task stands for the task. -/
theorem Filed.standsFor (h : m.Filed) (ht : t ∈ m.registry.tasks) (hkey : keyOf name = t.key) : m.StandsFor name t := by
  have hfind : m.registry.find? name = some t := h.find?_of_mem ht hkey
  refine ⟨?_, hfind, fun host depth args w => runTask_eq host depth args w hfind, ?_, ?_, ?_, ?_, ?_⟩
  · rw [contains_eq_isSome, hfind]
    rfl
  · intro host depth task given a args w hasks
    exact (perform_of_asks hasks).trans (runTask_eq host depth args w hfind)
  · rintro call b rfl hb
    exact Option.some.inj ((begins_eq_some hb).2.1.symm.trans hfind)
  · intro w scope s body hs hopen htaken
    rw [Runfile.declare_apply hs, Declarations.declare_taken hopen body (by rw [hkey]; exact htaken)]
    exact congrArg _ (Runfile.withDeclarations_self hs)
  · rintro w scope s r body hs hopen rfl hbody hcommitted
    have hcontains : (s.declarations.released r.key).committed.contains (keyOf r.name) = true := by
      rw [hkey]
      exact (Assoc.contains_iff_mem_keys _ _).2 hcommitted
    have hopen' : (s.declarations.released r.key).closed = false := hopen
    have hrefused := Declarations.apply_refused (Declarations.commit_duplicate hopen' r.doc hbody hcontains)
    have hx := Runfile.decorate_apply hs r body
    rw [hrefused] at hx
    exact outcome_of_error hx
  · rintro c w w' earlier t' later hbrings rfl
    have htaken : m.registry.Taken earlier t' := by
      have hmem := Assoc.mem_toList_of_find? hfind
      exact .inl (List.mem_map_of_mem hmem)
    by_cases hearlier : m.registry.Fresh earlier
    · have hfirst : m.registry.FirstTaken (earlier ++ t' :: later) t' := ⟨earlier, later, rfl, htaken, hearlier⟩
      exact ⟨t', hfirst, fun _ => rfl, perform_of_firstTaken hbrings hfirst⟩
    · rcases Registry.fresh_or_firstTaken m.registry (earlier ++ t' :: later) with hfresh | ⟨first, hfirst⟩
      · exact absurd hfresh.of_append hearlier
      · exact ⟨first, hfirst, fun hfresh => absurd hfresh hearlier, perform_of_firstTaken hbrings hfirst⟩

/-- A name whose key is that of no task stands for none. -/
theorem Filed.unknown (h : m.Filed) (hnone : ∀ t ∈ m.registry.tasks, t.key ≠ keyOf name) : m.Unknown name := by
  have hfind : m.registry.find? name = none := h.find?_eq_none hnone
  refine ⟨?_, hfind, runTask_unknown hfind, ?_, ?_⟩
  · rw [contains_eq_isSome, hfind]
    rfl
  · intro host depth task given a args w hasks
    exact (perform_of_asks hasks).trans (runTask_unknown hfind host depth args w)
  · rintro call rfl
    cases hb : m.begins call with
    | none => rfl
    | some b =>
      have hsome := (begins_eq_some hb).2.1
      rw [hfind] at hsome
      cases hsome

/-- Names after any history of loads and merges. Every name that differs from the name of a task in the case of ASCII letters alone
stands for this task, and every name whose lower form is the key of no task stands for none. -/
theorem names_agree_in_any_case (commands : CommandSettings) (history : List (Call × World)) :
    let m := (⟨commands, Registry.empty⟩ : Manager).afterCalls history
    (∀ t ∈ m.registry.tasks, ∀ name, Text.SameButAsciiCase name t.name → m.StandsFor name t) ∧
      ∀ name, (∀ t ∈ m.registry.tasks, t.key ≠ Text.lower name) → m.Unknown name := by
  intro m
  have hfiled : m.Filed := Filed.afterCalls ⟨Assoc.single_empty, fun _ h => absurd h List.not_mem_nil⟩ history
  exact ⟨fun t ht name hsame => hfiled.standsFor ht (Text.lower_eq_of_sameButAsciiCase hsame), fun name hnone => hfiled.unknown hnone⟩

namespace Cased

/-- A task whose name ends in a capital sigma, and a mapping that has another spelling of the name. -/
def history : List (Call × World) := [(.merge ⟨[("any", Refused.task "Test ΟΔΟΣ")]⟩, Refused.world)]

def manager : Manager := (⟨⟨.null, false⟩, Registry.empty⟩ : Manager).afterCalls history

def later : Call := .merge ⟨[("other", Refused.task "tEST ΟΔΟΣ")]⟩

theorem sameButAsciiCase : Text.SameButAsciiCase "tEST ΟΔΟΣ" "Test ΟΔΟΣ" := by
  unfold Text.SameButAsciiCase
  decide +kernel

end Cased

open Cased in
/-- Another spelling of the name finds the task and is refused in a mapping; a name in which the last letter is another one is not
known. -/
theorem names_agree_in_any_case_sigma :
    manager.registry.find? "tEST ΟΔΟΣ" = some (Refused.task "Test ΟΔΟΣ") ∧
      later.perform (manager, Refused.world) = .error (.failure (.duplicateTask "tEST ΟΔΟΣ")) (manager, Refused.world) ∧
      manager.registry.find? "Test οδοσ" = none := by
  obtain ⟨hstands, hunknown⟩ := names_agree_in_any_case ⟨.null, false⟩ history
  have h := hstands _ List.mem_cons_self "tEST ΟΔΟΣ" sameButAsciiCase
  obtain ⟨first, hfirst, hsame, hrefused⟩ := h.brought later Refused.world Refused.world [] (Refused.task "tEST ΟΔΟΣ") [] rfl rfl
  rw [hsame (Registry.fresh_nil _)] at hrefused
  refine ⟨h.find?, hrefused, (hunknown "Test οδοσ" fun t ht => ?_).find?⟩
  rw [List.mem_singleton.1 ht]
  decide +kernel

end Manager
end TaskRunner
