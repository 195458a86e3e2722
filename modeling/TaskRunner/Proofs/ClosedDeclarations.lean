import TaskRunner.Proofs.DeclarationState
import TaskRunner.Proofs.Lemmas.Steps

/-!
# Declarations after the evaluation

However the evaluation of a Runfile ends, its declarations are closed by then (`Runfile.evaluate_closes_declarations`): every later
request is refused, whoever makes it, and a second evaluation too; the tasks that are listed and the documentation that waits stay
as they are. The later attempts may come from outside or from the steps of tasks, at any depth; a manager that has taken the tasks in
keeps them in its table.
-/

namespace TaskRunner

open Run

namespace Declarations

variable {d d' d'' : Declarations}

/-- Closed declarations that list the same tasks as others and hold the same documentation. -/
structure Sealed (d d' : Declarations) : Prop where
  closed : d'.closed = true
  tasks : d'.tasks = d.tasks
  pending : d'.pending = d.pending

theorem Sealed.trans (h : Sealed d d') (h' : Sealed d' d'') : Sealed d d'' :=
  ⟨h'.closed, h'.tasks.trans h.tasks, h'.pending.trans h.pending⟩

/-- Closed declarations refuse every request, and a refused application at most gives a reservation up. -/
theorem closed_answer (h : d.closed = true) (q : Request) :
    (d.answer q).1 = .refused .closed ∧ Sealed d (d.perform q) := by
  have hsame : Sealed d d := ⟨h, rfl, rfl⟩
  cases q with
  | describe text =>
    have hdescribe : d.describe text = .error .closed := by rw [describe, if_pos h]
    rw [perform, answer, hdescribe]
    exact ⟨rfl, hsame⟩
  | declare name body =>
    rw [perform, answer, declare_closed h]
    exact ⟨rfl, hsame⟩
  | apply r body =>
    have hclosed : (d.released r.key).closed = true := h
    rw [perform, answer, apply_refused (commit_closed hclosed r.name r.doc body)]
    exact ⟨rfl, ⟨h, rfl, rfl⟩⟩

end Declarations

open Declarations

/-- A scope whose declarations are closed keeps them so, with the tasks that they list and the documentation that waits. -/
def World.KeepsSealed (id : ScopeId) (w w' : World) : Prop :=
  ∀ s, w.scopes[id]? = some s → s.declarations.closed = true →
    ∃ s', w'.scopes[id]? = some s' ∧ Sealed s.declarations s'.declarations

namespace Run

theorem keepsSealed_of_eq {id : ScopeId} {w w' : World} (h : w'.scopes = w.scopes) : w.KeepsSealed id w' :=
  fun s hs hclosed => ⟨s, by rw [h, hs], hclosed, rfl, rfl⟩

/-- A change of the scopes keeps closed declarations if it does so at the scope that it changes. -/
theorem keepsSealed_modify {id scope : ScopeId} {w : World} {f : Scope → Scope}
    (h : ∀ s, w.scopes[scope]? = some s → s.declarations.closed = true → Sealed s.declarations (f s).declarations) :
    w.KeepsSealed id { w with scopes := w.scopes.modify scope f } := by
  intro s hs hclosed
  by_cases hid : scope = id
  · subst hid
    refine ⟨f s, ?_, h s hs hclosed⟩
    show (w.scopes.modify scope f)[scope]? = some (f s)
    rw [Array.getElem?_modify, if_pos rfl, hs]
    rfl
  · refine ⟨s, ?_, hclosed, rfl, rfl⟩
    show (w.scopes.modify scope f)[id]? = some s
    rw [Array.getElem?_modify, if_neg hid, hs]

/-- Nothing that a Runfile or a body does opens closed declarations again, or changes what they list and hold. -/
theorem bodily_keepsSealed (id : ScopeId) : Bodily (World.KeepsSealed id) := by
  refine bodily_of_scopes ⟨fun _ => keepsSealed_of_eq rfl, ?_⟩ keepsSealed_of_eq (fun w scope q => ?_) (fun w scope name v => ?_)
    (fun w s' => ?_) (fun w scope => ?_)
  · intro w w' w'' h h' s hs hclosed
    obtain ⟨s', hs', hsealed⟩ := h s hs hclosed
    obtain ⟨s'', hs'', hsealed'⟩ := h' s' hs' hsealed.closed
    exact ⟨s'', hs'', hsealed.trans hsealed'⟩
  · refine keepsSealed_modify fun s hs hclosed => ?_
    rw [declarationsOf_eq hs]
    exact (closed_answer hclosed q).2
  · exact keepsSealed_modify fun s _ hclosed => ⟨hclosed, rfl, rfl⟩
  · intro s hs hclosed
    refine ⟨s, ?_, hclosed, rfl, rfl⟩
    show (w.scopes.push s')[id]? = some s
    rw [Array.getElem?_push, if_neg, hs]
    exact (Array.getElem?_eq_some_iff.1 hs).1.ne
  · refine keepsSealed_modify fun s hs hclosed => ?_
    rw [declarationsOf_eq hs]
    exact ⟨rfl, rfl, rfl⟩

end Run

namespace Runfile

variable {scope : ScopeId} {path : Path} {w w₁ : World} {s : Scope}

/-! ## Requests to closed declarations -/

/-- Closed declarations refuse every request that is made to their scope. -/
theorem ask_closed (hs : w.scopes[scope]? = some s) (hclosed : s.declarations.closed = true) (q : Request) :
    outcome (ask scope q) w = .error (.failure .closed) := by
  cases q with
  | describe text =>
    have hx : ask scope (.describe text) w = _ := describe_apply hs text
    have hdescribe : s.declarations.describe text = .error .closed := by rw [Declarations.describe, if_pos hclosed]
    rw [hdescribe] at hx
    exact outcome_of_error hx
  | declare name body =>
    have hx : ask scope (.declare name body) w = _ := declare_apply hs name body
    rw [declare_closed hclosed] at hx
    exact outcome_of_error hx
  | apply r body =>
    have hx : ask scope (.apply r body) w = _ := decorate_apply hs r body
    have hreleased : (s.declarations.released r.key).closed = true := hclosed
    rw [apply_refused (commit_closed hreleased r.name r.doc body)] at hx
    exact outcome_of_error hx

/-! ## The end of an evaluation -/

/-- However an evaluation ends, the declarations have been closed by then. -/
theorem closed_after_evaluate (hs : w.scopes[scope]? = some s) (path : Path) :
    ∃ s₁, (after (evaluate scope path) w).scopes[scope]? = some s₁ ∧ s₁.declarations.closed = true := by
  rcases Bool.eq_false_or_eq_true (w.declarationsOf scope).closed with hclosed | hopen
  · rw [after_of_error (evaluate_closed hclosed path)]
    rw [declarationsOf_eq hs] at hclosed
    exact ⟨s, hs, hclosed⟩
  · -- the scope is still there, and the last that has been done to it is to close its declarations
    have hthere : scope < (after (evaluate scope path) w).scopes.size :=
      Nat.lt_of_lt_of_le (Array.getElem?_eq_some_iff.1 hs).1 (bodily_scopes.evaluate scope path w)
    obtain ⟨s₁, hs₁⟩ : ∃ s₁, (after (evaluate scope path) w).scopes[scope]? = some s₁ :=
      ⟨_, Array.getElem?_eq_getElem hthere⟩
    refine ⟨s₁, hs₁, ?_⟩
    rw [after_evaluate hopen, ended, World.withDeclarations] at hs₁
    dsimp only at hs₁
    rw [Array.getElem?_modify, if_pos rfl] at hs₁
    obtain ⟨s', -, rfl⟩ := Option.map_eq_some_iff.1 hs₁
    rfl

/-- An evaluation that ends well gives the tasks that the declarations list after it. -/
theorem evaluate_gives {tasks : List Task} (h : outcome (evaluate scope path) w = .ok tasks) :
    tasks = ((after (evaluate scope path) w).declarationsOf scope).tasks := by
  rcases Bool.eq_false_or_eq_true (w.declarationsOf scope).closed with hclosed | hopen
  · rw [outcome_of_error (evaluate_closed hclosed path)] at h
    cases h
  · rw [after_evaluate hopen]
    cases hx : loading scope path (starting scope path w) with
    | error stop w₁ =>
      rw [outcome_of_error (evaluate_of_error hopen hx)] at h
      cases h
    | ok u w₁ =>
      rw [outcome_congr (evaluate_of_ok hopen hx)] at h
      rw [after_of_ok hx]
      cases hsettle : ((ended scope w w₁).declarationsOf scope).settle with
      | ok tasks' =>
        rw [hsettle] at h
        cases h
        exact (settle_eq_ok hsettle).2
      | error f =>
        rw [hsettle] at h
        cases h

end Runfile

/-! ## Later attempts -/

/-- What the call of a function asks of which scope: the documentation, the declaration or the application that it is for. -/
def Function.asks? : Function → List Body → Option (ScopeId × Request)
  | .describe scope, [text] => some (scope, .describe text.display)
  | .declare scope, [name] => some (scope, .declare name.display none)
  | .declare scope, [name, body] => some (scope, .declare name.display (Runfile.givenBody body))
  | .decorate scope r, [body] => some (scope, .apply r body)
  | _, _ => none

/-- A well-formed call of such a function is that request. -/
theorem call_of_asks {f : Function} {args : List Body} {scope : ScopeId} {q : Request} (h : f.asks? args = some (scope, q)) :
    Runfile.call (.function f) args = Runfile.ask scope q := by
  unfold Function.asks? at h
  split at h
  · cases h; rfl
  · cases h; rfl
  · cases h; rfl
  · cases h; rfl
  · cases h

/-- What may be done to the declarations of Runfiles from outside: requests, evaluations, and the runs of tasks of any manager, whose
steps may make requests in turn. -/
inductive Attempt where
  | ask (scope : ScopeId) (q : Request)
  | evaluate (scope : ScopeId) (path : Path)
  | run (m : Manager) (host : Host) (depth : Nat) (name : String) (args : List Data)

namespace Attempt

def perform : Attempt → Run Unit
  | .ask scope q => do let _ ← Runfile.ask scope q
  | .evaluate scope path => do let _ ← Runfile.evaluate scope path
  | .run m host depth name args => do let _ ← m.runTask host depth name args

/-- A manager and the state of a run after attempts, one after the other, however each of them ends. -/
def afterAll (attempts : List Attempt) (state : Manager × World) : Manager × World :=
  attempts.foldl (fun state a =>
    match Manager.Held.apart a.perform state with
    | .ok _ state' | .error _ state' => state') state

theorem afterAll_cons (a : Attempt) (rest : List Attempt) (m : Manager) (w : World) :
    afterAll (a :: rest) (m, w) = afterAll rest (m, after a.perform w) := by
  have hapart : (match Manager.Held.apart a.perform (m, w) with
      | .ok _ state | .error _ state => state) = (m, after a.perform w) := by
    unfold Manager.Held.apart after
    dsimp only
    cases a.perform w <;> rfl
  exact congrArg (afterAll rest) hapart

variable {R : World → World → Prop}

/-- What no step, no statement and no entry breaks is not broken by attempts, and they leave the manager alone. -/
theorem afterAll_keeps (h : Bodily R)
    (hentered : ∀ w task args directory cwd, R w { w with events := w.events.push (.entered task args directory cwd) })
    (attempts : List Attempt) (m : Manager) (w : World) :
    (afterAll attempts (m, w)).1 = m ∧ R w (afterAll attempts (m, w)).2 := by
  have hperform (a : Attempt) : Keeps R a.perform := by
    cases a with
    | ask scope q =>
      cases q with
      | describe text => exact h.bind (h.describe scope text) fun _ => h.pure _
      | declare name body => exact h.bind (h.declare scope name body) fun _ => h.pure _
      | apply r body => exact h.bind (h.decorate scope r body) fun _ => h.pure _
    | evaluate scope path => exact h.bind (h.evaluate scope path) fun _ => h.pure _
    | run m host depth name args => exact h.bind (h.runTask hentered m host depth name args) fun _ => h.pure _
  induction attempts generalizing w with
  | nil => exact ⟨rfl, h.refl w⟩
  | cons a rest ih =>
    rw [afterAll_cons]
    exact (ih _).imp_right (h.trans (hperform a w))

end Attempt

namespace Context

/-- A step that calls a function for a request makes this request. -/
theorem perform_of_request {c : Context} {a : Action} {member : String} {given : List Data} {f : Function} {w : World}
    {scope : ScopeId} {q : Request} (ha : a = .call member given) (hlookup : c.lookup member w = .ok (.function f) w)
    (hasks : f.asks? (given.map .data) = some (scope, q)) : c.perform a w = Runfile.ask scope q w := by
  have hcall : c.call (.function f) given = Runfile.call (.function f) (given.map .data) := by
    cases f with
    | run | sh =>
      unfold Function.asks? at hasks
      cases hasks
    | collect | describe | declare | decorate | general => rfl
  rw [ha, ← call_of_asks hasks, ← hcall]
  exact bind_ok hlookup _

end Context

namespace Runfile

/-- Declarations after an evaluation. However it has ended, and whatever is attempted afterwards, by requests from outside, by
evaluations and by the runs of tasks: the tasks that the declarations list and the documentation that waits are those from the end of
the evaluation, and a manager is what it was. Every request is refused because the declarations are closed, which is a failure of the
runner's own, and so is every evaluation, without any effect; and every step of a task, at any depth, that calls a function for a
request to these declarations is refused in the same way. The tasks that the evaluation has given are still those that are listed, and
the table of a manager that has taken them in ends with them. -/
theorem evaluate_closes_declarations {scope : ScopeId} {w : World} {s : Scope} (hs : w.scopes[scope]? = some s) (path : Path)
    (attempts : List Attempt) (m : Manager) :
    let w₁ := after (evaluate scope path) w
    let w₂ := (Attempt.afterAll attempts (m, w₁)).2
    (Attempt.afterAll attempts (m, w₁)).1 = m ∧
    (w₂.declarationsOf scope).tasks = (w₁.declarationsOf scope).tasks ∧
    (w₂.declarationsOf scope).pending = (w₁.declarationsOf scope).pending ∧
    (∀ q, outcome (ask scope q) w₂ = .error (.failure .closed)) ∧
    (∀ path', evaluate scope path' w₂ = .error (.failure .closed) w₂) ∧
    (∀ m' host depth name args, ∀ p ∈ Manager.begunSteps m' host depth name args w₂, ∀ member given f q,
      p.step.action = .call member given → p.context.lookup member p.state = .ok (.function f) p.state →
        f.asks? (given.map .data) = some (scope, q) →
          outcome (p.context.perform p.step.action) p.state = .error (.failure .closed)) ∧
    (Failure.closed.isOwn = true ∧
      Failure.closed.message = "Task declarations are only allowed while the Runfile loads.") ∧
    ∀ tasks, outcome (evaluate scope path) w = .ok tasks → tasks = (w₂.declarationsOf scope).tasks ∧
      ∀ (before : Manager) (n : Nat), before.merge tasks = .ok (m, n) →
        m.registry.table.toList = before.registry.table.toList ++ Registry.entriesOf (w₂.declarationsOf scope).tasks := by
  intro w₁ w₂
  obtain ⟨s₁, hs₁, hclosed₁⟩ := closed_after_evaluate hs path
  obtain ⟨hm, hkeeps⟩ := Attempt.afterAll_keeps (bodily_keepsSealed scope) (fun _ _ _ _ _ => keepsSealed_of_eq rfl) attempts m w₁
  obtain ⟨s₂, hs₂, hsealed⟩ := hkeeps s₁ hs₁ hclosed₁
  have htasks : (w₂.declarationsOf scope).tasks = (w₁.declarationsOf scope).tasks := by
    rw [declarationsOf_eq hs₂, declarationsOf_eq hs₁, hsealed.tasks]
  have hpending : (w₂.declarationsOf scope).pending = (w₁.declarationsOf scope).pending := by
    rw [declarationsOf_eq hs₂, declarationsOf_eq hs₁, hsealed.pending]
  have hclosed₂ : (w₂.declarationsOf scope).closed = true := by rw [declarationsOf_eq hs₂, hsealed.closed]
  refine ⟨hm, htasks, hpending, ask_closed hs₂ hsealed.closed, evaluate_closed hclosed₂, ?_, ⟨rfl, rfl⟩, ?_⟩
  · intro m' host depth name args p hp member given f q haction hlookup hasks
    have hstep := Manager.begunSteps_keep (bodily_keepsSealed scope) (fun _ _ _ _ _ => keepsSealed_of_eq rfl) hp
    obtain ⟨s₃, hs₃, hsealed₃⟩ := hstep s₂ hs₂ hsealed.closed
    rw [outcome_congr (Context.perform_of_request haction hlookup hasks)]
    exact ask_closed hs₃ hsealed₃.closed q
  · intro tasks hok
    have hlisted : tasks = (w₂.declarationsOf scope).tasks := (evaluate_gives hok).trans htasks.symm
    refine ⟨hlisted, fun before n hmerge => ?_⟩
    rw [← hlisted]
    exact (Registry.merge_eq_ok (Manager.merge_eq_ok hmerge).1).2.1

namespace Interrupted

/-- A Runfile that is interrupted after a task, while documentation waits for another one. -/
def statements : List Statement :=
  [.run (.text "x") (.steps []), .doc (.text "d"), .raise "KeyboardInterrupt" []]

/-- The state in which it is evaluated. -/
def opening : World := opened (AtRoot.world statements) []

/-- Documentation, another evaluation and a declaration come too late. -/
def attempts : List Attempt := [.ask 0 (.describe "late"), .evaluate 0 AtRoot.path, .ask 0 (.declare "y" none)]

def manager : Manager := ⟨⟨.null, false⟩, Registry.empty⟩

def isInterrupt : Except Stop (List Task) → Bool
  | .error (.interrupt _) => true
  | _ => false

end Interrupted

open Interrupted in
/-- After an interrupt the task is still listed, the documentation still waits, and a declaration is refused. -/
theorem evaluate_closes_declarations_interrupted :
    opening.scopes.size = 1 ∧ isInterrupt (outcome (evaluate 0 AtRoot.path) opening) = true ∧
      let w₂ := (Attempt.afterAll attempts (manager, after (evaluate 0 AtRoot.path) opening)).2
      (w₂.declarationsOf 0).tasks.map Task.name = ["x"] ∧ (w₂.declarationsOf 0).pending = some "d" ∧
        outcome (ask 0 (.declare "y" none)) w₂ = .error (.failure .closed) := by
  have hs := scope_opened (AtRoot.world statements) []
  obtain ⟨-, htasks, hpending, hasked, -⟩ := evaluate_closes_declarations hs AtRoot.path attempts manager
  refine ⟨by decide +kernel, by decide +kernel, ?_, ?_, hasked _⟩
  · exact (congrArg (List.map Task.name) htasks).trans (by decide +kernel)
  · exact hpending.trans (by decide +kernel)

end Runfile
end TaskRunner
