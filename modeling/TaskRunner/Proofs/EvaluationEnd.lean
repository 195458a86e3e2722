import TaskRunner.Proofs.ClosedDeclarations

/-!
# How an evaluation ends

The first evaluation of a Runfile ends in one of six ways, and `Ends` says in which one: what the Runfile stops with decides, and
where it does not stop, the decorators that are outstanding (`Runfile.evaluate_ends_once`). A decorator is outstanding as long as
none of its key has been applied since it was handed out, whatever came of the application; they are in the order in which they were
handed out, so that a name that is declared again goes to the end (`Declarations.outstanding`).
-/

namespace TaskRunner

open Run

namespace Declarations

/-! ## Outstanding decorators -/

/-- Whether a request applies a decorator of a key. -/
def settles : Request → String → Bool
  | .apply r _, key => r.key == key
  | .describe _, _ | .declare _ _, _ => false

/-- The decorators that a history hands out and that no later request settles, in the order in which they are handed out. -/
def outstanding : Declarations → List Request → List Reservation
  | _, [] => []
  | d, q :: rest => (d.handsOut q).filter (fun r => !rest.any (settles · r.key)) ++ outstanding (d.perform q) rest

end Declarations

/-! ## What a Runfile is stopped by -/

namespace Run

variable {α β : Type} {P : Stop → Prop}

/-- Whatever stops a computation has a property. -/
def StoppedBy (P : Stop → Prop) (x : Run α) : Prop := ∀ w stop, outcome x w = .error stop → P stop

theorem StoppedBy.ended {x : Run α} (h : ∀ w, ∃ a w', x w = .ok a w') : StoppedBy P x := by
  intro w stop hstop
  obtain ⟨a, w', hx⟩ := h w
  rw [outcome_of_ok hx] at hstop
  cases hstop

theorem StoppedBy.pure (a : α) : StoppedBy P (pure a : Run α) := .ended fun w => ⟨a, w, rfl⟩

theorem StoppedBy.get : StoppedBy P (get : Run World) := .ended fun w => ⟨w, w, rfl⟩

theorem StoppedBy.modify (f : World → World) : StoppedBy P (modify f : Run Unit) := .ended fun w => ⟨(), f w, rfl⟩

theorem StoppedBy.throw {stop : Stop} (h : P stop) : StoppedBy P (throw stop : Run α) := by
  intro w stop' hstop
  cases hstop
  exact h

theorem StoppedBy.bind {x : Run α} {f : α → Run β} (hx : StoppedBy P x) (hf : ∀ a, StoppedBy P (f a)) :
    StoppedBy P (x >>= f) := by
  intro w stop hstop
  cases h : x w with
  | ok a w' =>
    rw [outcome_congr (bind_ok h f)] at hstop
    exact hf a w' stop hstop
  | error stop' w' =>
    rw [outcome_of_error (bind_error h f)] at hstop
    cases hstop
    exact hx w stop (outcome_of_error h)

theorem StoppedBy.tryCatch {x : Run α} {handle : Stop → Run α} (hx : StoppedBy P x)
    (hh : ∀ stop, P stop → StoppedBy P (handle stop)) : StoppedBy P (tryCatch x handle) := by
  intro w stop hstop
  cases h : x w with
  | ok a w' =>
    rw [outcome, tryCatch_apply, h] at hstop
    cases hstop
  | error stop' w' =>
    rw [outcome, tryCatch_apply, h] at hstop
    exact hh stop' (hx w stop' (outcome_of_error h)) w' stop hstop

/-- A result that is a failure stops with it. -/
theorem StoppedBy.ofExcept {r : Except Failure α} (h : ∀ f, r = .error f → P (.failure f)) : StoppedBy P (Run.ofExcept r) := by
  cases r with
  | ok a => exact .pure a
  | error f => exact .throw (h f rfl)

theorem StoppedBy.observe {look : Machine → Except Failure α} (h : ∀ m f, look m = .error f → P (.failure f)) :
    StoppedBy P (Run.observe look) := StoppedBy.get.bind fun w => .ofExcept (h w.machine)

end Run

namespace Runfile

open Declarations

section stops

variable {P : Stop → Prop} (scope : ScopeId)

theorem stoppedBy_declarations : StoppedBy P (Run.declarations scope) := .ended fun w => ⟨_, w, declarations_apply scope w⟩

theorem stoppedBy_putDeclarations (d : Declarations) : StoppedBy P (Run.putDeclarations scope d) := .modify _

theorem stoppedBy_announce (t : Task) : StoppedBy P (announce t) := .ended fun w => ⟨_, _, debug_apply _ _ w⟩

variable (hP : ∀ f, P (.failure f))

include hP

theorem stoppedBy_describe (text : String) : StoppedBy P (describe scope text) :=
  (stoppedBy_declarations scope).bind fun _ => (StoppedBy.ofExcept fun f _ => hP f).bind fun _ =>
    (stoppedBy_putDeclarations scope _).bind fun _ => .pure _

theorem stoppedBy_declare (name : String) (body : Option Body) : StoppedBy P (declare scope name body) := by
  refine (stoppedBy_declarations scope).bind fun d => (stoppedBy_putDeclarations scope _).bind fun _ =>
    (StoppedBy.ofExcept fun f _ => hP f).bind fun declared => ?_
  cases declared with
  | task t => exact (stoppedBy_announce t).bind fun _ => .pure _
  | reservation r => exact .pure _

theorem stoppedBy_decorate (r : Reservation) (body : Body) : StoppedBy P (decorate scope r body) :=
  (stoppedBy_declarations scope).bind fun _ => (stoppedBy_putDeclarations scope _).bind fun _ =>
    (StoppedBy.ofExcept fun f _ => hP f).bind fun t => (stoppedBy_announce t).bind fun _ => .pure _

theorem stoppedBy_call (f : Value) (args : List Body) : StoppedBy P (call f args) := by
  have hfail (e : Failure) : StoppedBy P (Run.fail e : Run Value) := .throw (hP e)
  unfold call
  split
  · exact .pure _
  · split
    · exact hfail _
    · exact stoppedBy_describe _ hP _
    · exact hfail _
  · split
    · exact hfail _
    · exact stoppedBy_declare _ hP _ _
    · exact stoppedBy_declare _ hP _ _
    · exact hfail _
  · split
    · exact hfail _
    · exact stoppedBy_decorate _ hP _ _
    · exact hfail _
  · exact hfail _

theorem stoppedBy_lookup (name : String) : StoppedBy P (lookup scope name) := by
  have hbindings : StoppedBy P (Run.bindings scope) := .ended fun w => ⟨_, w, rfl⟩
  refine hbindings.bind fun names => ?_
  split
  · exact .pure _
  · exact .throw (hP _)

theorem stoppedBy_callNamed (name : String) (args : List Body) : StoppedBy P (callNamed scope name args) :=
  (stoppedBy_lookup scope hP name).bind fun f => stoppedBy_call hP f args

theorem stoppedBy_declareAll (names : List Data) : StoppedBy P (declareAll scope names) := by
  induction names with
  | nil => exact .pure _
  | cons name rest ih => exact (stoppedBy_callNamed scope hP "run" _).bind fun _ => ih.bind fun _ => .pure _

theorem stoppedBy_decorateAll (body : Body) (vs : List Value) : StoppedBy P (decorateAll body vs) := by
  induction vs with
  | nil => exact .pure _
  | cons v rest ih => exact (stoppedBy_call hP v _).bind fun _ => ih

theorem stoppedBy_handled (handle : String) : StoppedBy P (handled handle) := by
  refine StoppedBy.get.bind fun w => ?_
  split
  · exact .pure _
  · exact .throw (hP _)

end stops

mutual

theorem stoppedBy_execute {P : Stop → Prop} (hP : ∀ f, P (.failure f)) (hraised : ∀ label args, P (.ofLabel label args))
    (scope : ScopeId) (st : Statement) : StoppedBy P (execute scope st) := by
  cases st with
  | doc text => exact (stoppedBy_callNamed scope hP "doc" _).bind fun _ => .pure _
  | run name body => exact (stoppedBy_callNamed scope hP "run" _).bind fun _ => .pure _
  | declare name handle => exact (stoppedBy_callNamed scope hP "run" _).bind fun _ => .modify _
  | apply handle body => exact (stoppedBy_handled hP handle).bind fun v => (stoppedBy_call hP v _).bind fun _ => .pure _
  | deco names body => exact (stoppedBy_declareAll scope hP names).bind fun vs => stoppedBy_decorateAll hP body _
  | set name value => exact .modify _
  | define name => exact .modify _
  | get name => exact (stoppedBy_lookup scope hP name).bind fun _ => .modify _
  | raise label args => exact .throw (hraised label args)
  | attempt body =>
    refine (stoppedBy_executeAll hP hraised scope body).tryCatch fun stop hstop => ?_
    cases stop with
    | failure f => exact .modify _
    | interrupt | exit | exhausted => exact .throw hstop
  | print text => exact .modify _
  | chdir path => exact StoppedBy.get.bind fun w => (StoppedBy.ofExcept fun e _ => hP e).bind fun _ => .modify _

theorem stoppedBy_executeAll {P : Stop → Prop} (hP : ∀ f, P (.failure f)) (hraised : ∀ label args, P (.ofLabel label args))
    (scope : ScopeId) (sts : List Statement) : StoppedBy P (executeAll scope sts) := by
  cases sts with
  | nil => exact .pure _
  | cons st rest => exact (stoppedBy_execute hP hraised scope st).bind fun _ => stoppedBy_executeAll hP hraised scope rest

end

section evaluate

variable {directory path : Path} {scope : ScopeId} {w w₀ : World}

/-- A way in which an evaluation ends. -/
inductive Ending where
  /-- A failure of the runner's own goes out as it is. -/
  | escaped (f : Failure)
  /-- Any other failure goes out as one to load the Runfile. -/
  | wrapped (f : Failure)
  | interrupted (args : List Data)
  | exited (args : List Data)
  /-- A decorator has not been applied. -/
  | unfinished (r : Reservation)
  | listed (tasks : List Task)

/-- How an evaluation of the Runfile at a path comes out. -/
def Ending.comesOut (path : Path) : Ending → Except Stop (List Task)
  | .escaped f => .error (.failure f)
  | .wrapped f => .error (.failure (.load path f.label f.message true))
  | .interrupted args => .error (.interrupt args)
  | .exited args => .error (.exit args)
  | .unfinished r => .error (.failure (.illFormedTask r.name "has no body"))
  | .listed tasks => .ok tasks

/-- In which way an evaluation ends, by how the reading and the statements of the Runfile have come out and by what has been asked of
its declarations: only if nothing stops the Runfile does it matter which decorators are outstanding, and then the one that was handed
out first is named. -/
inductive Ends (first : Declarations) (history : List Request) : Except Stop Unit → Ending → Prop where
  | escaped {f : Failure} (hown : f.isOwn = true) : Ends first history (.error (.failure f)) (.escaped f)
  | wrapped {f : Failure} (hother : f.isOwn = false) : Ends first history (.error (.failure f)) (.wrapped f)
  | interrupted (args : List Data) : Ends first history (.error (.interrupt args)) (.interrupted args)
  | exited (args : List Data) : Ends first history (.error (.exit args)) (.exited args)
  | unfinished {r : Reservation} {later : List Reservation} (h : first.outstanding history = r :: later) :
      Ends first history (.ok ()) (.unfinished r)
  | listed (h : first.outstanding history = []) : Ends first history (.ok ()) (.listed (first.performAll history).tasks)

/-- There is at most one way to end. -/
theorem Ends.unique {first : Declarations} {history : List Request} {result : Except Stop Unit} {e e' : Ending}
    (h : Ends first history result e) (h' : Ends first history result e') : e' = e := by
  cases h with
  | escaped hown =>
    cases h' with
    | escaped => rfl
    | wrapped hother =>
      rw [hown] at hother
      cases hother
  | wrapped hother =>
    cases h' with
    | escaped hown =>
      rw [hown] at hother
      cases hother
    | wrapped => rfl
  | interrupted args =>
    cases h'
    rfl
  | exited args =>
    cases h'
    rfl
  | unfinished hr =>
    cases h' with
    | unfinished hr' =>
      rw [hr] at hr'
      cases hr'
      rfl
    | listed hnone =>
      rw [hr] at hnone
      cases hnone
  | listed hnone =>
    cases h' with
    | unfinished hr' =>
      rw [hnone] at hr'
      cases hr'
    | listed => rfl

end evaluate

namespace Reordered

open AtRoot

/-- A decorator is handed out before the evaluation, and is given what is no body. -/
def earlier : List Request := [.declare "Lint" none, .apply ⟨"lint", "Lint", none⟩ (.data (.int 5))]

/-- The first of two names is settled in vain and declared again. -/
def statements : List Statement :=
  [.declare (.text "Build") "b", .declare (.text "Test") "t", .attempt [.apply "b" (.data (.int 5))], .declare (.text "BUILD") "b"]

def opening : World := opened (world statements) []

def state : World := afterRequests 0 earlier opening

theorem applies (r : Reservation) (body : Body) (h : .apply r body ∈ earlier) :
    r ∈ (opening.declarationsOf 0).returned earlier := by
  have hreturned : (opening.declarationsOf 0).returned earlier = [⟨"lint", "Lint", none⟩] := by decide +kernel
  rw [hreturned]
  rcases List.mem_cons.1 h with h | h
  · cases h
  · cases List.mem_singleton.1 h
    exact List.mem_singleton_self _

end Reordered

end Runfile
end TaskRunner
