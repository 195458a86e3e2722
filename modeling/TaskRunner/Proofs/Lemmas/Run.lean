import TaskRunner.Execution

/-!
# Computations step by step

What each part of a computation does to the state it starts in, as equations on the state. A computation that ends and one that
stops both leave a state behind (`Run.after`); `Run.Keeps R` says that it stands in the relation `R` to the state before, and
follows the way a computation is put together.
-/

namespace TaskRunner
namespace Run

variable {α β : Type}

/-! ## Equations -/

@[simp] theorem pure_apply (a : α) (w : World) : (pure a : Run α) w = .ok a w := rfl

@[simp] theorem get_apply (w : World) : (get : Run World) w = .ok w w := rfl

@[simp] theorem modify_apply (f : World → World) (w : World) : (modify f : Run Unit) w = .ok () (f w) := rfl

@[simp] theorem fail_apply (f : Failure) (w : World) : (fail f : Run α) w = .error (.failure f) w := rfl

/-- What comes after a computation starts in the state that the computation leaves, if it ends. -/
theorem bind_apply (x : Run α) (f : α → Run β) (w : World) :
    (x >>= f) w = match x w with
      | .ok a w' => f a w'
      | .error stop w' => .error stop w' := by
  show EStateM.bind x f w = _
  unfold EStateM.bind
  cases x w <;> rfl

/-- What was changed before a stop stays changed when the stop is handled. -/
theorem tryCatch_apply (x : Run α) (handle : Stop → Run α) (w : World) :
    tryCatch x handle w = match x w with
      | .ok a w' => .ok a w'
      | .error stop w' => handle stop w' := by
  show EStateM.tryCatch x handle w = _
  unfold EStateM.tryCatch
  cases x w <;> rfl

theorem bind_ok {x : Run α} {w w' : World} {a : α} (h : x w = .ok a w') (f : α → Run β) : (x >>= f) w = f a w' := by
  rw [bind_apply, h]

theorem bind_error {x : Run α} {w w' : World} {stop : Stop} (h : x w = .error stop w') (f : α → Run β) :
    (x >>= f) w = .error stop w' := by
  rw [bind_apply, h]

/-- A computation followed by another ends only if both do. -/
theorem bind_eq_ok {x : Run α} {f : α → Run β} {w w' : World} {b : β} (h : (x >>= f) w = .ok b w') :
    ∃ a w₁, x w = .ok a w₁ ∧ f a w₁ = .ok b w' := by
  rw [bind_apply] at h
  cases hx : x w with
  | ok a w₁ =>
    rw [hx] at h
    exact ⟨a, w₁, rfl, h⟩
  | error stop w₁ =>
    rw [hx] at h
    cases h

/-- A computation followed by another is stopped where one of them is. -/
theorem bind_eq_error {x : Run α} {f : α → Run β} {w w' : World} {stop : Stop} (h : (x >>= f) w = .error stop w') :
    x w = .error stop w' ∨ ∃ a w₁, x w = .ok a w₁ ∧ f a w₁ = .error stop w' := by
  rw [bind_apply] at h
  cases hx : x w with
  | ok a w₁ =>
    rw [hx] at h
    exact .inr ⟨a, w₁, rfl, h⟩
  | error stop' w₁ =>
    rw [hx] at h
    cases h
    exact .inl rfl

theorem observe_apply (look : Machine → Except Failure α) (w : World) :
    observe look w = match look w.machine with
      | .ok a => .ok a w
      | .error f => .error (.failure f) w := by
  unfold observe
  rw [bind_ok (get_apply w)]
  cases look w.machine <;> rfl

theorem observe_ok {look : Machine → Except Failure α} {w : World} {a : α} (h : look w.machine = .ok a) :
    observe look w = .ok a w := by
  rw [observe_apply, h]

theorem observe_error {look : Machine → Except Failure α} {w : World} {f : Failure} (h : look w.machine = .error f) :
    observe look w = .error (.failure f) w := by
  rw [observe_apply, h]

/-- An observation that succeeds leaves the state as it is. -/
theorem observe_eq_ok {look : Machine → Except Failure α} {w w' : World} {a : α} (h : observe look w = .ok a w') :
    look w.machine = .ok a ∧ w = w' := by
  rw [observe_apply] at h
  cases hl : look w.machine with
  | ok b =>
    rw [hl] at h
    cases h
    exact ⟨rfl, rfl⟩
  | error f =>
    rw [hl] at h
    cases h

theorem ofExcept_eq_ok {x : Except Failure α} {w w' : World} {a : α} (h : ofExcept x w = .ok a w') : x = .ok a ∧ w = w' := by
  cases x with
  | ok b =>
    cases h
    exact ⟨rfl, rfl⟩
  | error f => cases h

theorem ofExcept_eq_error {x : Except Failure α} {w w' : World} {stop : Stop} (h : ofExcept x w = .error stop w') :
    ∃ f, x = .error f ∧ stop = .failure f ∧ w = w' := by
  cases x with
  | ok a => cases h
  | error f =>
    cases h
    exact ⟨f, rfl, rfl, rfl⟩

theorem change_ok {f : Machine → Except Failure Machine} {w : World} {m : Machine} (h : f w.machine = .ok m) :
    change f w = .ok () { w with machine := m } := by
  unfold change
  rw [bind_ok (get_apply w), h]
  rfl

theorem change_error {f : Machine → Except Failure Machine} {w : World} {e : Failure} (h : f w.machine = .error e) :
    change f w = .error (.failure e) w := by
  unfold change
  rw [bind_ok (get_apply w), h]
  rfl

/-- The log is set up to the level of a value, and nothing else is changed. -/
theorem setupLog_of_level {level : Data} {n : Int} (h : Log.levelOfData level = .ok n) (w : World) :
    setupLog level w = .ok () { w with log := ⟨n, w.log.handlers.filter (· ≠ .own) ++ [.own]⟩ } := by
  rw [setupLog, bind_ok (get_apply w), Log.setup_of_level h]
  rfl

/-- A value that gives no level is refused, and nothing is changed. -/
theorem setupLog_refused {level : Data} {f : Failure} (h : Log.levelOfData level = .error f) (w : World) :
    setupLog level w = .error (.failure f) w := by
  rw [setupLog, bind_ok (get_apply w), Log.setup, h]
  rfl

@[simp] theorem record_apply (e : Event) (w : World) : record e w = .ok () { w with events := w.events.push e } := rfl

@[simp] theorem cwd?_apply (w : World) : Run.cwd? w = .ok w.cwd? w := rfl

end Run

/-- The state after a message that says what the runner does. -/
def World.debugged (w : World) (logger message : String) : World :=
  { w with err := w.err ++ (w.log.render logger Log.debug message).toUTF8 }

namespace Run

variable {α β : Type}

@[simp] theorem debug_apply (logger message : String) (w : World) :
    debug logger message w = .ok () (w.debugged logger message) := rfl

/-! ## The state that is left -/

/-- The state that a computation leaves, whether it ends or stops. -/
def after (x : Run α) (w : World) : World :=
  match x w with
  | .ok _ w' | .error _ w' => w'

/-- How a computation comes out: with a value, or with what stopped it. -/
def outcome (x : Run α) (w : World) : Except Stop α :=
  match x w with
  | .ok a _ => .ok a
  | .error stop _ => .error stop

theorem after_congr {x y : Run α} {w w' : World} (h : x w = y w') : after x w = after y w' := by
  rw [after, h, after]

theorem outcome_congr {x y : Run α} {w w' : World} (h : x w = y w') : outcome x w = outcome y w' := by
  rw [outcome, h, outcome]

theorem after_of_ok {x : Run α} {w w' : World} {a : α} (h : x w = .ok a w') : after x w = w' := by
  rw [after, h]

theorem after_of_error {x : Run α} {w w' : World} {stop : Stop} (h : x w = .error stop w') : after x w = w' := by
  rw [after, h]

theorem after_bind_ok {x : Run α} {w w' : World} {a : α} (h : x w = .ok a w') (f : α → Run β) :
    after (x >>= f) w = after (f a) w' := after_congr (bind_ok h f)

theorem after_bind_error {x : Run α} {w w' : World} {stop : Stop} (h : x w = .error stop w') (f : α → Run β) :
    after (x >>= f) w = w' := after_of_error (bind_error h f)

theorem outcome_of_ok {x : Run α} {w w' : World} {a : α} (h : x w = .ok a w') : outcome x w = .ok a := by
  rw [outcome, h]

theorem outcome_of_error {x : Run α} {w w' : World} {stop : Stop} (h : x w = .error stop w') :
    outcome x w = .error stop := by
  rw [outcome, h]

/-- The value that a computation comes out with is the one that it ends with. -/
theorem eq_ok_of_outcome {x : Run α} {w : World} {a : α} (h : (outcome x w).toOption = some a) : x w = .ok a (after x w) := by
  cases hx : x w with
  | ok b w' =>
    rw [outcome_of_ok hx] at h
    cases h
    rw [after_of_ok hx]
  | error stop w' =>
    rw [outcome_of_error hx] at h
    cases h

/-- An operation followed by another succeeds only if both do. -/
theorem except_bind_eq_ok {ε : Type} {x : Except ε α} {f : α → Except ε β} {b : β} (h : (x >>= f) = .ok b) :
    ∃ a, x = .ok a ∧ f a = .ok b := by
  cases x with
  | error e => cases h
  | ok a => exact ⟨a, rfl, h⟩

theorem ok_of_toOption {ε : Type} {x : Except ε α} {a : α} (h : x.toOption = some a) : x = .ok a := by
  cases x with
  | ok b => exact congrArg Except.ok (Option.some.inj h)
  | error e => cases h

/-- The state that a computation leaves stands in a relation to the one it started in. -/
def Keeps (R : World → World → Prop) (x : Run α) : Prop := ∀ w, R w (after x w)

/-- A relation that holds of a state and itself, and of the first and the last of three if it holds from one to the next. -/
structure Preserving (R : World → World → Prop) : Prop where
  refl : ∀ w, R w w
  trans : ∀ {w w' w''}, R w w' → R w' w'' → R w w''

theorem Keeps.modify {R : World → World → Prop} {f : World → World} (h : ∀ w, R w (f w)) : Keeps R (modify f : Run Unit) := h

namespace Preserving

variable {R : World → World → Prop}

theorem pure (hR : Preserving R) (a : α) : Keeps R (pure a : Run α) := hR.refl

theorem throw (hR : Preserving R) (stop : Stop) : Keeps R (throw stop : Run α) := hR.refl

theorem fail (hR : Preserving R) (f : Failure) : Keeps R (Run.fail f : Run α) := hR.refl

theorem ofExcept (hR : Preserving R) (r : Except Failure α) : Keeps R (Run.ofExcept r) := by
  cases r
  · exact hR.refl
  · exact hR.refl

theorem get (hR : Preserving R) : Keeps R (MonadState.get : Run World) := hR.refl

theorem bind (hR : Preserving R) {x : Run α} {f : α → Run β} (hx : Keeps R x) (hf : ∀ a, Keeps R (f a)) :
    Keeps R (x >>= f) := by
  intro w
  have h := hx w
  cases hxw : x w with
  | ok a w' =>
    rw [after_of_ok hxw] at h
    rw [after, bind_ok hxw]
    exact hR.trans h (hf a w')
  | error stop w' =>
    rw [after_of_error hxw] at h
    rw [after, bind_error hxw]
    exact h

theorem tryCatch (hR : Preserving R) {x : Run α} {handle : Stop → Run α} (hx : Keeps R x)
    (hh : ∀ stop, Keeps R (handle stop)) : Keeps R (tryCatch x handle) := by
  intro w
  have h := hx w
  cases hxw : x w with
  | ok a w' =>
    rw [after_of_ok hxw] at h
    rw [after, tryCatch_apply, hxw]
    exact h
  | error stop w' =>
    rw [after_of_error hxw] at h
    rw [after, tryCatch_apply, hxw]
    exact hR.trans h (hh stop w')

theorem observe (hR : Preserving R) (look : Machine → Except Failure α) : Keeps R (Run.observe look) := by
  intro w
  cases h : look w.machine with
  | ok a =>
    rw [after_of_ok (observe_ok h)]
    exact hR.refl w
  | error f =>
    rw [after_of_error (observe_error h)]
    exact hR.refl w

/-- A change of the machine keeps what every successful change keeps. -/
theorem change (hR : Preserving R) {f : Machine → Except Failure Machine}
    (h : ∀ w m, f w.machine = .ok m → R w { w with machine := m }) : Keeps R (Run.change f) := by
  intro w
  cases hf : f w.machine with
  | ok m =>
    rw [after_of_ok (change_ok hf)]
    exact h w m hf
  | error e =>
    rw [after_of_error (change_error hf)]
    exact hR.refl w

end Preserving
end Run
end TaskRunner
