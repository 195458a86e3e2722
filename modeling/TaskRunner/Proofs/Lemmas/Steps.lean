import TaskRunner.Proofs.OriginDirectories

/-!
# The steps of a run

A task that is run performs the steps of its body, and some of these run other tasks. `Manager.begunSteps` lists the steps that are
begun in a run, at any depth, with the states that they begin in, in the order in which they begin. A run leads from one of these
states to the next, and between them it does only what steps do by themselves (`Manager.follows_begunSteps`); so what this cannot
break holds at every step of the run (`Manager.begunSteps_keep`), and in every state that a call is made in (`Manager.calls_keep`).
-/

namespace TaskRunner

open Run

/-- A step of a body that is about to be performed. -/
structure TaskStep where
  context : Context
  step : Step
  state : World

/-- The steps of a body that are begun, each followed by those of the call that it makes, in order; `inner` gives these for a
call. -/
def Context.begunSteps (c : Context) (inner : String → List Data → World → List TaskStep) : List Step → World → List TaskStep
  | [], _ => []
  | s :: rest, w =>
    if s.action.isEnd then []
    else
      ⟨c, s, w⟩ ::
        (match c.asks s.action w with
          | some (name, args) => inner name args w
          | none => []) ++
        match c.step s w with
        | .ok _ w' => c.begunSteps inner rest w'
        | .error _ _ => []

/-- The steps that are begun while a task runs, at any depth, in order. -/
def Manager.begunSteps (m : Manager) (host : Host) : Nat → String → List Data → World → List TaskStep
  | 0, _, _, _ => []
  | depth + 1, name, args, w =>
    match m.begins ⟨depth + 1, name, args, w⟩ with
    | some b =>
      (m.contextOf host depth b.task args).begunSteps (m.begunSteps host depth) b.steps
        ((w.starting b.task args b.inside b.previous).entered b.task args)
    | none => []

/-! ## From one step to the next -/

/-- A way from a state to another one through the steps of a list: `R` leads from each step to the next, and `S` leads past what a
step does that `R` does not allow for. -/
inductive Follows (R : World → World → Prop) (S : TaskStep → World → Prop) : World → List TaskStep → World → Prop where
  | nil {w w' : World} (h : R w w') : Follows R S w [] w'
  | cons {w w₁ w' : World} {p : TaskStep} {later : List TaskStep} (h : R w p.state) (hp : S p w₁) (hlater : Follows R S w₁ later w') :
      Follows R S w (p :: later) w'

section follows

variable {R : World → World → Prop} {S : TaskStep → World → Prop} {w w₁ w' : World} {before later : List TaskStep} {p : TaskStep}

theorem Follows.sooner (hR : Preserving R) (h : R w w₁) (hf : Follows R S w₁ later w') : Follows R S w later w' := by
  cases hf with
  | nil h' => exact .nil (hR.trans h h')
  | cons h' hp hlater => exact .cons (hR.trans h h') hp hlater

theorem Follows.append (hR : Preserving R) (h : Follows R S w before w₁) (h' : Follows R S w₁ later w') :
    Follows R S w (before ++ later) w' := by
  induction h with
  | nil h => exact h'.sooner hR h
  | cons h hp _ ih => exact .cons h hp (ih h')

theorem Follows.longer (hR : Preserving R) (h : Follows R S w before w₁) (h' : R w₁ w') : Follows R S w before w' := by
  have hf := h.append hR (.nil h')
  rwa [List.append_nil] at hf

/-- A way through all steps is a way through the first of them. -/
theorem Follows.until (h : Follows R S w (before ++ p :: later) w') : Follows R S w before p.state := by
  induction before generalizing w with
  | nil =>
    cases h with
    | cons h _ _ => exact .nil h
  | cons q rest ih =>
    cases h with
    | cons h hq hrest => exact .cons h hq (ih hrest)

/-- Where nothing that is done breaks a relation, the relation leads all the way. -/
theorem Follows.keeps (hR : Preserving R) (hS : ∀ p w, S p w → R p.state w) (h : Follows R S w before w') : R w w' := by
  induction h with
  | nil h => exact h
  | cons h hp _ ih => exact hR.trans h (hR.trans (hS _ _ hp) ih)

/-! ## The steps of a body and of a run -/

variable {c : Context} {inner : String → List Data → World → List TaskStep}

/-- A name that a step binds, and no other doing of a step, may be more than a relation allows for. -/
structure Leading (R : World → World → Prop) (S : TaskStep → World → Prop) : Prop extends Stepping R where
  entered : ∀ w task args directory cwd, R w { w with events := w.events.push (.entered task args directory cwd) }
  bound : ∀ p name value, p.step.action = .set name value →
    S p (p.state.binding p.context.task.scope name (.data value))
  other : ∀ p w, (∀ name value, p.step.action ≠ .set name value) → R p.state w → S p w

/-- A step that is begun leads from its state to the one that it leaves, through the steps of the call that it makes. -/
theorem Leading.step (h : Leading R S)
    (hinner : ∀ name args w, Follows R S w (inner name args w) (Run.after (c.dispatch name args) w)) (s : Step) (w : World) :
    Follows R S w
      (⟨c, s, w⟩ :: match c.asks s.action w with
        | some (name, args) => inner name args w
        | none => [])
      (Run.after (c.step s) w) := by
  have hR : Preserving R := h.toPreserving
  have hrecorded := h.recorded c s w
  cases hasks : c.asks s.action w with
  | some call =>
    rw [after_congr (perform_of_asks hasks)] at hrecorded
    refine .cons (hR.refl w) (h.other ⟨c, s, w⟩ w (fun name value hset => ?_) (hR.refl w)) ((hinner _ _ w).longer hR hrecorded)
    rw [show s.action = _ from hset] at hasks
    cases hasks
  | none =>
    by_cases hset : ∃ name value, s.action = .set name value
    · obtain ⟨name, value, hset⟩ := hset
      have hbinding : Run.after (c.perform s.action) w = w.binding c.task.scope name (.data value) := by
        rw [hset]
        rfl
      rw [hbinding] at hrecorded
      exact .cons (hR.refl w) (h.bound ⟨c, s, w⟩ name value hset) (.nil hrecorded)
    · have hother (name : String) (value : Data) : s.action ≠ .set name value := fun he => hset ⟨name, value, he⟩
      have hstep := h.unasked (fun name value he => absurd he (hother name value)) hasks
      exact .cons (hR.refl w) (h.other ⟨c, s, w⟩ w hother (hR.refl w)) (.nil (hR.trans hstep hrecorded))

theorem Leading.steps (h : Leading R S)
    (hinner : ∀ name args w, Follows R S w (inner name args w) (Run.after (c.dispatch name args) w)) (body : List Step)
    (last : Value) (w : World) : Follows R S w (c.begunSteps inner body w) (Run.after (c.steps last body) w) := by
  have hR : Preserving R := h.toPreserving
  induction body generalizing last w with
  | nil => exact .nil (hR.refl w)
  | cons s rest ih =>
    rw [Context.begunSteps]
    rcases Bool.eq_false_or_eq_true s.action.isEnd with hend | hend
    · obtain ⟨v, hv⟩ := Context.steps_end hend last rest
      rw [hv, if_pos hend]
      exact .nil (hR.refl w)
    · have hstep := h.step hinner s w
      rw [c.steps_next hend, if_neg (by rw [hend]; exact Bool.false_ne_true)]
      cases hs : c.step s w with
      | ok v w' =>
        rw [after_of_ok hs] at hstep
        rw [after_bind_ok hs]
        exact hstep.append hR (ih v w')
      | error stop w' =>
        rw [after_of_error hs] at hstep
        rw [after_bind_error hs]
        exact hstep.append hR (.nil (hR.refl w'))

end follows

namespace Run

variable {R : World → World → Prop}

/-- To come to the first step of a body is to enter the body. -/
theorem Stepping.started (h : Stepping R)
    (hentered : ∀ w task args directory cwd, R w { w with events := w.events.push (.entered task args directory cwd) })
    (w : World) (task : Task) (args : List Data) (inside : Machine) (previous : Location) :
    R w ((w.starting task args inside previous).entered task args) :=
  h.trans (h.err w _) (h.trans (h.machine _ inside) (h.trans (h.err _ _) (hentered _ _ _ _ _)))

end Run

namespace Manager

variable {R : World → World → Prop} {S : TaskStep → World → Prop} {m : Manager} {host : Host}

/-- A run leads from each of its steps to the next. -/
theorem follows_begunSteps (h : Leading R S) (m : Manager) (host : Host) (depth : Nat) (name : String) (args : List Data) (w : World) :
    Follows R S w (m.begunSteps host depth name args w) (after (m.runTask host depth name args) w) := by
  -- by induction on the depth: the tasks that the steps of a body run are less deep
  induction depth generalizing name args w with
  | zero => exact .nil (h.refl w)
  | succ depth ih =>
    rw [begunSteps]
    cases hb : m.begins ⟨depth + 1, name, args, w⟩ with
    | none => exact .nil (keeps_of_not_begun h.toMoved hb)
    | some b =>
      obtain ⟨hrun, hp, hm, hexecute⟩ := runTask_of_begins hb host
      have hsteps := @Leading.steps R S (m.contextOf host depth b.task args) (m.begunSteps host depth) h ih b.steps .null
        ((w.starting b.task args b.inside b.previous).entered b.task args)
      have hleft := h.toMoved.directoryLeft (m.contextOf host depth b.task args).execute hp hm
      rw [← after_congr hrun] at hleft
      change R (after _ (w.starting b.task args b.inside b.previous)) _ at hleft
      rw [after_congr hexecute] at hleft
      exact (hsteps.longer h.toPreserving hleft).sooner h.toPreserving (h.started h.entered w _ _ _ _)

/-- What no step and no entry breaks holds at every step of a run. -/
theorem begunSteps_keep (h : Bodily R)
    (hentered : ∀ w task args directory cwd, R w { w with events := w.events.push (.entered task args directory cwd) })
    {depth : Nat} {name : String} {args : List Data} {w : World} {p : TaskStep} (hp : p ∈ m.begunSteps host depth name args w) :
    R w p.state := by
  have hleading : Leading R fun p w => R p.state w :=
    { h.toStepping with
      entered := hentered
      bound := fun p name value _ => h.bound p.state _ name _
      other := fun _ _ _ hR => hR }
  obtain ⟨before, later, hsplit⟩ := List.append_of_mem hp
  have hf := follows_begunSteps hleading m host depth name args w
  rw [hsplit] at hf
  exact hf.until.keeps h.toPreserving fun _ _ hS => hS

/-! ## Calls -/

/-- A call that is made by the steps of a body is made in a call that a step makes, or is this call. -/
theorem mem_calls_of_steps {c : Context} {inner : String → List Data → World → List TaskCall}
    (inner' : String → List Data → World → List TaskStep) {body : List Step} {w : World} {call : TaskCall}
    (h : call ∈ c.calls inner body w) :
    ∃ s w' name args, ⟨c, s, w'⟩ ∈ c.begunSteps inner' body w ∧ c.asks s.action w' = some (name, args) ∧
      call ∈ inner name args w' ∧ inner' name args w' ⊆ c.begunSteps inner' body w := by
  induction body generalizing w with
  | nil => cases h
  | cons s rest ih =>
    rw [Context.calls] at h
    rw [Context.begunSteps]
    split at h
    · cases h
    · rename_i hend
      rw [if_neg hend]
      rcases List.mem_append.1 h with h | h
      · cases hasks : c.asks s.action w with
        | none =>
          rw [hasks] at h
          cases h
        | some made =>
          rw [hasks] at h
          exact ⟨s, w, made.1, made.2, List.mem_append_left _ List.mem_cons_self, hasks, h,
            fun p hp => List.mem_append_left _ (List.mem_cons_of_mem _ hp)⟩
      · cases hs : c.step s w with
        | error stop w' =>
          rw [hs] at h
          cases h
        | ok v w' =>
          rw [hs] at h
          obtain ⟨t, w₁, name, args, hbegun, hasks, hcall, hsub⟩ := ih h
          exact ⟨t, w₁, name, args, List.mem_append_right _ hbegun, hasks, hcall, fun p hp => List.mem_append_right _ (hsub hp)⟩

/-- A call that is made in the run of a task is the first one, or a step of the run makes it. -/
theorem mem_calls {depth : Nat} {name : String} {args : List Data} {w : World} {call : TaskCall}
    (h : call ∈ m.calls host depth name args w) : call = ⟨depth, name, args, w⟩ ∨
      ∃ p ∈ m.begunSteps host depth name args w, p.context.asks p.step.action p.state = some (call.name, call.args) ∧
        call.state = p.state := by
  induction depth generalizing name args w with
  | zero => exact .inl (List.mem_singleton.1 h)
  | succ depth ih =>
    rw [calls] at h
    rw [begunSteps]
    rcases List.mem_cons.1 h with rfl | h
    · exact .inl rfl
    · right
      cases hb : m.begins ⟨depth + 1, name, args, w⟩ with
      | none =>
        rw [hb] at h
        cases h
      | some b =>
        rw [hb] at h
        obtain ⟨s, w', name', args', hbegun, hasks, hcall, hsub⟩ := mem_calls_of_steps (m.begunSteps host depth) h
        rcases ih hcall with rfl | ⟨p, hp, hasks', hstate⟩
        · exact ⟨_, hbegun, hasks, rfl⟩
        · exact ⟨p, hsub hp, hasks', hstate⟩

/-- What no step and no entry breaks holds in every state that a call is made in. -/
theorem calls_keep (h : Bodily R)
    (hentered : ∀ w task args directory cwd, R w { w with events := w.events.push (.entered task args directory cwd) })
    {depth : Nat} {name : String} {args : List Data} {w : World} {call : TaskCall} (hcall : call ∈ m.calls host depth name args w) :
    R w call.state := by
  rcases mem_calls hcall with rfl | ⟨p, hp, -, hstate⟩
  · exact h.refl w
  · rw [hstate]
    exact begunSteps_keep h hentered hp

end Manager
end TaskRunner
