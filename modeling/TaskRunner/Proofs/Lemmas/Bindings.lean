import TaskRunner.Proofs.Lemmas.Steps

/-!
# Bindings

The names of a Runfile are bound when its scope is opened, by its statements, and by the steps of its tasks. A history is the list of
these bindings, of all Runfiles, in the order in which they are made; what a name is bound to is said by the last of its bindings
(`World.Binds`). The loading of a Runfile makes the bindings of `Runfile.bindingsOfLoad`, and the steps of a run make theirs.
-/

namespace TaskRunner

open Run

/-- A name of a scope is bound to a value. -/
structure Binding where
  scope : ScopeId
  name : String
  value : Value

/-- What the last binding of a name of a scope binds it to. -/
def latest (history : List Binding) (scope : ScopeId) (name : String) : Option Value :=
  (history.reverse.find? fun b => b.scope = scope ∧ b.name = name).map Binding.value

/-- What a name of a scope is bound to in a state. -/
def World.bound? (w : World) (scope : ScopeId) (name : String) : Option Value :=
  (w.scopes[scope]?).bind fun s => s.bindings.find? name

/-- A history leads from what is bound in a state to what is bound in another, and no scope is taken away. -/
structure World.Binds (history : List Binding) (w w' : World) : Prop where
  there : w.scopes.size ≤ w'.scopes.size
  bound : ∀ scope name, w'.bound? scope name = (latest history scope name).or (w.bound? scope name)

section latest

variable {scope : ScopeId} {name : String}

theorem latest_append (history more : List Binding) (scope : ScopeId) (name : String) :
    latest (history ++ more) scope name = (latest more scope name).or (latest history scope name) := by
  rw [latest, List.reverse_append, List.find?_append, Option.map_or]
  rfl

theorem latest_singleton (b : Binding) (scope : ScopeId) (name : String) :
    latest [b] scope name = if b.scope = scope ∧ b.name = name then some b.value else none := by
  rw [latest, List.reverse_singleton, List.find?_singleton]
  by_cases h : b.scope = scope ∧ b.name = name
  · rw [if_pos h, if_pos (decide_eq_true h)]
    rfl
  · rw [if_neg h, if_neg (by rwa [decide_eq_true_eq])]
    rfl

/-- What is not bound in a history has no binding there. -/
theorem latest_eq_none {history : List Binding} (h : ∀ b ∈ history, b.scope ≠ scope) : latest history scope name = none := by
  rw [latest, Option.map_eq_none_iff, List.find?_eq_none]
  intro b hb hbound
  exact h b (List.mem_reverse.1 hb) (of_decide_eq_true hbound).1

end latest

/-! ## What a state binds -/

section binds

variable {w w' w'' : World} {history more : List Binding} {scope : ScopeId} {s : Scope}

theorem bound?_eq (h : w.scopes[scope]? = some s) (name : String) : w.bound? scope name = s.bindings.find? name := by
  rw [World.bound?, h]
  rfl

theorem bound?_congr (h : w'.scopes = w.scopes) (scope : ScopeId) (name : String) : w'.bound? scope name = w.bound? scope name := by
  rw [World.bound?, World.bound?, h]

/-- A scope that is not there binds nothing. -/
theorem bound?_eq_none (h : w.scopes.size ≤ scope) (name : String) : w.bound? scope name = none := by
  rw [World.bound?, Array.getElem?_eq_none h]
  rfl

namespace World.Binds

theorem of_eq (h : w'.scopes = w.scopes) : w.Binds [] w' :=
  ⟨Nat.le_of_eq (congrArg Array.size h.symm), bound?_congr h⟩

theorem append (h : w.Binds history w') (h' : w'.Binds more w'') : w.Binds (history ++ more) w'' := by
  refine ⟨Nat.le_trans h.there h'.there, fun scope name => ?_⟩
  rw [h'.bound, h.bound, latest_append, Option.or_assoc]

theorem then_quiet (h : w.Binds history w') (h' : w'.Binds [] w'') : w.Binds history w'' := by
  have happend := h.append h'
  rwa [List.append_nil] at happend

/-- What follows a computation may bind nothing more. -/
theorem bind {α β : Type} {x : Run α} {f : α → Run β} (hx : w.Binds history (Run.after x w))
    (hf : ∀ a, Keeps (World.Binds []) (f a)) : w.Binds history (Run.after (x >>= f) w) := by
  cases h : x w with
  | ok a w' =>
    rw [after_of_ok h] at hx
    rw [after_bind_ok h]
    exact hx.then_quiet (hf a w')
  | error stop w' =>
    rw [after_of_error h] at hx
    rwa [after_bind_error h]

theorem preserving : Preserving (World.Binds []) := ⟨fun _ => of_eq rfl, fun h h' => h.append h'⟩

theorem of_record (w : World) (e : Event) : w.Binds [] { w with events := w.events.push e } := of_eq rfl

/-- To put the declarations of a scope is to bind nothing. -/
theorem withDeclarations (w : World) (scope : ScopeId) (d : Declarations) : w.Binds [] (w.withDeclarations scope d) := by
  refine ⟨Nat.le_of_eq Array.size_modify.symm, fun id name => ?_⟩
  show ((w.scopes.modify scope _)[id]?).bind _ = (w.scopes[id]?).bind _
  rw [Array.getElem?_modify]
  split
  · cases w.scopes[id]? <;> rfl
  · rfl

/-- Nothing that a step does binds a name, but for a step that does no more than this. -/
theorem stepping : Stepping (World.Binds []) := stepping_of_scopes preserving of_eq fun w scope _ => withDeclarations w scope _

/-- A name that is bound in a scope is bound from then on. -/
theorem binding (h : scope < w.scopes.size) (name : String) (v : Value) : w.Binds [⟨scope, name, v⟩] (w.binding scope name v) := by
  refine ⟨Nat.le_of_eq Array.size_modify.symm, fun id other => ?_⟩
  rw [latest_singleton]
  by_cases hid : scope = id
  · subst hid
    have hs := Array.getElem?_eq_getElem h
    rw [bound?_eq (scope_binding hs name v), bound?_eq hs, Assoc.find?_insert]
    by_cases hname : other = name
    · rw [if_pos hname, if_pos ⟨rfl, hname.symm⟩]
      rfl
    · rw [if_neg hname, if_neg fun hb => hname hb.2.symm]
      rfl
  · rw [if_neg fun hb => hid hb.1]
    show ((w.scopes.modify scope _)[id]?).bind _ = (w.scopes[id]?).bind _
    rw [Array.getElem?_modify, if_neg hid]

end World.Binds
end binds

/-! ## Runfiles -/

namespace Runfile

mutual

/-- The bindings that a statement makes when it is executed in a scope. -/
def bindingsOf (scope : ScopeId) : Statement → World → List Binding
  | .set name value, _ => [⟨scope, name, .data value⟩]
  | .define name, _ => [⟨scope, name, .function .collect⟩]
  | .attempt body, w => bindingsOfAll scope body w
  | .doc _, _ | .run .., _ | .declare .., _ | .apply .., _ | .deco .., _ | .get _, _ | .raise .., _ | .print _, _ | .chdir _, _ => []

/-- The bindings that statements make, up to the first that fails. -/
def bindingsOfAll (scope : ScopeId) : List Statement → World → List Binding
  | [], _ => []
  | s :: rest, w =>
    bindingsOf scope s w ++
      match execute scope s w with
      | .ok _ w' => bindingsOfAll scope rest w'
      | .error _ _ => []

end

/-- What is bound in a scope when it is opened. -/
def bindingsOfOpening (scope : ScopeId) : List Binding :=
  [⟨scope, "__name__", .data (.text "runfile")⟩, ⟨scope, "doc", .function (.describe scope)⟩,
    ⟨scope, "run", .function (.declare scope)⟩]

/-- The bindings of the Runfile at a path that is evaluated in a scope: its own path, and what its statements bind. -/
def bindingsOfEvaluation (scope : ScopeId) (path : Path) (w : World) : List Binding :=
  ⟨scope, "__file__", .data (.text path.toString)⟩ ::
    match readStatements path (starting scope path w) with
    | .ok statements w' => bindingsOfAll scope statements w'
    | .error _ _ => []

/-- The bindings of a load of the Runfile at a path: all of them are of the scope that is opened for it. -/
def bindingsOfLoad (path : Path) (w : World) : List Binding :=
  match w.machine.resolve path with
  | .error _ => []
  | .ok l =>
    let path := Location.path l
    match openScope path.parent (w.debugged "runx.manager" ("Loading " ++ path.toString)) with
    | .error _ _ => []
    | .ok scope w' => bindingsOfOpening scope ++ bindingsOfEvaluation scope path w'

variable {scope : ScopeId} {path : Path} {w w₁ : World}

mutual

theorem binds_execute (st : Statement) {w : World} (h : scope < w.scopes.size) :
    w.Binds (bindingsOf scope st w) (after (execute scope st) w) := by
  have hR := World.Binds.stepping
  have hkept (handle : String) (v : Value) :
      Keeps (World.Binds []) (modify fun w : World => { w with handles := w.handles.insert handle v } : Run Unit) :=
    .modify fun w => .of_eq rfl
  cases st with
  | doc text => exact hR.bind (hR.callNamed scope "doc" _) (fun _ => hR.pure _) w
  | run name body => exact hR.bind (hR.callNamed scope "run" _) (fun _ => hR.pure _) w
  | declare name handle => exact hR.bind (hR.callNamed scope "run" _) (fun v => hkept handle v) w
  | apply handle body => exact hR.bind (hR.handled handle) (fun v => hR.bind (hR.call v _) fun _ => hR.pure _) w
  | deco names body => exact hR.bind (hR.declareAll scope names) (fun vs => hR.decorateAll body _) w
  | set name value => exact .binding h name _
  | define name => exact .binding h name _
  | get name => exact hR.bind (hR.lookup scope name) (fun v => .modify fun w => .of_record w (.got v)) w
  | raise label args => exact hR.throw _ w
  | attempt body =>
    have hall := binds_executeAll body h
    rw [bindingsOf, execute, after, tryCatch_apply]
    cases hx : executeAll scope body w with
    | ok u w' => rwa [after_of_ok hx] at hall
    | error stop w' =>
      rw [after_of_error hx] at hall
      cases stop with
      | failure f => exact hall.then_quiet (.of_eq rfl)
      | interrupt | exit | exhausted => exact hall
  | print text => exact .of_eq rfl
  | chdir path =>
    rw [bindingsOf, execute]
    exact hR.changeMachine _ w

theorem binds_executeAll (sts : List Statement) {w : World} (h : scope < w.scopes.size) :
    w.Binds (bindingsOfAll scope sts w) (after (executeAll scope sts) w) := by
  cases sts with
  | nil => exact .of_eq rfl
  | cons st rest =>
    have hst := binds_execute st h
    rw [bindingsOfAll, executeAll]
    cases hx : execute scope st w with
    | ok u w' =>
      rw [after_of_ok hx] at hst
      rw [after_bind_ok hx]
      exact hst.append (binds_executeAll rest (Nat.lt_of_lt_of_le h hst.there))
    | error stop w' =>
      rw [after_of_error hx] at hst
      rw [after_bind_error hx]
      exact hst.append (.of_eq rfl)

end

/-- An evaluation of open declarations makes its bindings. -/
theorem binds_evaluate (h : scope < w.scopes.size) (hopen : (w.declarationsOf scope).closed = false) (path : Path) :
    w.Binds (bindingsOfEvaluation scope path w) (after (evaluate scope path) w) := by
  have hstart : w.Binds [⟨scope, "__file__", .data (.text path.toString)⟩] (starting scope path w) :=
    (World.Binds.binding h "__file__" _).then_quiet (.of_eq rfl)
  have hended (w₁ : World) : w₁.Binds [] (ended scope w w₁) :=
    have hhandles : w₁.Binds [] { w₁ with handles := w.handles } := .of_eq rfl
    hhandles.then_quiet (.withDeclarations _ scope _)
  have hread := after_readStatements path (starting scope path w)
  rw [after_evaluate hopen]
  refine World.Binds.then_quiet (hstart.append ?_) (hended _)
  unfold loading
  cases hr : readStatements path (starting scope path w) with
  | ok statements w' =>
    rw [after_of_ok hr] at hread
    subst hread
    rw [after_bind_ok hr]
    exact binds_executeAll statements (Nat.lt_of_lt_of_le h hstart.there)
  | error stop w' =>
    rw [after_of_error hr] at hread
    subst hread
    rw [after_bind_error hr]
    exact .of_eq rfl

/-- What a table of names holds is what the bindings of its entries lead to. -/
theorem find?_ofList (scope : ScopeId) (entries : List (String × Value)) (name : String) :
    (Assoc.ofList entries).find? name = latest (entries.map fun e => ⟨scope, e.1, e.2⟩) scope name := by
  induction entries using List.reverseRecOn with
  | nil => rfl
  | append_singleton entries e ih =>
    have hinsert : Assoc.ofList (entries ++ [e]) = (Assoc.ofList entries).insert e.1 e.2 := List.foldl_append
    rw [hinsert, Assoc.find?_insert, ih, List.map_append, latest_append, List.map_singleton, latest_singleton]
    by_cases hname : name = e.1
    · rw [if_pos hname, if_pos ⟨rfl, hname.symm⟩]
      rfl
    · rw [if_neg hname, if_neg fun hb => hname hb.2.symm]
      rfl

/-- A scope that is opened binds its first names. -/
theorem binds_opened (w : World) (l : Location) : w.Binds (bindingsOfOpening w.scopes.size) (opened w l) := by
  refine ⟨Nat.le_trans (Nat.le_succ _) (Nat.le_of_eq (Array.size_push _).symm), fun scope name => ?_⟩
  by_cases hid : w.scopes.size = scope
  · subst hid
    rw [bound?_eq (scope_opened w l), bound?_eq_none (Nat.le_refl _), Option.or_none]
    exact find?_ofList _ _ _
  · have hother : latest (bindingsOfOpening w.scopes.size) scope name = none := by
      refine latest_eq_none fun b hb => ?_
      simp only [bindingsOfOpening, List.mem_cons, List.not_mem_nil, or_false] at hb
      rcases hb with rfl | rfl | rfl <;> exact hid
    rw [hother, Option.none_or]
    show ((w.scopes.push _)[scope]?).bind _ = (w.scopes[scope]?).bind _
    rw [Array.getElem?_push, if_neg (Ne.symm hid)]

/-- The load of a Runfile makes its bindings, whether it ends well or not. -/
theorem binds_load (m : Manager) (path : Path) (w : World) : w.Binds (bindingsOfLoad path w) (after (m.load path) w) := by
  unfold bindingsOfLoad Manager.load
  cases hl : w.machine.resolve path with
  | error f =>
    rw [after_bind_error (observe_error hl)]
    exact .of_eq rfl
  | ok l =>
    rw [after_bind_ok (observe_ok hl), after_bind_ok (debug_apply _ _ _)]
    dsimp only
    cases hd : w.machine.resolve (Location.path l).parent with
    | error f =>
      have hscope : openScope (Location.path l).parent (w.debugged "runx.manager" ("Loading " ++ (Location.path l).toString)) =
          .error (.failure f) (w.debugged "runx.manager" ("Loading " ++ (Location.path l).toString)) :=
        bind_error (observe_error hd) _
      rw [after_bind_error hscope, hscope]
      exact .of_eq rfl
    | ok d =>
      have hscope := openScope_ok (w := w.debugged "runx.manager" ("Loading " ++ (Location.path l).toString)) hd
      rw [after_bind_ok hscope, hscope]
      have hopened := binds_opened (w.debugged "runx.manager" ("Loading " ++ (Location.path l).toString)) d
      have hstands := scope_opened (w.debugged "runx.manager" ("Loading " ++ (Location.path l).toString)) d
      have hevaluate := binds_evaluate (Array.getElem?_eq_some_iff.1 hstands).1 (by rw [declarationsOf_eq hstands]; rfl) (Location.path l)
      have hrest (tasks : List Task) := World.Binds.preserving.bind (World.Binds.preserving.ofExcept (m.registry.merge tasks))
        fun merged => World.Binds.preserving.pure (({ m with registry := merged.1 } : Manager), merged.2)
      have hsaid : w.Binds [] (w.debugged "runx.manager" ("Loading " ++ (Location.path l).toString)) := .of_eq rfl
      exact hsaid.append (hopened.append (hevaluate.bind hrest))

mutual

theorem scope_of_bindingsOf (st : Statement) {w : World} {b : Binding} (h : b ∈ bindingsOf scope st w) : b.scope = scope := by
  cases st with
  | set | define =>
    rw [List.mem_singleton.1 h]
  | attempt body => exact scope_of_bindingsOfAll body h
  | doc | run | declare | apply | deco | get | raise | print | chdir => cases h

theorem scope_of_bindingsOfAll (sts : List Statement) {w : World} {b : Binding} (h : b ∈ bindingsOfAll scope sts w) :
    b.scope = scope := by
  cases sts with
  | nil => cases h
  | cons st rest =>
    rw [bindingsOfAll] at h
    rcases List.mem_append.1 h with h | h
    · exact scope_of_bindingsOf st h
    · split at h
      · exact scope_of_bindingsOfAll rest h
      · cases h

end

end Runfile

/-! ## Steps -/

/-- The binding that a step makes. -/
def TaskStep.binding? (p : TaskStep) : Option Binding :=
  match p.step.action with
  | .set name value => some ⟨p.context.task.scope, name, .data value⟩
  | _ => none

/-- The bindings that steps make, one after the other. -/
def bindingsOfSteps (steps : List TaskStep) : List Binding := steps.filterMap TaskStep.binding?

/-- What a step does that may bind a name, if the scope of its task is there. -/
def TaskStep.BindsOwn (p : TaskStep) (w : World) : Prop :=
  p.context.task.scope < p.state.scopes.size → p.state.Binds p.binding?.toList w

theorem leading_binds : Leading (World.Binds []) TaskStep.BindsOwn :=
  { World.Binds.stepping with
    entered := fun w _ _ _ _ => .of_record w _
    bound := by
      intro p name value hset hthere
      rw [TaskStep.binding?, hset]
      exact .binding hthere name _
    other := by
      intro p w hother hbinds _
      have hnone : p.binding? = none := by
        unfold TaskStep.binding?
        split
        · rename_i name value hset
          exact absurd hset (hother name value)
        · rfl
      rwa [hnone] }

/-- Steps that a way leads through make their bindings, if the scopes of their tasks are there. -/
theorem Follows.binds {steps : List TaskStep} {w w' : World} (h : Follows (World.Binds []) TaskStep.BindsOwn w steps w')
    (hthere : ∀ p ∈ steps, p.context.task.scope < p.state.scopes.size) : w.Binds (bindingsOfSteps steps) w' := by
  induction h with
  | nil h => exact h
  | @cons w w₁ w' p later h hp _ ih =>
    have hstep := hp (hthere p List.mem_cons_self)
    have hlater := ih fun q hq => hthere q (List.mem_cons_of_mem p hq)
    have hall := (h.append hstep).append hlater
    have hcons : bindingsOfSteps (p :: later) = ([] ++ p.binding?.toList) ++ bindingsOfSteps later := by
      rw [bindingsOfSteps, List.filterMap_cons, List.nil_append]
      cases p.binding? <;> rfl
    rwa [hcons]

namespace Manager

variable {m : Manager} {host : Host}

/-- A step of a body is begun with the context of the body, or in a call that a step makes. -/
theorem mem_begunSteps_of_steps {c : Context} {inner : String → List Data → World → List TaskStep} {body : List Step} {w : World}
    {p : TaskStep} (h : p ∈ c.begunSteps inner body w) : p.context = c ∨ ∃ name args w', p ∈ inner name args w' := by
  induction body generalizing w with
  | nil => cases h
  | cons s rest ih =>
    rw [Context.begunSteps] at h
    split at h
    · cases h
    · rcases List.mem_append.1 h with h | h
      · rcases List.mem_cons.1 h with rfl | h
        · exact .inl rfl
        · split at h
          · exact .inr ⟨_, _, _, h⟩
          · cases h
      · split at h
        · exact ih h
        · cases h

/-- The context of a step that is begun in a run is that of a task of the table, and it runs tasks of the same table. -/
theorem context_of_begunSteps {depth : Nat} {name : String} {args : List Data} {w : World} {p : TaskStep}
    (h : p ∈ m.begunSteps host depth name args w) :
    ∃ depth' key task args', depth' < depth ∧ p.context = m.contextOf host depth' task args' ∧
      m.registry.find? key = some task := by
  induction depth generalizing name args w with
  | zero => cases h
  | succ depth ih =>
    rw [begunSteps] at h
    cases hb : m.begins ⟨depth + 1, name, args, w⟩ with
    | none =>
      rw [hb] at h
      cases h
    | some b =>
      rw [hb] at h
      rcases mem_begunSteps_of_steps h with hc | ⟨name', args', w', hinner⟩
      · exact ⟨depth, name, b.task, args, Nat.lt_succ_self depth, hc, (begins_eq_some hb).2.1⟩
      · obtain ⟨depth', key, task, args'', hdepth, hc, hfind⟩ := ih hinner
        exact ⟨depth', key, task, args'', Nat.lt_succ_of_lt hdepth, hc, hfind⟩

/-- The scope of the task of a step that is begun in a run is there, if those of the tasks of the table are. -/
theorem there_of_begunSteps {w : World} (hthere : ∀ key t, m.registry.find? key = some t → t.scope < w.scopes.size) {depth : Nat}
    {name : String} {args : List Data} {p : TaskStep} (hp : p ∈ m.begunSteps host depth name args w) :
    p.context.task.scope < p.state.scopes.size := by
  obtain ⟨depth', key, task, args', -, hcontext, hfind⟩ := context_of_begunSteps hp
  have htask : p.context.task = task := by rw [hcontext]; rfl
  rw [htask]
  exact Nat.lt_of_lt_of_le (hthere key task hfind) (begunSteps_keep bodily_scopes (fun _ _ _ _ _ => Nat.le_refl _) hp)

/-- The steps of a run make their bindings, if the scopes of the tasks of the table are there: those before a step lead to the state
that this begins in, and all of them to the state that the run leaves. -/
theorem binds_begunSteps {w : World} (hthere : ∀ key t, m.registry.find? key = some t → t.scope < w.scopes.size) (host : Host)
    (depth : Nat) (name : String) (args : List Data) :
    w.Binds (bindingsOfSteps (m.begunSteps host depth name args w)) (after (m.runTask host depth name args) w) ∧
      ∀ before p later, m.begunSteps host depth name args w = before ++ p :: later →
        w.Binds (bindingsOfSteps before) p.state := by
  have hfollows := follows_begunSteps leading_binds m host depth name args w
  refine ⟨hfollows.binds fun p hp => there_of_begunSteps hthere hp, fun before p later hsplit => ?_⟩
  rw [hsplit] at hfollows
  exact hfollows.until.binds fun q hq => there_of_begunSteps hthere (by rw [hsplit]; exact List.mem_append_left _ hq)

end Manager
end TaskRunner
