import TaskRunner.Proofs.Lemmas.Frames

/-!
# Two runs beside one another

Two states are alike if they are the same but for the error output, the log, and machines that a relation `M` relates. Two
computations agree if from states that are alike they come to states that are alike, with related values or by one and the same stop
(`Run.Agree`). What is written to the error output or set of the log has no part in it, so a computation that does nothing else
agrees with every other one (`Agree.silent`). A run agrees with a run of the same Runfile whose commands are shown or not, where `M`
is a relation that a run cannot look behind (`Machine.Indistinct`).
-/

namespace TaskRunner

/-- Two operations on machines have related results, or are refused for the same reason. -/
inductive Machine.Agreeing {ε α β : Type} (V : α → β → Prop) : Except ε α → Except ε β → Prop where
  | ok {a : α} {b : β} : V a b → Agreeing V (.ok a) (.ok b)
  | error (e : ε) : Agreeing V (.error e) (.error e)

theorem Machine.Agreeing.of_eq {ε α : Type} {r r' : Except ε α} (h : r' = r) : Agreeing Eq r r' := by
  rw [h]
  cases r with
  | ok a => exact .ok rfl
  | error f => exact .error f

/-- What a run learns of one machine it learns of another that is related to it, and what it does to them leaves them related. -/
structure Machine.Indistinct (M : Machine → Machine → Prop) : Prop where
  environment : ∀ {m m'}, M m m' → m'.environment = m.environment
  workingDirectory? : ∀ {m m'}, M m m' → m'.workingDirectory? = m.workingDirectory?
  resolve : ∀ {m m'} p, M m m' → m'.resolve p = m.resolve p
  isFile : ∀ {m m'} path, M m m' → m'.isFile path = m.isFile path
  changeDirectory : ∀ {m m'} path, M m m' → Agreeing M (m.changeDirectory path) (m'.changeDirectory path)
  makeDirectory : ∀ {m m'} path, M m m' → Agreeing M (m.makeDirectory path) (m'.makeDirectory path)
  removeDirectory : ∀ {m m'} path, M m m' → Agreeing M (m.removeDirectory path) (m'.removeDirectory path)
  readLine : ∀ {m m'}, M m m' → Agreeing (fun r r' => r'.1 = r.1 ∧ M r.2 r'.2) m.readLine m'.readLine

/-- Two machines are related, and a file reads the same on both. -/
def Machine.Reading (M : Machine → Machine → Prop) (path : String) (m m' : Machine) : Prop :=
  M m m' ∧ m'.readText path = m.readText path

/-- The machine that a command leaves behind, as its report has it. -/
def Machine.left (m : Machine) (report : Report) : Machine :=
  { m with files := report.files, input := { m.input with rest := report.rest } }

/-- A command does the same on machines that are related, and leaves related machines behind. -/
def Host.Respects (host : Host) (M : Machine → Machine → Prop) : Prop :=
  ∀ spawn capture m m', M m m' →
    let report := host spawn capture m
    let report' := host spawn capture m'
    report'.result = report.result ∧ report'.out = report.out ∧ report'.err = report.err ∧ M (m.left report) (m'.left report')

/-- Two states are the same but for the error output, the log and the machine, and their machines are related. -/
def World.Alike (M : Machine → Machine → Prop) (w w' : World) : Prop :=
  ∃ machine err log, M w.machine machine ∧ w' = { w with machine, err, log }

theorem World.Alike.mono {M N : Machine → Machine → Prop} {w w' : World} (h : w.Alike N w') (hN : ∀ m m', N m m' → M m m') :
    w.Alike M w' := by
  obtain ⟨machine, err, log, hmachine, hw⟩ := h
  exact ⟨machine, err, log, hN _ _ hmachine, hw⟩

theorem World.Alike.machine {M : Machine → Machine → Prop} {w w' : World} (h : w.Alike M w') : M w.machine w'.machine := by
  obtain ⟨machine, err, log, hmachine, rfl⟩ := h
  exact hmachine

theorem World.Alike.of_machine {M N : Machine → Machine → Prop} {w w' : World} (h : w.Alike M w')
    (hN : N w.machine w'.machine) : w.Alike N w' := by
  obtain ⟨machine, err, log, -, rfl⟩ := h
  exact ⟨machine, err, log, hN, rfl⟩

theorem World.Alike.debugged {M : Machine → Machine → Prop} {w w' : World} (h : w.Alike M w') {logger message : String} :
    (w.debugged logger message).Alike M (w'.debugged logger message) := by
  obtain ⟨machine, err, log, hmachine, rfl⟩ := h
  exact ⟨machine, _, log, hmachine, rfl⟩

namespace Run

open Runfile

variable {α β γ δ : Type} {M : Machine → Machine → Prop}

/-- Two results agree: related values or the same stop, in states that are alike. -/
inductive Agreeing (M : Machine → Machine → Prop) (V : α → β → Prop) :
    EStateM.Result Stop World α → EStateM.Result Stop World β → Prop where
  | ended {a : α} {b : β} {w w' : World} : V a b → w.Alike M w' → Agreeing M V (.ok a w) (.ok b w')
  | stopped {stop : Stop} {w w' : World} : w.Alike M w' → Agreeing M V (.error stop w) (.error stop w')

/-- Two computations agree from all states that are alike. -/
def Agree (M : Machine → Machine → Prop) (V : α → β → Prop) (x : Run α) (y : Run β) : Prop :=
  ∀ w w' : World, w.Alike M w' → Agreeing M V (x w) (y w')

/-- A computation that writes to the error output, sets the log up, and does nothing else. -/
def Silent (x : Run Unit) : Prop := ∀ w, ∃ err log, x w = .ok () { w with err, log }

/-! ## Computations put together -/

/-- What is seen of two machines agrees if it is related. -/
theorem agreeing_observe {V : α → β → Prop} {look : Machine → Except Failure α} {look' : Machine → Except Failure β} {w w' : World}
    (hw : w.Alike M w') (h : Machine.Agreeing V (look w.machine) (look' w'.machine)) :
    Agreeing M V (observe look w) (observe look' w') := by
  rw [observe_apply, observe_apply]
  generalize look w.machine = r, look' w'.machine = r' at h
  cases h with
  | ok hv => exact .ended hv hw
  | error f => exact .stopped hw

/-- Results that agree do so for machines and values that are related less closely. -/
theorem Agreeing.mono {N : Machine → Machine → Prop} {V V' : α → β → Prop} {r : EStateM.Result Stop World α}
    {r' : EStateM.Result Stop World β} (h : Agreeing N V r r') (hN : ∀ m m', N m m' → M m m') (hV : ∀ {a b}, V a b → V' a b) :
    Agreeing M V' r r' := by
  cases h with
  | ended hv hw => exact .ended (hV hv) (hw.mono hN)
  | stopped hw => exact .stopped (hw.mono hN)

/-- What agrees goes on with what agrees from the states that are left. The machines may be related more closely before than
after. -/
theorem Agreeing.next {N : Machine → Machine → Prop} {V : α → β → Prop} {V' : γ → δ → Prop} {x : Run α} {y : Run β}
    {f : α → Run γ} {g : β → Run δ} {w w' : World} (h : Agreeing N V (x w) (y w')) (hN : ∀ m m', N m m' → M m m')
    (hf : ∀ {a b w₁ w₁'}, x w = .ok a w₁ → y w' = .ok b w₁' → V a b → w₁.Alike N w₁' → Agreeing M V' (f a w₁) (g b w₁')) :
    Agreeing M V' ((x >>= f) w) ((y >>= g) w') := by
  rw [bind_apply, bind_apply]
  generalize x w = r, y w' = r' at h hf
  cases h with
  | ended hv hw => exact hf rfl rfl hv hw
  | stopped hw => exact .stopped (hw.mono hN)

theorem Agreeing.bind {V : α → β → Prop} {V' : γ → δ → Prop} {x : Run α} {y : Run β} {f : α → Run γ} {g : β → Run δ}
    {w w' : World} (h : Agreeing M V (x w) (y w')) (hf : ∀ {a b}, V a b → Agree M V' (f a) (g b)) :
    Agreeing M V' ((x >>= f) w) ((y >>= g) w') :=
  h.next (fun _ _ hm => hm) fun _ _ hv hw => hf hv _ _ hw

theorem Agreeing.tryCatch {V : α → β → Prop} {x : Run α} {y : Run β} {handle : Stop → Run α} {handle' : Stop → Run β}
    {w w' : World} (h : Agreeing M V (x w) (y w')) (hh : ∀ stop, Agree M V (handle stop) (handle' stop)) :
    Agreeing M V (tryCatch x handle w) (tryCatch y handle' w') := by
  rw [tryCatch_apply, tryCatch_apply]
  generalize x w = r, y w' = r' at h
  cases h with
  | ended hv hw => exact .ended hv hw
  | stopped hw => exact hh _ _ _ hw

namespace Agree

variable {V : α → β → Prop} {V' : γ → δ → Prop}

theorem pure {a : α} {b : β} (h : V a b) : Agree M V (pure a : Run α) (pure b : Run β) := fun _ _ hw => .ended h hw

theorem throw (stop : Stop) : Agree M V (throw stop : Run α) (throw stop : Run β) := fun _ _ hw => .stopped hw

theorem fail (f : Failure) : Agree M V (fail f : Run α) (fail f : Run β) := fun _ _ hw => .stopped hw

/-- Where the first computations agree, related values are gone on with. -/
theorem bindRelated {x : Run α} {y : Run β} {f : α → Run γ} {g : β → Run δ} (hx : Agree M V x y)
    (hf : ∀ {a b}, V a b → Agree M V' (f a) (g b)) : Agree M V' (x >>= f) (y >>= g) :=
  fun _ _ hw => (hx _ _ hw).bind hf

theorem bind {x y : Run α} {f : α → Run γ} {g : α → Run δ} (hx : Agree M Eq x y) (hf : ∀ a, Agree M V' (f a) (g a)) :
    Agree M V' (x >>= f) (y >>= g) :=
  hx.bindRelated fun {a b} hab => by
    rw [← hab]
    exact hf a

theorem tryCatch {x : Run α} {y : Run β} {handle : Stop → Run α} {handle' : Stop → Run β} (hx : Agree M V x y)
    (hh : ∀ stop, Agree M V (handle stop) (handle' stop)) : Agree M V (tryCatch x handle) (tryCatch y handle') :=
  fun _ _ hw => (hx _ _ hw).tryCatch hh

theorem ofExcept (r : Except Failure α) : Agree M Eq (Run.ofExcept r) (Run.ofExcept r) := by
  cases r with
  | ok a => exact .pure rfl
  | error f => exact .fail f

/-- What comes after a look at the state. -/
theorem get {f : World → Run α} {g : World → Run β}
    (h : ∀ w machine err log, M w.machine machine → Agree M V (f w) (g { w with machine, err, log })) :
    Agree M V (MonadState.get >>= f) (MonadState.get >>= g) := by
  rintro w _ ⟨machine, err, log, hM, rfl⟩
  exact h w machine err log hM _ _ ⟨machine, err, log, hM, rfl⟩

/-- A change of the state that has to do with neither the machine nor the error output nor the log. -/
theorem modify {f : World → World} (h : ∀ w machine err log, f { w with machine, err, log } = { f w with machine, err, log })
    (hf : ∀ w, (f w).machine = w.machine) : Agree M Eq (modify f : Run Unit) (modify f) := by
  rintro w _ ⟨machine, err, log, hM, rfl⟩
  exact .ended rfl ⟨machine, err, log, by rwa [hf], h w machine err log⟩

theorem observeRelated {look : Machine → Except Failure α} {look' : Machine → Except Failure β}
    (h : ∀ {m m'}, M m m' → Machine.Agreeing V (look m) (look' m')) : Agree M V (Run.observe look) (Run.observe look') := by
  rintro w w' hw
  refine agreeing_observe hw ?_
  obtain ⟨machine, err, log, hM, rfl⟩ := hw
  exact h hM

theorem observe {look : Machine → Except Failure α} (h : ∀ {m m'}, M m m' → look m' = look m) :
    Agree M Eq (Run.observe look) (Run.observe look) := .observeRelated fun hm => .of_eq (h hm)

theorem change {f g : Machine → Except Failure Machine} (h : ∀ {m m'}, M m m' → Machine.Agreeing M (f m) (g m')) :
    Agree M Eq (Run.change f) (Run.change g) := by
  rintro w _ ⟨machine, err, log, hM, rfl⟩
  have hresult := h hM
  rw [Run.change, Run.change, bind_ok (get_apply _), bind_ok (get_apply _)]
  dsimp only
  generalize f w.machine = r, g machine = r' at hresult
  cases hresult with
  | ok hm => exact .ended rfl ⟨_, err, log, hm, rfl⟩
  | error f => exact .stopped ⟨machine, err, log, hM, rfl⟩

/-- What is written to the error output, or set of the log, makes no difference. -/
theorem silent {x y : Run Unit} (hx : Silent x) (hy : Silent y) : Agree M Eq x y := by
  rintro w _ ⟨machine, err, log, hM, rfl⟩
  obtain ⟨err₁, log₁, hx⟩ := hx w
  obtain ⟨err₂, log₂, hy⟩ := hy { w with machine, err, log }
  rw [hx, hy]
  exact .ended rfl ⟨machine, err₂, log₂, hM, rfl⟩

end Agree

theorem silent_pure : Silent (pure ()) := fun w => ⟨w.err, w.log, rfl⟩

theorem silent_debug (logger message : String) : Silent (debug logger message) := fun w => ⟨_, w.log, rfl⟩

theorem silent_notify (line : String) : Silent (notify line) := fun w => ⟨_, w.log, rfl⟩

theorem agree_debug (logger message logger' message' : String) :
    Agree M Eq (debug logger message) (debug logger' message') :=
  .silent (silent_debug logger message) (silent_debug logger' message')

theorem agree_notify (line line' : String) : Agree M Eq (notify line) (notify line') :=
  .silent (silent_notify line) (silent_notify line')

theorem agree_writeOut (bytes : ByteArray) : Agree M Eq (writeOut bytes) (writeOut bytes) :=
  .modify (fun _ _ _ _ => rfl) fun _ => rfl

theorem agree_writeErr (bytes bytes' : ByteArray) : Agree M Eq (writeErr bytes) (writeErr bytes') :=
  .silent (fun w => ⟨_, w.log, rfl⟩) fun w => ⟨_, w.log, rfl⟩

theorem agree_record (e : Event) : Agree M Eq (record e) (record e) := .modify (fun _ _ _ _ => rfl) fun _ => rfl

theorem agree_cwd? (hM : Machine.Indistinct M) : Agree M Eq Run.cwd? Run.cwd? :=
  .get fun _ _ _ _ h => .pure (hM.workingDirectory? h).symm

theorem agree_workingDirectory (hM : Machine.Indistinct M) :
    Agree M Eq (observe Machine.workingDirectory) (observe Machine.workingDirectory) :=
  .observe fun h => by rw [Machine.workingDirectory, Machine.workingDirectory, hM.workingDirectory? h]

theorem agree_changeDirectory (hM : Machine.Indistinct M) (path : String) :
    Agree M Eq (change (·.changeDirectory path)) (change (·.changeDirectory path)) := .change (hM.changeDirectory path)

/-! ## Runfiles -/

theorem agree_bindings (scope : ScopeId) : Agree M Eq (Run.bindings scope) (Run.bindings scope) := .get fun _ _ _ _ _ => .pure rfl

theorem agree_bind (scope : ScopeId) (name : String) (v : Value) :
    Agree M Eq (Run.bind scope name v) (Run.bind scope name v) := .modify (fun _ _ _ _ => rfl) fun _ => rfl

theorem agree_declarations (scope : ScopeId) : Agree M Eq (declarations scope) (declarations scope) :=
  .get fun _ _ _ _ _ => .pure rfl

theorem agree_putDeclarations (scope : ScopeId) (d : Declarations) :
    Agree M Eq (putDeclarations scope d) (putDeclarations scope d) := .modify (fun _ _ _ _ => rfl) fun _ => rfl

theorem agree_describe (scope : ScopeId) (text : String) : Agree M Eq (describe scope text) (describe scope text) :=
  .bind (agree_declarations scope) fun _ => .bind (.ofExcept _) fun _ => .bind (agree_putDeclarations scope _) fun _ => .pure rfl

theorem agree_declare (scope : ScopeId) (name : String) (body : Option Body) :
    Agree M Eq (declare scope name body) (declare scope name body) := by
  refine .bind (agree_declarations scope) fun d => .bind (agree_putDeclarations scope _) fun _ =>
    .bind (.ofExcept _) fun declared => ?_
  cases declared with
  | task t => exact .bind (agree_debug _ _ _ _) fun _ => .pure rfl
  | reservation r => exact .pure rfl

theorem agree_decorate (scope : ScopeId) (r : Reservation) (body : Body) :
    Agree M Eq (decorate scope r body) (decorate scope r body) :=
  .bind (agree_declarations scope) fun _ => .bind (agree_putDeclarations scope _) fun _ => .bind (.ofExcept _) fun _ =>
    .bind (agree_debug _ _ _ _) fun _ => .pure rfl

theorem agree_call (f : Value) (args : List Body) : Agree M Eq (call f args) (call f args) := by
  cases f with
  | function f =>
    cases f with
    | collect => exact .pure rfl
    | describe scope =>
      match args with
      | [] => exact .fail _
      | [text] => exact agree_describe scope _
      | _ :: _ :: _ => exact .fail _
    | declare scope =>
      match args with
      | [] => exact .fail _
      | [name] => exact agree_declare scope name.display none
      | [name, body] => exact agree_declare scope _ _
      | _ :: _ :: _ :: _ => exact .fail _
    | decorate scope r =>
      match args with
      | [] => exact .fail _
      | [body] => exact agree_decorate scope r body
      | _ :: _ :: _ => exact .fail _
    | run | sh | general => exact .fail _
  | data | arguments | path | task | completed | part => exact .fail _

theorem agree_lookup (scope : ScopeId) (name : String) : Agree M Eq (lookup scope name) (lookup scope name) := by
  refine .bind (agree_bindings scope) fun names => ?_
  cases names.find? name with
  | some v => exact .pure rfl
  | none => exact .fail _

theorem agree_handled (handle : String) : Agree M Eq (handled handle) (handled handle) := by
  refine .get fun w machine err log _ => ?_
  dsimp only
  cases w.handles.find? handle with
  | some v => exact .pure rfl
  | none => exact .fail _

theorem agree_callNamed (scope : ScopeId) (name : String) (args : List Body) :
    Agree M Eq (callNamed scope name args) (callNamed scope name args) := .bind (agree_lookup scope name) fun f => agree_call f args

theorem agree_declareAll (scope : ScopeId) (names : List Data) :
    Agree M Eq (declareAll scope names) (declareAll scope names) := by
  induction names with
  | nil => exact .pure rfl
  | cons name rest ih => exact .bind (agree_callNamed scope "run" _) fun _ => .bind ih fun _ => .pure rfl

theorem agree_decorateAll (body : Body) (vs : List Value) : Agree M Eq (decorateAll body vs) (decorateAll body vs) := by
  induction vs with
  | nil => exact .pure rfl
  | cons v rest ih => exact .bind (agree_call v _) fun _ => ih

/-- A statement that neither changes the directory nor holds statements of its own is executed alike on any machines. -/
theorem agree_executePlain (scope : ScopeId) {st : Statement} (hchdir : ∀ path, st ≠ .chdir path)
    (hattempt : ∀ body, st ≠ .attempt body) : Agree M Eq (execute scope st) (execute scope st) := by
  cases st with
  | doc text => exact .bind (agree_callNamed scope "doc" _) fun _ => .pure rfl
  | run name body => exact .bind (agree_callNamed scope "run" _) fun _ => .pure rfl
  | declare name handle =>
    exact .bind (agree_callNamed scope "run" _) fun v => .modify (fun _ _ _ _ => rfl) fun _ => rfl
  | apply handle body => exact .bind (agree_handled handle) fun v => .bind (agree_call v _) fun _ => .pure rfl
  | deco names body => exact .bind (agree_declareAll scope names) fun vs => agree_decorateAll body _
  | set name value => exact agree_bind scope name _
  | define name => exact agree_bind scope name _
  | get name => exact .bind (agree_lookup scope name) fun v => agree_record _
  | raise label args => exact .throw _
  | attempt body => exact absurd rfl (hattempt body)
  | print text => exact agree_writeOut _
  | chdir path => exact absurd rfl (hchdir path)

/-- What an attempt does with a stop of its statements. -/
theorem agree_caught (stop : Stop) : Agree M Eq
    (match stop with
      | .failure f => Run.record (.caught f)
      | stop => throw stop : Run Unit)
    (match stop with
      | .failure f => Run.record (.caught f)
      | stop => throw stop) := by
  cases stop with
  | failure f => exact agree_record _
  | interrupt | exit | exhausted => exact .throw _

mutual

theorem agree_execute (hM : Machine.Indistinct M) (scope : ScopeId) (st : Statement) :
    Agree M Eq (execute scope st) (execute scope st) := by
  cases st with
  | attempt body => exact .tryCatch (agree_executeAll hM scope body) agree_caught
  | chdir path =>
    rw [Runfile.execute]
    exact agree_changeDirectory hM path
  | doc | run | declare | apply | deco | set | define | get | raise | print => exact agree_executePlain scope nofun nofun

theorem agree_executeAll (hM : Machine.Indistinct M) (scope : ScopeId) (sts : List Statement) :
    Agree M Eq (executeAll scope sts) (executeAll scope sts) := by
  cases sts with
  | nil => exact .pure rfl
  | cons st rest => exact .bind (agree_execute hM scope st) fun _ => agree_executeAll hM scope rest

end

theorem agreeing_openScope {directory : Path} {w w' : World} (hw : w.Alike M w')
    (hresolve : w'.machine.resolve directory = w.machine.resolve directory) :
    Agreeing M Eq (openScope directory w) (openScope directory w') := by
  refine (agreeing_observe hw (.of_eq hresolve)).bind fun {l l'} hl => ?_
  subst hl
  exact .get fun _ _ _ _ _ => .bind (.modify (fun _ _ _ _ => rfl) fun _ => rfl) fun _ => .pure rfl

/-- Runfiles that read the same are read alike. -/
theorem agree_readStatements (path : Path) :
    Agree (Machine.Reading M path.toString) Eq (readStatements path) (readStatements path) := by
  refine .bind (.observe And.right) fun text => .get fun w machine err log _ => ?_
  dsimp only
  cases read w.abbreviations text with
  | ok statements => exact .pure rfl
  | error fault => exact .fail _

/-- A Runfile that reads the same in two states is evaluated alike, if its statements are executed alike. -/
theorem agreeing_evaluate (scope : ScopeId) {path : Path} {w w' : World} (hw : w.Alike (Machine.Reading M path.toString) w')
    (hexecute : ∀ {sts v v'}, readStatements path (starting scope path w) = .ok sts v →
      readStatements path (starting scope path w') = .ok sts v' → v.Alike M v' →
      Agreeing M Eq (executeAll scope sts v) (executeAll scope sts v')) :
    Agreeing M Eq (evaluate scope path w) (evaluate scope path w') := by
  obtain ⟨machine, err, log, hreading, rfl⟩ := hw
  rcases Bool.eq_false_or_eq_true (w.declarationsOf scope).closed with hclosed | hopen
  · rw [evaluate_closed hclosed path, evaluate_closed (w := { w with machine, err, log }) hclosed path]
    exact .stopped ⟨machine, err, log, hreading.1, rfl⟩
  · have hopen' : (({ w with machine, err, log } : World).declarationsOf scope).closed = false := hopen
    have hload : Agreeing M Eq (loading scope path (starting scope path w))
        (loading scope path (starting scope path { w with machine, err, log })) :=
      (agree_readStatements path (starting scope path w) _ ⟨machine, err, log, hreading, rfl⟩).next (fun _ _ h => h.1)
        fun {sts _ _ _} hread hread' hsts hw => by
          subst hsts
          exact hexecute hread hread' (hw.mono fun _ _ h => h.1)
    generalize hx : loading scope path (starting scope path w) = r,
      hx' : loading scope path (starting scope path { w with machine, err, log }) = r' at hload
    cases hload with
    | @ended _ _ w₁ _ _ hw₁ =>
      obtain ⟨machine₁, err₁, log₁, hmachine₁, rfl⟩ := hw₁
      rw [evaluate_of_ok hopen hx, evaluate_of_ok hopen' hx']
      exact Agree.ofExcept _ _ _ ⟨machine₁, err₁, log₁, hmachine₁, rfl⟩
    | @stopped _ w₁ _ hw₁ =>
      obtain ⟨machine₁, err₁, log₁, hmachine₁, rfl⟩ := hw₁
      rw [evaluate_of_error hopen hx, evaluate_of_error hopen' hx']
      exact .stopped ⟨machine₁, err₁, log₁, hmachine₁, rfl⟩

/-! ## The stages before a task is run -/

end Run

/-- Two managers have the same tasks and run commands in the same way, shown or not. -/
def Manager.Alike (m m' : Manager) : Prop := ∃ echo, m' = { m with commands := { m.commands with echo } }

namespace Run

open Runfile

variable {α : Type} {M : Machine → Machine → Prop}

/-- A Runfile is loaded alike in two states, if its path stands for one location in both, reads the same there, and its directory is
resolved alike, and if its statements are executed alike in the scope that is opened for them. -/
theorem agreeing_load {m m' : Manager} (hm : m.Alike m') {path : Path} {w w' : World} (hw : w.Alike M w')
    (hresolve : w'.machine.resolve path = w.machine.resolve path)
    (hread : ∀ {l}, w.machine.resolve path = .ok l →
      w'.machine.readText (Location.path l).toString = w.machine.readText (Location.path l).toString ∧
        w'.machine.resolve (Location.path l).parent = w.machine.resolve (Location.path l).parent)
    (hexecute : ∀ {l scope v v' sts u u'}, w.machine.resolve path = .ok l →
      openScope (Location.path l).parent (w.debugged "runx.manager" ("Loading " ++ (Location.path l).toString)) = .ok scope v →
      openScope (Location.path l).parent (w'.debugged "runx.manager" ("Loading " ++ (Location.path l).toString)) = .ok scope v' →
      readStatements (Location.path l) (starting scope (Location.path l) v) = .ok sts u →
      readStatements (Location.path l) (starting scope (Location.path l) v') = .ok sts u' → u.Alike M u' →
      Agreeing M Eq (executeAll scope sts u) (executeAll scope sts u')) :
    Agreeing M (fun r r' => r.1.Alike r'.1 ∧ r'.2 = r.2) (m.load path w) (m'.load path w') := by
  obtain ⟨echo, rfl⟩ := hm
  unfold Manager.load
  cases hl : w.machine.resolve path with
  | error f =>
    rw [bind_error (observe_error hl), bind_error (observe_error (hresolve.trans hl))]
    exact .stopped hw
  | ok l =>
    rw [bind_ok (observe_ok hl), bind_ok (observe_ok (hresolve.trans hl))]
    dsimp only
    rw [bind_ok (debug_apply _ _ _), bind_ok (debug_apply _ _ _)]
    obtain ⟨htext, hdirectory⟩ := hread hl
    -- Until the Runfile is read the machines are as they were, so that it reads the same on both.
    have hreading : (w.debugged "runx.manager" ("Loading " ++ (Location.path l).toString)).Alike
        (Machine.Reading M (Location.path l).toString)
        (w'.debugged "runx.manager" ("Loading " ++ (Location.path l).toString)) :=
      (hw.of_machine ⟨hw.machine, htext⟩).debugged
    refine (agreeing_openScope hreading hdirectory).next (fun _ _ h => h.1) fun {scope _ v v'} hscope hscope' hid hv => ?_
    subst hid
    refine (agreeing_evaluate scope hv (hexecute hl hscope hscope')).bind fun {tasks _} htasks => ?_
    subst htasks
    exact .bind (.ofExcept _) fun merged => .pure ⟨⟨echo, rfl⟩, rfl⟩

theorem agree_concludeFailure (f : Failure) :
    Agree M Eq (Invocation.concludeFailure f) (Invocation.concludeFailure f) := by
  have hsay (message : String) (c : Conclusion) : Agree M Eq (do Invocation.say message; return c)
      (do Invocation.say message; return c) := .bind (agree_notify _ _) fun _ => .pure rfl
  cases f with
  | load => exact .bind (agree_debug _ _ _ _) fun _ => hsay _ _
  | stated | closed | settings | noRunfile | duplicateTask | unknownTask | illFormedTask | command => exact hsay _ _
  | child | endOfInput => exact hsay _ _
  | refused | linkLoop | undecodable | nullCharacter | illegalVariable | noMember | notInScope | hiddenMember | unboundName
  | notCallable | unknownLevel | badLevel | badCall | unknownHandle | longNumber | raised => exact .pure rfl

theorem agree_conclude (stop : Stop) : Agree M Eq (Invocation.conclude stop) (Invocation.conclude stop) := by
  cases stop with
  | failure f => exact agree_concludeFailure f
  | interrupt args => exact .pure rfl
  | exit args =>
    unfold Invocation.conclude
    dsimp only
    cases Stop.exitValue args <;> exact .pure rfl
  | exhausted => exact .pure rfl

/-! ## Bodies -/

end Run

/-- Two contexts are the same but for whether commands are shown and how tasks are run, and the tasks that they run agree. -/
def Context.Alike (M : Machine → Machine → Prop) (c c' : Context) : Prop :=
  ∃ echo dispatch, c' = { c with commands := { c.commands with echo }, dispatch } ∧
    ∀ name args, Run.Agree M Eq (c.dispatch name args) (dispatch name args)

/-- What a run makes of the report on a command: the output is collected, or shown as it is. -/
def Report.received (report : Report) (capture : Bool) : Run Completed := do
  if ¬capture then
    Run.writeOut report.out
    Run.writeErr report.err
  let returncode ← Run.ofExcept report.result
  if capture then
    let out ← Run.ofExcept (Host.collected report.out)
    let err ← Run.ofExcept (Host.collected report.err)
    return ⟨returncode, some out, some err⟩
  else return ⟨returncode, none, none⟩

theorem Host.run_apply (host : Host) (spawn : Spawn) (capture : Bool) (w : World) :
    host.run spawn capture w = (host spawn capture w.machine).received capture
      { w with machine := w.machine.left (host spawn capture w.machine) } := rfl

/-- A command that is shown before is the command after a line on the error output. -/
theorem Context.command_shown (c : Context) (given : Data) (options : CommandOptions) :
    c.command given options = (if c.commands.echo then Run.notify ("$ " ++ given.display) else pure ()) >>= fun _ =>
      { c with commands := { c.commands with echo := false } }.command given options := by
  unfold Context.command
  dsimp only
  rw [if_neg Bool.false_ne_true]
  cases c.commands.echo with
  | true => rfl
  | false => rfl

namespace Run

variable {α : Type} {M : Machine → Machine → Prop} {c c' : Context}

theorem silent_shown (echo : Bool) (line : String) : Silent (if echo then notify line else pure ()) := by
  cases echo with
  | true => exact silent_notify line
  | false => exact silent_pure

theorem agree_received {report report' : Report} (hresult : report'.result = report.result) (hout : report'.out = report.out)
    (herr : report'.err = report.err) (capture : Bool) : Agree M Eq (report.received capture) (report'.received capture) := by
  unfold Report.received
  rw [hresult, hout, herr]
  cases capture with
  | true =>
    exact .bind (.ofExcept _) fun _ => .bind (.ofExcept _) fun _ => .bind (.ofExcept _) fun _ => .pure rfl
  | false => exact .bind (agree_writeOut _) fun _ => .bind (agree_writeErr _ _) fun _ => .bind (.ofExcept _) fun _ => .pure rfl

theorem agree_host {host : Host} (hhost : host.Respects M) (spawn : Spawn) (capture : Bool) :
    Agree M Eq (host.run spawn capture) (host.run spawn capture) := by
  rintro w _ ⟨machine, err, log, hmachine, rfl⟩
  obtain ⟨hresult, hout, herr, hafter⟩ := hhost spawn capture _ _ hmachine
  rw [host.run_apply, host.run_apply]
  exact agree_received hresult hout herr capture _ _ ⟨_, err, log, hafter, rfl⟩

theorem agree_command (hM : Machine.Indistinct M) (hhost : c.host.Respects M) (hc : c.Alike M c') (given : Data)
    (options : CommandOptions) : Agree M Eq (c.command given options) (c'.command given options) := by
  obtain ⟨echo, dispatch, rfl, -⟩ := hc
  rw [c.command_shown, Context.command_shown { c with commands := { c.commands with echo }, dispatch }]
  refine .bind (.silent (silent_shown _ _) (silent_shown _ _)) fun _ => ?_
  unfold Context.command
  dsimp only
  rw [if_neg Bool.false_ne_true]
  refine .bind (agree_workingDirectory hM) fun cwd => .bind (agree_debug _ _ _ _) fun _ => .get fun w machine err log hmachine => ?_
  dsimp only
  rw [hM.environment hmachine]
  refine .bind (.ofExcept _) fun spawn => .bind (agree_host hhost _ _) fun completed => ?_
  split
  · exact .bind (.fail _) fun _ => .pure rfl
  · exact .pure rfl

theorem agree_runNamed (hc : c.Alike M c') (name : Data) (args : List Data) :
    Agree M Eq (c.runNamed name args) (c'.runNamed name args) := by
  obtain ⟨echo, dispatch, rfl, hdispatch⟩ := hc
  cases name with
  | text name => exact hdispatch name args
  | null | flag | int | float | moment | list | table => exact .fail _

theorem agree_lookupMember (hc : c.Alike M c') (name : String) : Agree M Eq (c.lookup name) (c'.lookup name) := by
  obtain ⟨echo, dispatch, rfl, -⟩ := hc
  show Agree M Eq (c.lookup name) (c.lookup name)
  unfold Context.lookup
  cases c.member? name with
  | some v => exact .pure rfl
  | none =>
    dsimp only
    split
    · exact .fail _
    · refine .bind (agree_bindings _) fun names => ?_
      cases names.find? name with
      | some v => exact .pure rfl
      | none => exact .fail _

theorem agree_callMember (hM : Machine.Indistinct M) (hhost : c.host.Respects M) (hc : c.Alike M c') (f : Value)
    (args : List Data) : Agree M Eq (c.call f args) (c'.call f args) := by
  have hother (h : c.call f args = Runfile.call f (args.map .data)) (h' : c'.call f args = Runfile.call f (args.map .data)) :
      Agree M Eq (c.call f args) (c'.call f args) := by
    rw [h, h']
    exact agree_call f _
  cases f with
  | function f =>
    cases f with
    | run =>
      match args with
      | [] => exact .fail _
      | name :: rest => exact agree_runNamed hc name rest
    | sh =>
      match args with
      | [] => exact .fail _
      | [line] => exact agree_command hM hhost hc line _
      | _ :: _ :: _ => exact .fail _
    | collect | describe | declare | decorate | general => exact hother rfl rfl
  | data | arguments | path | task | completed | part => exact hother rfl rfl

/-- What a step does, it does alike in contexts that are alike. -/
theorem agree_perform (hM : Machine.Indistinct M) (hhost : c.host.Respects M) (hc : c.Alike M c') (a : Action) :
    Agree M Eq (c.perform a) (c'.perform a) := by
  have hargs : c'.args = c.args := by
    obtain ⟨echo, dispatch, rfl, -⟩ := hc
    rfl
  have hscope : c'.task.scope = c.task.scope := by
    obtain ⟨echo, dispatch, rfl, -⟩ := hc
    rfl
  cases a with
  | run name args =>
    show Agree M Eq (c.runNamed name (args.getD c.args)) (c'.runNamed name (args.getD c'.args))
    rw [hargs]
    exact agree_runNamed hc name _
  | chain =>
    unfold Context.perform
    dsimp only
    rw [hargs]
    cases c.args with
    | nil => exact .pure rfl
    | cons name rest => exact agree_runNamed hc name rest
  | sh line options => exact agree_command hM hhost hc line options
  | get name => exact agree_lookupMember hc name
  | call name args => exact .bind (agree_lookupMember hc name) fun f => agree_callMember hM hhost hc f args
  | set name value =>
    unfold Context.perform
    dsimp only
    rw [hscope]
    exact .bind (agree_bind _ name _) fun _ => .pure rfl
  | print text => exact .bind (agree_writeOut _) fun _ => .pure rfl
  | input =>
    refine .bindRelated (.observeRelated hM.readLine) fun {r r'} hr => ?_
    obtain ⟨line, machine⟩ := r
    obtain ⟨line', machine'⟩ := r'
    obtain ⟨rfl, hmachine⟩ := hr
    refine .bind (fun w w' hw => ?_) fun _ => .pure rfl
    obtain ⟨_, err, log, -, rfl⟩ := hw
    exact .ended rfl ⟨machine', err, log, hmachine, rfl⟩
  | chdir path => exact .bind (agree_changeDirectory hM path) fun _ => .pure rfl
  | mkdir path => exact .bind (.change (hM.makeDirectory path)) fun _ => .pure rfl
  | rmdir path => exact .bind (.change (hM.removeDirectory path)) fun _ => .pure rfl
  | raise label args => exact .throw _
  | give value | giveLast => exact .pure rfl

theorem agree_step (hM : Machine.Indistinct M) (hhost : c.host.Respects M) (hc : c.Alike M c') (s : Step) :
    Agree M Eq (c.step s) (c'.step s) := by
  refine .tryCatch (.bind (agree_perform hM hhost hc s.action) fun v => .bind (agree_cwd? hM) fun cwd =>
    .bind (agree_record _) fun _ => .pure rfl) fun stop => ?_
  cases stop with
  | failure f =>
    cases s.catches with
    | true => exact .bind (agree_cwd? hM) fun cwd => .bind (agree_record _) fun _ => .pure rfl
    | false => exact .throw _
  | interrupt | exit | exhausted => exact .throw _

theorem agree_steps (hM : Machine.Indistinct M) (hhost : c.host.Respects M) (hc : c.Alike M c') (body : List Step) :
    ∀ last, Agree M Eq (c.steps last body) (c'.steps last body) := by
  induction body with
  | nil => exact fun _ => .pure rfl
  | cons s rest ih =>
    intro last
    rcases Bool.eq_false_or_eq_true s.action.isEnd with hend | hend
    · obtain ⟨v, hv⟩ := Context.steps_end hend last rest
      rw [hv c, hv c']
      exact .pure rfl
    · rw [c.steps_next hend, c'.steps_next hend]
      exact .bind (agree_step hM hhost hc s) fun v => ih v

theorem agree_executeBody (hM : Machine.Indistinct M) (hhost : c.host.Respects M) (hc : c.Alike M c') :
    Agree M Eq c.execute c'.execute := by
  have htask : c'.task = c.task ∧ c'.args = c.args := by
    obtain ⟨echo, dispatch, rfl, -⟩ := hc
    exact ⟨rfl, rfl⟩
  unfold Context.execute
  rw [htask.1, htask.2]
  cases c.task.body with
  | data d => exact .fail _
  | steps steps =>
    exact .bind (agree_cwd? hM) fun cwd => .bind (agree_record _) fun _ => agree_steps hM hhost hc steps .null

theorem agree_withDirectory (hM : Machine.Indistinct M) (path : Path) {x y : Run α} (h : Agree M Eq x y) :
    Agree M Eq (withDirectory path x) (withDirectory path y) := by
  have hback (previous : Location) : Agree M Eq
      (do
        Run.change (·.changeDirectory (Location.toString previous))
        Run.debug "runx.task" s!"chdir {Location.toString previous} <- {path}")
      (do
        Run.change (·.changeDirectory (Location.toString previous))
        Run.debug "runx.task" s!"chdir {Location.toString previous} <- {path}") :=
    .bind (agree_changeDirectory hM _) fun _ => agree_debug _ _ _ _
  exact .bind (agree_workingDirectory hM) fun previous => .bind (agree_changeDirectory hM _) fun _ =>
    .bind (agree_debug _ _ _ _) fun _ =>
      .bind (.tryCatch h fun stop => .bind (hback previous) fun _ => .throw stop) fun _ =>
        .bind (hback previous) fun _ => .pure rfl

/-- Tasks run alike, and so do those that they run in turn. -/
theorem agree_runTask (hM : Machine.Indistinct M) {host : Host} (hhost : host.Respects M) {m m' : Manager} (hm : m.Alike m')
    (depth : Nat) : ∀ name args, Agree M Eq (m.runTask host depth name args) (m'.runTask host depth name args) := by
  obtain ⟨echo, rfl⟩ := hm
  induction depth with
  | zero => exact fun _ _ => .throw _
  | succ depth ih =>
    intro name args
    unfold Manager.runTask
    dsimp only
    cases m.registry.find? name with
    | none => exact .fail _
    | some task =>
      exact .bind (agree_debug _ _ _ _) fun _ =>
        agree_withDirectory hM _ (agree_executeBody hM hhost ⟨echo, _, rfl, ih⟩)

theorem agree_showHelp {m m' : Manager} (hm : m.Alike m') : Agree M Eq m.showHelp m'.showHelp := by
  obtain ⟨echo, rfl⟩ := hm
  unfold Manager.showHelp
  dsimp only
  induction m.registry.help with
  | nil => exact .pure rfl
  | cons line rest ih => exact .bind (agree_notify line line) fun _ => ih

end Run
end TaskRunner
