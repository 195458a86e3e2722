import TaskRunner.Proofs.Lemmas.Histories
import TaskRunner.Proofs.Lemmas.Layout

/-!
# What a Runfile promises

A Runfile that only describes and declares tasks, with bodies that can be run, names whose keys are distinct and decorators that are
applied once each, promises one task for each declaration (`promised`). Its statements keep what it has promised: the tasks so far are
laid out in its declarations, those that still wait for their bodies among them. What such a task becomes is fixed when it is
declared, by the first application of its handle that is to come.
-/

namespace TaskRunner

open Run Declarations

namespace Runfile

/-! ## Promised tasks -/

/-- The text of the last documentation before a statement and after the declaration before it; the statements are latest first. -/
def docBefore : List Statement → Option String
  | [] => none
  | .doc text :: _ => some text.display
  | .run .. :: _ | .declare .. :: _ | .deco (_ :: _) _ :: _ => none
  | _ :: earlier => docBefore earlier

/-- The body that is given first to what is kept under a handle. -/
def given (handle : String) : List Statement → Option Body
  | [] => none
  | .apply other body :: rest => if other = handle then some body else given handle rest
  | _ :: rest => given handle rest

/-- The tasks of names that are declared one after the other with one body; the documentation is that of the first. -/
def stacked (directory : Path) (scope : ScopeId) (body : Body) : Option String → List Data → List Task
  | _, [] => []
  | doc, name :: rest => ⟨name.display, doc, body, directory, scope⟩ :: stacked directory scope body none rest

theorem keys_stacked (directory : Path) (scope : ScopeId) (body : Body) (doc : Option String) (names : List Data) :
    (stacked directory scope body doc names).map Task.key = names.map fun name => keyOf name.display := by
  induction names generalizing doc with
  | nil => rfl
  | cons name rest ih => exact congrArg (keyOf name.display :: ·) (ih none)

/-- The tasks that statements promise after others, which are given latest first: one for each declaration, in order. -/
def promised (directory : Path) (scope : ScopeId) : List Statement → List Statement → List (Option Task)
  | _, [] => []
  | earlier, .run name body :: rest =>
    some ⟨name.display, docBefore earlier, body, directory, scope⟩ ::
      promised directory scope (.run name body :: earlier) rest
  | earlier, .declare name handle :: rest =>
    (given handle rest).map (fun body => ⟨name.display, docBefore earlier, body, directory, scope⟩) ::
      promised directory scope (.declare name handle :: earlier) rest
  | earlier, .deco names body :: rest =>
    (stacked directory scope body (docBefore earlier) names).map some ++
      promised directory scope (.deco names body :: earlier) rest
  | earlier, st :: rest => promised directory scope (st :: earlier) rest

/-! ## Runfiles without errors -/

/-- A statement that describes or declares tasks with bodies that can be run, or that has nothing to do with tasks. -/
def Statement.IsPlain : Statement → Prop
  | .doc _ | .declare .. | .print _ => True
  | .run _ body | .apply _ body | .deco _ body => body.isCallable = true
  | .set name _ | .define name => name ≠ "doc" ∧ name ≠ "run"
  | .get _ | .raise .. | .attempt _ | .chdir _ => False

/-- Every decorator that waits under one of the handles, or that comes to, is applied once and not lost sight of before. -/
def AppliedOnce : List String → List Statement → Prop
  | waiting, [] => waiting = []
  | waiting, .declare _ handle :: rest => handle ∉ waiting ∧ AppliedOnce (handle :: waiting) rest
  | waiting, .apply handle _ :: rest => handle ∈ waiting ∧ AppliedOnce (waiting.filter (· ≠ handle)) rest
  | waiting, _ :: rest => AppliedOnce waiting rest

/-- The names that a statement declares. -/
def Statement.declared : Statement → List Data
  | .run name _ | .declare name _ => [name]
  | .deco names _ => names
  | _ => []

/-- The keys that statements declare. -/
def keysOf (statements : List Statement) : List String :=
  (statements.flatMap Statement.declared).map fun name => keyOf name.display

/-- A Runfile without errors. -/
structure Orderly (statements : List Statement) : Prop where
  plain : ∀ st ∈ statements, st.IsPlain
  apart : (keysOf statements).Nodup
  applied : AppliedOnce [] statements

/-! ## Single statements -/

/-- A scope has promised some tasks, and its names lead to its declarations. -/
def Promises (directory : Path) (scope : ScopeId) (tasks : List Task) (waiting : List String) (doc : Option String)
    (w : World) : Prop :=
  ∃ s, w.scopes[scope]? = some s ∧ Laid directory scope tasks waiting doc s.declarations ∧
    s.bindings.find? "doc" = some (.function (.describe scope)) ∧ s.bindings.find? "run" = some (.function (.declare scope))

section

variable {directory : Path} {scope : ScopeId} {tasks : List Task} {waiting : List String} {doc : Option String} {w w' : World}

theorem Promises.of_eq (h : Promises directory scope tasks waiting doc w) (hs : w'.scopes = w.scopes) :
    Promises directory scope tasks waiting doc w' := by
  rw [Promises, hs]
  exact h

theorem lookup_ok {s : Scope} {name : String} {v : Value} (hs : w.scopes[scope]? = some s)
    (hv : s.bindings.find? name = some v) : lookup scope name w = .ok v w := by
  rw [lookup_apply hs, hv]

theorem handled_ok {handle : String} {v : Value} (hv : w.handles.find? handle = some v) : handled handle w = .ok v w := by
  rw [handled_apply, hv]

theorem givenBody_callable {body : Body} (h : body.isCallable = true) : givenBody body = some body := by
  cases body with
  | steps => rfl
  | data => cases h

/-- A description is for the next declaration. -/
theorem Promises.describe (h : Promises directory scope tasks waiting doc w) (text : Data) :
    ∃ v w', callNamed scope "doc" [.data text] w = .ok v w' ∧ w'.handles = w.handles ∧
      Promises directory scope tasks waiting (some text.display) w' := by
  obtain ⟨s, hs, hlaid, hdoc, hrun⟩ := h
  have hcall : Runfile.describe scope text.display w =
      .ok .null (w.withDeclarations scope { s.declarations with pending := some text.display }) := by
    rw [describe_apply hs, describe_open hlaid.isOpen]
  refine ⟨.null, _, (bind_ok (lookup_ok hs hdoc) _).trans hcall, rfl, ?_⟩
  exact ⟨_, scope_withDeclarations hs _, hlaid.described text.display, hdoc, hrun⟩

/-- A declaration with a body. -/
theorem Promises.declare (h : Promises directory scope tasks waiting doc w) (name : Data) {body : Body}
    (hbody : body.isCallable = true) (hkey : keyOf name.display ∉ tasks.map Task.key) :
    ∃ v w', callNamed scope "run" [.data name, body] w = .ok v w' ∧ w'.handles = w.handles ∧
      Promises directory scope (tasks ++ [⟨name.display, doc, body, directory, scope⟩]) waiting none w' := by
  obtain ⟨s, hs, hlaid, hdoc, hrun⟩ := h
  have hcall : Runfile.declare scope name.display (givenBody body) w = .ok .null
      (announcing (w.withDeclarations scope (s.declarations.undescribed.withTask name.display s.declarations.pending body))
        (s.declarations.taskOf name.display s.declarations.pending body)) := by
    rw [givenBody_callable hbody, declare_apply hs, declare_task hlaid.isOpen (hlaid.free hkey) hbody]
  refine ⟨.null, _, (bind_ok (lookup_ok hs hrun) _).trans hcall, rfl, ?_⟩
  exact ⟨_, scope_withDeclarations hs _, hlaid.declared body hkey, hdoc, hrun⟩

/-- A declaration by name, for a body that is to come. -/
theorem Promises.reserve (h : Promises directory scope tasks waiting doc w) (name : Data) (body : Body)
    (hkey : keyOf name.display ∉ tasks.map Task.key) :
    ∃ w', callNamed scope "run" [.data name] w =
        .ok (.function (.decorate scope ⟨keyOf name.display, name.display, doc⟩)) w' ∧ w'.handles = w.handles ∧
      Promises directory scope (tasks ++ [⟨name.display, doc, body, directory, scope⟩]) (keyOf name.display :: waiting) none
        w' := by
  obtain ⟨s, hs, hlaid, hdoc, hrun⟩ := h
  have hcall : Runfile.declare scope name.display none w =
      .ok (.function (.decorate scope ⟨keyOf name.display, name.display, doc⟩))
        (w.withDeclarations scope (s.declarations.withReservation name.display)) := by
    rw [declare_apply hs, declare_reserves hlaid.isOpen (hlaid.free hkey), reservationOf, hlaid.doc]
  refine ⟨_, (bind_ok (lookup_ok hs hrun) _).trans hcall, rfl, ?_⟩
  exact ⟨_, scope_withDeclarations hs _, hlaid.awaited body hkey, hdoc, hrun⟩

/-- The body comes. -/
theorem Promises.fulfil (h : Promises directory scope tasks waiting doc w) {r : Reservation} {body : Body}
    (hbody : body.isCallable = true) (hr : r.key = keyOf r.name) (hw : r.key ∈ waiting)
    (ht : ⟨r.name, r.doc, body, directory, scope⟩ ∈ tasks) :
    ∃ v w', call (.function (.decorate scope r)) [body] w = .ok v w' ∧ w'.handles = w.handles ∧
      Promises directory scope tasks (waiting.filter (· ≠ r.key)) doc w' := by
  obtain ⟨s, hs, hlaid, hdoc, hrun⟩ := h
  have hfree : s.declarations.committed.contains (keyOf r.name) = false := by
    have hnone := hlaid.there _ ht
    rw [Task.key, ← hr, if_pos hw, hr] at hnone
    rw [Assoc.contains, hnone]
    rfl
  have hcall : decorate scope r body w = .ok .null
      (announcing (w.withDeclarations scope ((s.declarations.released r.key).withTask r.name r.doc body))
        (s.declarations.taskOf r.name r.doc body)) := by
    rw [decorate_apply hs, apply_task hlaid.isOpen hbody hfree]
  refine ⟨.null, _, hcall, rfl, ?_⟩
  exact ⟨_, scope_withDeclarations hs _, hlaid.applied hr hw ht, hdoc, hrun⟩

theorem decorateAll_append (body : Body) (vs : List Value) (v : Value) {w₁ w₂ : World} {u : Value}
    (hvs : decorateAll body vs w = .ok () w₁) (hv : call v [body] w₁ = .ok u w₂) :
    decorateAll body (vs ++ [v]) w = .ok () w₂ := by
  induction vs generalizing w with
  | nil =>
    cases hvs
    exact bind_ok hv _
  | cons first rest ih =>
    obtain ⟨u', w₃, hfirst, hrest⟩ := bind_eq_ok hvs
    exact (bind_ok hfirst _).trans (ih hrest)

/-- One body for several names. The names are declared from the first to the last and get the body from the last to the first, so
that what is done for the later names lies between the declaration of a name and its body. -/
theorem Promises.deco {body : Body} (hbody : body.isCallable = true) {names : List Data}
    (h : Promises directory scope tasks waiting doc w)
    (hapart : (tasks.map Task.key ++ names.map fun name => keyOf name.display).Nodup) :
    ∃ vs w₁ w', declareAll scope names w = .ok vs w₁ ∧ decorateAll body vs.reverse w₁ = .ok () w' ∧ w'.handles = w.handles ∧
      Promises directory scope (tasks ++ stacked directory scope body doc names) waiting (if names = [] then doc else none)
        w' := by
  induction names generalizing tasks waiting doc w with
  | nil => exact ⟨[], w, w, rfl, rfl, rfl, by rwa [stacked, List.append_nil, if_pos rfl]⟩
  | cons name rest ih =>
    have hkey : keyOf name.display ∉ tasks.map Task.key := fun hm =>
      (List.nodup_append.1 hapart).2.2 _ hm _ List.mem_cons_self rfl
    have hwaiting : keyOf name.display ∉ waiting := by
      obtain ⟨s, -, hlaid, -⟩ := h
      exact fun hw => hkey (hlaid.placed _ hw)
    obtain ⟨w₁, hdeclare, hhandles₁, h₁⟩ := h.reserve name body hkey
    obtain ⟨vs, w₂, w₃, hdeclareAll, hdecorateAll, hhandles₃, h₃⟩ := ih h₁ (by
      rw [List.map_append, List.append_assoc]
      exact hapart)
    obtain ⟨u, w₄, hcall, hhandles₄, h₄⟩ := h₃.fulfil (r := ⟨keyOf name.display, name.display, doc⟩) hbody rfl
      List.mem_cons_self (List.mem_append_left _ (List.mem_append_right _ (List.mem_singleton_self _)))
    -- the later names have got their bodies, so that this one is all that is left to wait
    have hwaits : (keyOf name.display :: waiting).filter (· ≠ keyOf name.display) = waiting := by
      rw [List.filter_cons_of_neg (by simp), List.filter_eq_self]
      exact fun key hw => decide_eq_true fun he => hwaiting (he ▸ hw)
    rw [hwaits, List.append_assoc, ite_self] at h₄
    refine ⟨_ :: vs, w₂, w₄, (bind_ok hdeclare _).trans ((bind_ok hdeclareAll _).trans rfl), ?_,
      by rw [hhandles₄, hhandles₃, hhandles₁], h₄⟩
    rw [List.reverse_cons]
    exact decorateAll_append body _ _ hdecorateAll hcall

/-! ## Whole Runfiles -/

/-- A decorator that waits under a handle is given a body. -/
theorem AppliedOnce.given {statements : List Statement} : ∀ {handles : List String}, AppliedOnce handles statements →
    ∀ {handle : String}, handle ∈ handles → ∃ body, given handle statements = some body := by
  induction statements with
  | nil =>
    intro handles h handle hm
    rw [AppliedOnce] at h
    rw [h] at hm
    cases hm
  | cons st rest ih =>
    intro handles h handle hm
    cases st with
    | declare name other => exact ih h.2 (List.mem_cons_of_mem _ hm)
    | apply other body =>
      by_cases he : other = handle
      · exact ⟨body, if_pos he⟩
      · rw [Runfile.given, if_neg he]
        exact ih h.2 (List.mem_filter.2 ⟨hm, decide_eq_true (Ne.symm he)⟩)
    | doc | run | deco | set | define | get | raise | attempt | print | chdir => exact ih h hm

/-- What is kept under handles are decorators that wait, each for the body that makes its task the promised one. -/
structure Awaits (directory : Path) (scope : ScopeId) (tasks : List Task) (rest : List Statement)
    (held : List (String × Reservation)) (w : World) : Prop where
  kept : ∀ p ∈ held, w.handles.find? p.1 = some (.function (.decorate scope p.2))
  genuine : ∀ p ∈ held, p.2.key = keyOf p.2.name
  awaited : ∀ p ∈ held, ∃ body, given p.1 rest = some body ∧ ⟨p.2.name, p.2.doc, body, directory, scope⟩ ∈ tasks
  handles : (held.map Prod.fst).Nodup
  keys : (held.map fun p => p.2.key).Nodup

section

variable {tasks' : List Task} {rest rest' : List Statement} {held : List (String × Reservation)}

/-- Statements that leave the handles alone, and more promises. -/
theorem Awaits.mono (h : Awaits directory scope tasks rest held w) (hh : w'.handles = w.handles) (ht : tasks ⊆ tasks')
    (hrest : ∀ handle, given handle rest' = given handle rest) : Awaits directory scope tasks' rest' held w' where
  kept := hh ▸ h.kept
  genuine := h.genuine
  awaited := by
    intro p hp
    obtain ⟨body, hgiven, hm⟩ := h.awaited p hp
    exact ⟨body, (hrest p.1).trans hgiven, ht hm⟩
  handles := h.handles
  keys := h.keys

/-- One more decorator waits. -/
theorem Awaits.keeping (h : Awaits directory scope tasks rest held w) {handle : String} {r : Reservation} {body : Body}
    (hr : r.key = keyOf r.name) (hhandle : handle ∉ held.map Prod.fst) (hkey : r.key ∉ held.map fun p => p.2.key)
    (hgiven : given handle rest = some body) (ht : ⟨r.name, r.doc, body, directory, scope⟩ ∈ tasks) :
    Awaits directory scope tasks rest ((handle, r) :: held)
      { w with handles := w.handles.insert handle (.function (.decorate scope r)) } where
  kept := by
    intro p hp
    rcases List.mem_cons.1 hp with rfl | hp
    · exact Assoc.find?_insert_self _ _ _
    · have hne : p.1 ≠ handle := fun he => hhandle (he ▸ List.mem_map_of_mem hp)
      exact (Assoc.find?_insert_ne _ _ hne).trans (h.kept p hp)
  genuine := by
    intro p hp
    rcases List.mem_cons.1 hp with rfl | hp
    · exact hr
    · exact h.genuine p hp
  awaited := by
    intro p hp
    rcases List.mem_cons.1 hp with rfl | hp
    · exact ⟨body, hgiven, ht⟩
    · exact h.awaited p hp
  handles := List.nodup_cons.2 ⟨hhandle, h.handles⟩
  keys := List.nodup_cons.2 ⟨hkey, h.keys⟩

/-- A decorator that has got its body waits no longer. -/
theorem Awaits.applied {handle : String} {body : Body} (h : Awaits directory scope tasks (.apply handle body :: rest) held w)
    (hh : w'.handles = w.handles) :
    Awaits directory scope tasks rest (held.filter fun p => p.1 ≠ handle) w' where
  kept := fun p hp => hh ▸ h.kept p (List.mem_filter.1 hp).1
  genuine := fun p hp => h.genuine p (List.mem_filter.1 hp).1
  awaited := by
    intro p hp
    obtain ⟨hp, hne⟩ := List.mem_filter.1 hp
    obtain ⟨other, hgiven, ht⟩ := h.awaited p hp
    rw [given, if_neg (Ne.symm (of_decide_eq_true hne))] at hgiven
    exact ⟨other, hgiven, ht⟩
  handles := h.handles.sublist (List.filter_sublist.map _)
  keys := h.keys.sublist (List.filter_sublist.map _)

/-- To take a handle away is to take its key away. -/
theorem Awaits.keys_filter (h : Awaits directory scope tasks rest held w) {handle : String} {r : Reservation}
    (hm : (handle, r) ∈ held) :
    (held.map fun p => p.2.key).filter (· ≠ r.key) = (held.filter fun p => p.1 ≠ handle).map fun p => p.2.key := by
  rw [List.filter_map]
  congr 1
  refine List.filter_congr fun p hp => ?_
  have hkey : p.2.key = r.key ↔ p = (handle, r) := ⟨fun he => List.inj_on_of_nodup_map h.keys hp hm he, fun he => he ▸ rfl⟩
  have hhandle : p.1 = handle ↔ p = (handle, r) :=
    ⟨fun he => List.inj_on_of_nodup_map h.handles hp hm he, fun he => he ▸ rfl⟩
  simp [hkey, hhandle]

end

/-- A key that is declared next is not among those of the tasks so far. -/
theorem not_mem_keys_of_nodup {keys rest : List String} {key : String} (h : (keys ++ key :: rest).Nodup) : key ∉ keys :=
  fun hm => (List.nodup_append.1 h).2.2 key hm key List.mem_cons_self rfl

/-- Bindings of other names leave what the Runfile declares through. -/
theorem Promises.binding (h : Promises directory scope tasks waiting doc w) {name : String} (v : Value)
    (hname : name ≠ "doc" ∧ name ≠ "run") : Promises directory scope tasks waiting doc (w.binding scope name v) := by
  obtain ⟨s, hs, hlaid, hdoc, hrun⟩ := h
  refine ⟨_, scope_binding hs name v, hlaid, ?_, ?_⟩
  · exact (Assoc.find?_insert_ne _ _ hname.1.symm).trans hdoc
  · exact (Assoc.find?_insert_ne _ _ hname.2.symm).trans hrun

/-- The state between two statements of a Runfile: what the statements before it, latest first, have promised is laid out, and what
waits under handles is for those after it. -/
structure Between (directory : Path) (scope : ScopeId) (earlier rest : List Statement) (tasks : List Task)
    (held : List (String × Reservation)) (w : World) : Prop where
  applied : AppliedOnce (held.map Prod.fst) rest
  promises : Promises directory scope tasks (held.map fun p => p.2.key) (docBefore earlier) w
  awaits : Awaits directory scope tasks rest held w

/-- A statement makes the promises of its declarations. -/
theorem execute_promised {st : Statement} {earlier rest : List Statement} {held : List (String × Reservation)}
    (hplain : st.IsPlain) (hapart : (tasks.map Task.key ++ st.declared.map fun name => keyOf name.display).Nodup)
    (h : Between directory scope earlier (st :: rest) tasks held w) :
    ∃ more held' w', execute scope st w = .ok () w' ∧
      promised directory scope earlier (st :: rest) = more.map some ++ promised directory scope (st :: earlier) rest ∧
      more.map Task.key = (st.declared.map fun name => keyOf name.display) ∧
      Between directory scope (st :: earlier) rest (tasks ++ more) held' w' := by
  obtain ⟨happlied, hpromises, hawaits⟩ := h
  have hsame : tasks ++ [] = tasks := List.append_nil tasks
  have hmore {more : List Task} : tasks ⊆ tasks ++ more := List.subset_append_left _ _
  cases st with
  | doc text =>
    obtain ⟨v, w', hcall, hhandles, hpromises'⟩ := hpromises.describe text
    refine ⟨[], held, w', bind_ok hcall _, rfl, rfl, happlied, ?_, hawaits.mono hhandles hmore fun _ => rfl⟩
    rwa [hsame]
  | run name body =>
    obtain ⟨v, w', hcall, hhandles, hpromises'⟩ := hpromises.declare name hplain (not_mem_keys_of_nodup hapart)
    exact ⟨_, held, w', bind_ok hcall _, rfl, rfl, happlied, hpromises', hawaits.mono hhandles hmore fun _ => rfl⟩
  | declare name handle =>
    obtain ⟨hhandle, happlied⟩ := happlied
    obtain ⟨body, hgiven⟩ := happlied.given List.mem_cons_self
    have hfresh := not_mem_keys_of_nodup hapart
    have hkey : keyOf name.display ∉ held.map fun p => p.2.key := by
      obtain ⟨s, -, hlaid, -⟩ := hpromises
      exact fun hm => hfresh (hlaid.placed _ hm)
    obtain ⟨w', hcall, hhandles, hpromises'⟩ := hpromises.reserve name body hfresh
    let r : Reservation := ⟨keyOf name.display, name.display, docBefore earlier⟩
    let t : Task := ⟨name.display, docBefore earlier, body, directory, scope⟩
    have hawaits' : Awaits directory scope (tasks ++ [t]) rest held w' := hawaits.mono hhandles hmore fun _ => rfl
    refine ⟨[t], (handle, r) :: held, _, bind_ok hcall _, ?_, rfl, happlied, hpromises'.of_eq rfl,
      hawaits'.keeping rfl hhandle hkey hgiven (List.mem_append_right _ (List.mem_singleton_self t))⟩
    rw [promised, hgiven]
    rfl
  | apply handle body =>
    obtain ⟨hhandle, happlied⟩ := happlied
    obtain ⟨⟨_, r⟩, hm, rfl⟩ := List.mem_map.1 hhandle
    obtain ⟨body', hgiven, ht⟩ := hawaits.awaited _ hm
    -- this is the application that was foreseen when the name was declared
    obtain rfl : body = body' := Option.some.inj ((if_pos rfl).symm.trans hgiven)
    obtain ⟨v, w', hcall, hhandles, hpromises'⟩ := hpromises.fulfil hplain (hawaits.genuine _ hm) (List.mem_map_of_mem hm) ht
    rw [hawaits.keys_filter hm] at hpromises'
    rw [List.filter_map] at happlied
    refine ⟨[], _, w', (bind_ok (handled_ok (hawaits.kept _ hm)) _).trans (bind_ok hcall _), rfl, rfl, happlied, ?_, ?_⟩
    · rwa [hsame]
    · rw [hsame]
      exact hawaits.applied hhandles
  | deco names body =>
    obtain ⟨vs, w₁, w', hdeclare, hdecorate, hhandles, hpromises'⟩ := hpromises.deco hplain hapart
    refine ⟨_, held, w', (bind_ok hdeclare _).trans hdecorate, rfl, ?_, happlied, ?_, hawaits.mono hhandles hmore fun _ => rfl⟩
    · exact keys_stacked directory scope body _ names
    · cases names <;> exact hpromises'
  | set name value =>
    refine ⟨[], held, _, rfl, rfl, rfl, happlied, ?_, hawaits.mono rfl hmore fun _ => rfl⟩
    rw [hsame]
    exact hpromises.binding _ hplain
  | define name =>
    refine ⟨[], held, _, rfl, rfl, rfl, happlied, ?_, hawaits.mono rfl hmore fun _ => rfl⟩
    rw [hsame]
    exact hpromises.binding _ hplain
  | print text =>
    refine ⟨[], held, _, rfl, rfl, rfl, happlied, ?_, hawaits.mono rfl hmore fun _ => rfl⟩
    rw [hsame]
    exact hpromises.of_eq rfl
  | get | raise | attempt | chdir => exact hplain.elim

theorem keysOf_cons (st : Statement) (rest : List Statement) :
    keysOf (st :: rest) = (st.declared.map fun name => keyOf name.display) ++ keysOf rest := by
  rw [keysOf, List.flatMap_cons, List.map_append]
  rfl

/-- What a Runfile without errors has promised is there when its statements have been executed. The induction is on the statements
that are left. -/
theorem executeAll_promised {rest : List Statement} : ∀ {earlier : List Statement} {tasks : List Task}
    {held : List (String × Reservation)} {w : World}, (∀ st ∈ rest, st.IsPlain) → (tasks.map Task.key ++ keysOf rest).Nodup →
    Between directory scope earlier rest tasks held w →
    ∃ tasks' doc' w', executeAll scope rest w = .ok () w' ∧
      tasks'.map some = tasks.map some ++ promised directory scope earlier rest ∧
      tasks'.map Task.key = tasks.map Task.key ++ keysOf rest ∧ Promises directory scope tasks' [] doc' w' := by
  induction rest with
  | nil =>
    intro earlier tasks held w _ _ h
    have hnone : held = [] := List.map_eq_nil_iff.1 h.applied
    subst hnone
    exact ⟨tasks, _, w, rfl, (List.append_nil _).symm, (List.append_nil _).symm, h.promises⟩
  | cons st rest ih =>
    intro earlier tasks held w hplain hapart h
    rw [keysOf_cons, ← List.append_assoc] at hapart
    obtain ⟨more, held', w₁, hst, hmore, hkeys, h₁⟩ :=
      execute_promised (hplain st List.mem_cons_self) (List.nodup_append.1 hapart).1 h
    rw [← hkeys, ← List.map_append] at hapart
    obtain ⟨tasks', doc', w', hall, htasks, hkeys', h'⟩ :=
      ih (fun st' hm => hplain st' (List.mem_cons_of_mem _ hm)) hapart h₁
    refine ⟨tasks', doc', w', (bind_ok hst _).trans hall, ?_, ?_, h'⟩
    · rw [htasks, hmore, List.map_append, List.append_assoc]
    · rw [hkeys', List.map_append, List.append_assoc, hkeys, keysOf_cons]

end

end Runfile
end TaskRunner
