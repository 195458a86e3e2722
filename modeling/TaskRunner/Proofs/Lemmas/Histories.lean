import TaskRunner.Proofs.Lemmas.Requests
import TaskRunner.Proofs.Lemmas.Run

/-!
# The history of an evaluation

What the statements of a Runfile ask of its declarations while they are executed (`Runfile.requests`). The declarations that an
execution leaves are those that its history leads to (`Tracks`), and what the Runfile keeps under handles are reservations that
this history has handed out, so that it applies no others.
-/

namespace TaskRunner

open Run Declarations

/-! ## Scopes -/

section scopes

variable {w : World} {id : ScopeId} {s : Scope}

/-- The declarations of a scope in a state; a scope that is not there accepts none. -/
def World.declarationsOf (w : World) (id : ScopeId) : Declarations :=
  ((w.scopes[id]?).map Scope.declarations).getD (Declarations.initial ⟨0, []⟩ id).close

theorem declarations_apply (id : ScopeId) (w : World) : Run.declarations id w = .ok (w.declarationsOf id) w := rfl

theorem declarationsOf_eq (h : w.scopes[id]? = some s) : w.declarationsOf id = s.declarations := by
  rw [World.declarationsOf, h]
  rfl

theorem bindings_apply (h : w.scopes[id]? = some s) : Run.bindings id w = .ok s.bindings w := by
  show EStateM.Result.ok (((w.scopes[id]?).map Scope.bindings).getD _) w = _
  rw [h]
  rfl

/-- The state in which a scope has other declarations. -/
def World.withDeclarations (w : World) (id : ScopeId) (d : Declarations) : World :=
  { w with scopes := w.scopes.modify id fun s => { s with declarations := d } }

theorem scope_withDeclarations (h : w.scopes[id]? = some s) (d : Declarations) :
    (w.withDeclarations id d).scopes[id]? = some { s with declarations := d } := by
  show (w.scopes.modify id _)[id]? = _
  rw [Array.getElem?_modify, if_pos rfl, h]
  rfl

/-- The state in which a scope binds a name. -/
def World.binding (w : World) (id : ScopeId) (name : String) (v : Value) : World :=
  { w with scopes := w.scopes.modify id fun s => { s with bindings := s.bindings.insert name v } }

theorem scope_binding (h : w.scopes[id]? = some s) (name : String) (v : Value) :
    (w.binding id name v).scopes[id]? = some { s with bindings := s.bindings.insert name v } := by
  show (w.scopes.modify id _)[id]? = _
  rw [Array.getElem?_modify, if_pos rfl, h]
  rfl

end scopes

namespace Runfile

/-! ## What statements ask -/

/-- What the call of a value asks of the declarations. -/
def asked (f : Value) (args : List Body) : List Request :=
  match f, args with
  | .function (.describe _), [text] => [.describe text.display]
  | .function (.declare _), [name] => [.declare name.display none]
  | .function (.declare _), [name, body] => [.declare name.display (givenBody body)]
  | .function (.decorate _ r), [body] => [.apply r body]
  | _, _ => []

/-- What is asked after a computation, if it ends. -/
def followed {α : Type} (x : Run α) (next : α → World → List Request) (w : World) : List Request :=
  match x w with
  | .ok a w' => next a w'
  | .error _ _ => []

/-- What the call of a name asks of the declarations. -/
def askedByName (scope : ScopeId) (name : String) (args : List Body) : World → List Request :=
  followed (lookup scope name) fun f _ => asked f args

/-- What is asked when names are declared one after the other. -/
def askedByAll (scope : ScopeId) : List Data → World → List Request
  | [], _ => []
  | name :: rest, w =>
    askedByName scope "run" [.data name] w ++
      followed (callNamed scope "run" [.data name]) (fun _ => askedByAll scope rest) w

/-- What is asked when one body is given to several decorators in turn. -/
def askedOfEach (body : Body) : List Value → World → List Request
  | [], _ => []
  | v :: rest, w => asked v [body] ++ followed (call v [body]) (fun _ => askedOfEach body rest) w

mutual

/-- What a statement asks of the declarations of a scope when it is executed. -/
def requests (scope : ScopeId) : Statement → World → List Request
  | .doc text, w => askedByName scope "doc" [.data text] w
  | .run name body, w => askedByName scope "run" [.data name, body] w
  | .declare name _, w => askedByName scope "run" [.data name] w
  | .apply handle body, w => followed (handled handle) (fun v _ => asked v [body]) w
  | .deco names body, w =>
    askedByAll scope names w ++ followed (declareAll scope names) (fun vs => askedOfEach body vs.reverse) w
  | .attempt body, w => requestsAll scope body w
  | .set .., _ | .define _, _ | .get _, _ | .raise .., _ | .print _, _ | .chdir _, _ => []

/-- What statements ask, up to the first that fails. -/
def requestsAll (scope : ScopeId) : List Statement → World → List Request
  | [], _ => []
  | s :: rest, w => requests scope s w ++ followed (execute scope s) (fun _ => requestsAll scope rest) w

end

/-! ## The declarations that an execution leaves -/

/-- Whether a value is what a Runfile can get hold of: of the functions only those of its own scope, and of the reservations only
some that are given. -/
def Known (scope : ScopeId) (handedOut : List Reservation) : Value → Prop
  | .function (.describe id) | .function (.declare id) => id = scope
  | .function (.decorate id r) => id = scope ∧ r ∈ handedOut
  | _ => True

theorem Known.mono {scope : ScopeId} {some more : List Reservation} {v : Value} (h : Known scope some v) (hs : some ⊆ more) :
    Known scope more v := by
  unfold Known at h ⊢
  split at h
  · exact h
  · exact h
  · exact ⟨h.1, hs h.2⟩
  · exact h

/-- The declarations of a scope are those that a history leads to, and the Runfile has got hold of no reservation but those that
the history has handed out. -/
structure Tracks (scope : ScopeId) (first : Declarations) (history : List Request) (w : World) : Prop where
  declared : ∃ s, w.scopes[scope]? = some s ∧ s.declarations = first.performAll history ∧
    ∀ name v, s.bindings.find? name = some v → Known scope (first.returned history) v
  kept : ∀ handle v, w.handles.find? handle = some v → Known scope (first.returned history) v
  applies : ∀ r body, .apply r body ∈ history → r ∈ first.returned history

section

variable {α β : Type} {scope : ScopeId} {first : Declarations} {history : List Request} {w w' : World} {s : Scope}

theorem Tracks.of_eq (h : Tracks scope first history w) (hs : w'.scopes = w.scopes) (hh : w'.handles = w.handles) :
    Tracks scope first history w' where
  declared := hs ▸ h.declared
  kept := hh ▸ h.kept
  applies := h.applies

theorem returned_append (first : Declarations) (history more : List Request) :
    first.returned (history ++ more) = first.returned history ++ (first.performAll history).returned more :=
  along_append handsOut first history more

theorem returned_subset (first : Declarations) (history more : List Request) :
    first.returned history ⊆ first.returned (history ++ more) := by
  rw [returned_append]
  exact List.subset_append_left _ _

/-- Whether a request applies at most a reservation that is given. -/
def Within (handedOut : List Reservation) : Request → Prop
  | .apply r _ => r ∈ handedOut
  | _ => True

/-- One more request, of what the Runfile has got hold of. -/
theorem Tracks.performed (h : Tracks scope first history w) {q : Request} (hq : Within (first.returned history) q)
    (hs : w.scopes[scope]? = some s)
    (hs' : w'.scopes[scope]? = some { s with declarations := s.declarations.perform q }) (hh : w'.handles = w.handles) :
    Tracks scope first (history ++ [q]) w' := by
  obtain ⟨_, hscope, hd, hb⟩ := h.declared
  cases hs.symm.trans hscope
  have hsub := returned_subset first history [q]
  refine ⟨⟨_, hs', ?_, fun name v hv => (hb name v hv).mono hsub⟩,
    fun handle v hv => (h.kept handle v (hh ▸ hv)).mono hsub, fun r body hr => ?_⟩
  · rw [performAll_append, hd]
    rfl
  · rcases List.mem_append.1 hr with hr | hr
    · exact hsub (h.applies r body hr)
    · rw [← List.mem_singleton.1 hr] at hq
      exact hsub hq

/-! ## Calls -/

/-- The state after it is said in the log that a task has been declared. -/
def announcing (w : World) (t : Task) : World := after (announce t) w

theorem describe_apply (h : w.scopes[scope]? = some s) (text : String) :
    describe scope text w = match s.declarations.describe text with
      | .ok d => .ok .null (w.withDeclarations scope d)
      | .error f => .error (.failure f) w := by
  unfold describe
  rw [bind_ok (declarations_apply scope w), declarationsOf_eq h]
  cases s.declarations.describe text <;> rfl

theorem declare_apply (h : w.scopes[scope]? = some s) (name : String) (body : Option Body) :
    declare scope name body w = match s.declarations.declare name body with
      | (.ok (.task t), d) => .ok .null (announcing (w.withDeclarations scope d) t)
      | (.ok (.reservation r), d) => .ok (.function (.decorate scope r)) (w.withDeclarations scope d)
      | (.error f, d) => .error (.failure f) (w.withDeclarations scope d) := by
  unfold declare
  rw [bind_ok (declarations_apply scope w), declarationsOf_eq h]
  rcases s.declarations.declare name body with ⟨_ | (_ | _), d⟩ <;> rfl

theorem decorate_apply (h : w.scopes[scope]? = some s) (r : Reservation) (body : Body) :
    decorate scope r body w = match s.declarations.apply r body with
      | (.ok t, d) => .ok .null (announcing (w.withDeclarations scope d) t)
      | (.error f, d) => .error (.failure f) (w.withDeclarations scope d) := by
  unfold decorate
  rw [bind_ok (declarations_apply scope w), declarationsOf_eq h]
  rcases s.declarations.apply r body with ⟨_ | _, d⟩ <;> rfl

theorem lookup_apply (h : w.scopes[scope]? = some s) (name : String) :
    lookup scope name w = match s.bindings.find? name with
      | some v => .ok v w
      | none => .error (.failure (.unboundName name)) w := by
  unfold lookup
  rw [bind_ok (bindings_apply h)]
  cases s.bindings.find? name <;> rfl

theorem handled_apply (handle : String) (w : World) :
    handled handle w = match w.handles.find? handle with
      | some v => .ok v w
      | none => .error (.failure (.unknownHandle handle)) w := by
  unfold handled
  rw [bind_ok (get_apply w)]
  cases w.handles.find? handle <;> rfl

/-- A computation that asks something, in a state that a history has led to: the history goes on with what is asked, and a value
that the computation ends with is good. -/
def Yields (scope : ScopeId) (first : Declarations) (history : List Request) (x : Run α) (asks : List Request)
    (good : List Reservation → α → Prop) (w : World) : Prop :=
  Tracks scope first (history ++ asks) (after x w) ∧ ∀ a w', x w = .ok a w' → good (first.returned (history ++ asks)) a

theorem Yields.of_ok {x : Run α} {asks : List Request} {good : List Reservation → α → Prop} {a : α} (h : x w = .ok a w')
    (ht : Tracks scope first (history ++ asks) w') (hg : good (first.returned (history ++ asks)) a) :
    Yields scope first history x asks good w := by
  refine ⟨by rwa [after_of_ok h], fun b w'' hb => ?_⟩
  rw [h] at hb
  cases hb
  exact hg

theorem Yields.of_error {x : Run α} {asks : List Request} {good : List Reservation → α → Prop} {stop : Stop}
    (h : x w = .error stop w') (ht : Tracks scope first (history ++ asks) w') :
    Yields scope first history x asks good w := by
  refine ⟨by rwa [after_of_error h], fun b w'' hb => ?_⟩
  rw [h] at hb
  cases hb

/-- What follows a computation goes on from the history that the computation leaves. -/
theorem Yields.bind {x : Run α} {f : α → Run β} {asks : List Request} {next : α → World → List Request}
    {good : List Reservation → α → Prop} {good' : List Reservation → β → Prop}
    (hx : Yields scope first history x asks good w)
    (hf : ∀ a w', Tracks scope first (history ++ asks) w' → good (first.returned (history ++ asks)) a →
      Yields scope first (history ++ asks) (f a) (next a w') good' w') :
    Yields scope first history (x >>= f) (asks ++ followed x next w) good' w := by
  obtain ⟨ht, hg⟩ := hx
  cases h : x w with
  | ok a w' =>
    rw [after_of_ok h] at ht
    have hnext := hf a w' ht (hg a w' h)
    rw [followed, h, Yields, after, ← List.append_assoc, bind_ok h]
    exact hnext
  | error stop w' =>
    rw [after_of_error h] at ht
    rw [followed, h, List.append_nil]
    exact Yields.of_error (bind_error h f) ht

/-- What follows a computation may ask nothing more. -/
theorem Yields.finish {x : Run α} {f : α → Run β} {asks : List Request} {good : List Reservation → α → Prop}
    {good' : List Reservation → β → Prop} (hx : Yields scope first history x asks good w)
    (hf : ∀ a w', Tracks scope first (history ++ asks) w' → good (first.returned (history ++ asks)) a →
      Yields scope first (history ++ asks) (f a) [] good' w') : Yields scope first history (x >>= f) asks good' w := by
  have h : Yields scope first history (x >>= f) (asks ++ followed x (fun _ _ => []) w) good' w := hx.bind hf
  have hnil : followed x (fun _ _ => []) w = [] := by
    rw [followed]
    cases x w <;> rfl
  rwa [hnil, List.append_nil] at h

theorem Yields.map {x : Run α} {g : α → β} {asks : List Request} {good : List Reservation → α → Prop}
    {good' : List Reservation → β → Prop} (hx : Yields scope first history x asks good w)
    (hg : ∀ a, good (first.returned (history ++ asks)) a → good' (first.returned (history ++ asks)) (g a)) :
    Yields scope first history (x >>= fun a => pure (g a)) asks good' w := by
  refine hx.finish fun a w' ht ha => Yields.of_ok rfl (by rwa [List.append_nil]) ?_
  rw [List.append_nil]
  exact hg a ha

/-- A computation that leaves the scopes and the handles alone asks nothing. -/
theorem Tracks.yields_nil {x : Run α} {good : List Reservation → α → Prop} (h : Tracks scope first history w)
    (hs : (after x w).scopes = w.scopes) (hh : (after x w).handles = w.handles)
    (hg : ∀ a w', x w = .ok a w' → good (first.returned history) a) : Yields scope first history x [] good w := by
  rw [Yields, List.append_nil]
  exact ⟨h.of_eq hs hh, hg⟩

theorem yields_describe (h : Tracks scope first history w) (text : String) :
    Yields scope first history (describe scope text) [.describe text] (Known scope) w := by
  obtain ⟨s, hs, -⟩ := h.declared
  have hx := describe_apply hs text
  cases hd : s.declarations.describe text with
  | ok d =>
    have hp : s.declarations.perform (.describe text) = d := by rw [perform, answer, hd]
    rw [hd] at hx
    refine Yields.of_ok hx (h.performed trivial hs ?_ rfl) trivial
    rw [hp]
    exact scope_withDeclarations hs d
  | error f =>
    have hp : s.declarations.perform (.describe text) = s.declarations := by rw [perform, answer, hd]
    rw [hd] at hx
    refine Yields.of_error hx (h.performed trivial hs ?_ rfl)
    rw [hp]
    exact hs

theorem yields_declare (h : Tracks scope first history w) (name : String) (body : Option Body) :
    Yields scope first history (declare scope name body) [.declare name body] (Known scope) w := by
  obtain ⟨s, hs, hhist, -⟩ := h.declared
  have hx := declare_apply hs name body
  have hp := perform_declare s.declarations name body
  have hnext {w'} (hw' : w'.scopes = (w.withDeclarations scope (s.declarations.perform (.declare name body))).scopes)
      (hh : w'.handles = w.handles) : Tracks scope first (history ++ [.declare name body]) w' := by
    refine h.performed trivial hs ?_ hh
    rw [hw']
    exact scope_withDeclarations hs _
  rcases hd : s.declarations.declare name body with ⟨f | (t | r), d⟩
  · rw [hd] at hx hp
    exact Yields.of_error hx (hnext (by rw [hp]) rfl)
  · rw [hd] at hx hp
    exact Yields.of_ok hx (hnext (by rw [hp]; rfl) rfl) trivial
  · rw [hd] at hx hp
    refine Yields.of_ok hx (hnext (by rw [hp]) rfl) ⟨rfl, ?_⟩
    rw [returned_append, ← hhist]
    refine List.mem_append_right _ ?_
    rw [returned, along, handsOut, answer, hd]
    exact List.mem_singleton_self r

theorem yields_decorate (h : Tracks scope first history w) {r : Reservation} (hr : r ∈ first.returned history) (body : Body) :
    Yields scope first history (decorate scope r body) [.apply r body] (Known scope) w := by
  obtain ⟨s, hs, -⟩ := h.declared
  have hx := decorate_apply hs r body
  have hp := perform_application s.declarations r body
  have hnext {w'} (hw' : w'.scopes = (w.withDeclarations scope (s.declarations.perform (.apply r body))).scopes)
      (hh : w'.handles = w.handles) : Tracks scope first (history ++ [.apply r body]) w' := by
    refine h.performed hr hs ?_ hh
    rw [hw']
    exact scope_withDeclarations hs _
  rcases hd : s.declarations.apply r body with ⟨f | t, d⟩
  · rw [hd] at hx hp
    exact Yields.of_error hx (hnext (by rw [hp]) rfl)
  · rw [hd] at hx hp
    exact Yields.of_ok hx (hnext (by rw [hp]; rfl) rfl) trivial

theorem yields_fail (h : Tracks scope first history w) (f : Failure) (good : List Reservation → α → Prop) :
    Yields scope first history (Run.fail f : Run α) [] good w :=
  h.yields_nil rfl rfl nofun

theorem yields_call (h : Tracks scope first history w) {f : Value} (hf : Known scope (first.returned history) f)
    (args : List Body) : Yields scope first history (call f args) (asked f args) (Known scope) w := by
  cases f with
  | function f =>
    cases f with
    | collect =>
      refine h.yields_nil rfl rfl fun a w' ha => ?_
      cases ha
      trivial
    | describe id =>
      obtain rfl : id = scope := hf
      match args with
      | [] => exact yields_fail h _ _
      | [text] => exact yields_describe h text.display
      | _ :: _ :: _ => exact yields_fail h _ _
    | declare id =>
      obtain rfl : id = scope := hf
      match args with
      | [] => exact yields_fail h _ _
      | [name] => exact yields_declare h name.display none
      | [name, body] => exact yields_declare h name.display (givenBody body)
      | _ :: _ :: _ :: _ => exact yields_fail h _ _
    | decorate id r =>
      obtain ⟨rfl, hr⟩ := hf
      match args with
      | [] => exact yields_fail h _ _
      | [body] => exact yields_decorate h hr body
      | _ :: _ :: _ => exact yields_fail h _ _
    | run | sh | general => exact yields_fail h _ _
  | data | arguments | path | task | completed | part => exact yields_fail h _ _

/-! ## Statements -/

theorem yields_lookup (h : Tracks scope first history w) (name : String) :
    Yields scope first history (lookup scope name) [] (Known scope) w := by
  obtain ⟨s, hs, -, hb⟩ := h.declared
  have hx := lookup_apply hs name
  have ht : Tracks scope first (history ++ []) w := by rwa [List.append_nil]
  cases hv : s.bindings.find? name with
  | some v =>
    rw [hv] at hx
    refine Yields.of_ok hx ht ?_
    rw [List.append_nil]
    exact hb name v hv
  | none =>
    rw [hv] at hx
    exact Yields.of_error hx ht

theorem yields_handled (h : Tracks scope first history w) (handle : String) :
    Yields scope first history (handled handle) [] (Known scope) w := by
  have hx := handled_apply handle w
  have ht : Tracks scope first (history ++ []) w := by rwa [List.append_nil]
  cases hv : w.handles.find? handle with
  | some v =>
    rw [hv] at hx
    refine Yields.of_ok hx ht ?_
    rw [List.append_nil]
    exact h.kept handle v hv
  | none =>
    rw [hv] at hx
    exact Yields.of_error hx ht

theorem yields_callNamed (h : Tracks scope first history w) (name : String) (args : List Body) :
    Yields scope first history (callNamed scope name args) (askedByName scope name args w) (Known scope) w :=
  (yields_lookup h name).bind fun _ _ ht hf => yields_call ht hf args

theorem yields_declareAll (names : List Data) : ∀ {history w}, Tracks scope first history w →
    Yields scope first history (declareAll scope names) (askedByAll scope names w)
      (fun handedOut vs => ∀ v ∈ vs, Known scope handedOut v) w := by
  induction names with
  | nil =>
    intro history w h
    exact Yields.of_ok rfl (by rwa [askedByAll, List.append_nil]) nofun
  | cons name rest ih =>
    intro history w h
    refine (yields_callNamed h "run" [.data name]).bind fun v w' ht hv => (ih ht).map fun vs hvs v' hv' => ?_
    rcases List.mem_cons.1 hv' with rfl | hv'
    · exact hv.mono (returned_subset _ _ _)
    · exact hvs v' hv'

theorem yields_decorateAll (body : Body) (vs : List Value) : ∀ {history w}, Tracks scope first history w →
    (∀ v ∈ vs, Known scope (first.returned history) v) →
    Yields scope first history (decorateAll body vs) (askedOfEach body vs w) (fun _ _ => True) w := by
  induction vs with
  | nil =>
    intro history w h _
    exact Yields.of_ok rfl (by rwa [askedOfEach, List.append_nil]) trivial
  | cons v rest ih =>
    intro history w h hvs
    refine (yields_call h (hvs v List.mem_cons_self) [body]).bind fun _ w' ht _ => ih ht fun v' hv' => ?_
    exact (hvs v' (List.mem_cons_of_mem _ hv')).mono (returned_subset _ _ _)

theorem Tracks.binding (h : Tracks scope first history w) (name : String) {v : Value}
    (hv : ∀ handedOut, Known scope handedOut v) : Tracks scope first history (w.binding scope name v) := by
  obtain ⟨s, hs, hd, hb⟩ := h.declared
  refine ⟨⟨_, scope_binding hs name v, hd, fun other u hu => ?_⟩, h.kept, h.applies⟩
  rw [Assoc.find?_insert] at hu
  split at hu
  · cases hu
    exact hv _
  · exact hb other u hu

theorem Tracks.keeping (h : Tracks scope first history w) (handle : String) {v : Value}
    (hv : Known scope (first.returned history) v) :
    Tracks scope first history { w with handles := w.handles.insert handle v } := by
  refine ⟨h.declared, fun other u hu => ?_, h.applies⟩
  rw [Assoc.find?_insert] at hu
  split at hu
  · cases hu
    exact hv
  · exact h.kept other u hu

theorem yields_change (h : Tracks scope first history w) (f : Machine → Except Failure Machine) :
    Yields scope first history (Run.change f) [] (fun _ _ => True) w := by
  cases hf : f w.machine with
  | ok m => exact Yields.of_ok (change_ok hf) (by rw [List.append_nil]; exact h.of_eq rfl rfl) trivial
  | error e => exact Yields.of_error (change_error hf) (by rwa [List.append_nil])

/-- A failure that is caught takes nothing back of what was asked before it. -/
theorem Yields.attempt {x : Run Unit} {asks : List Request} {handle : Stop → Run Unit}
    (hx : Yields scope first history x asks (fun _ _ => True) w)
    (hh : ∀ stop w', (after (handle stop) w').scopes = w'.scopes ∧ (after (handle stop) w').handles = w'.handles) :
    Yields scope first history (tryCatch x handle) asks (fun _ _ => True) w := by
  refine ⟨?_, fun _ _ _ => trivial⟩
  have ht := hx.1
  rw [after, tryCatch_apply]
  cases h : x w with
  | ok a w' => rwa [after_of_ok h] at ht
  | error stop w' =>
    rw [after_of_error h] at ht
    exact ht.of_eq (hh stop w').1 (hh stop w').2

mutual

theorem yields_execute (st : Statement) {history : List Request} {w : World} (h : Tracks scope first history w) :
    Yields scope first history (execute scope st) (requests scope st w) (fun _ _ => True) w := by
  cases st with
  | doc text => exact (yields_callNamed h "doc" [.data text]).map fun _ _ => trivial
  | run name body => exact (yields_callNamed h "run" [.data name, body]).map fun _ _ => trivial
  | declare name handle =>
    refine (yields_callNamed h "run" [.data name]).finish fun v w' ht hv => ?_
    refine Yields.of_ok rfl ?_ trivial
    rw [List.append_nil]
    exact ht.keeping handle hv
  | apply handle body =>
    exact (yields_handled h handle).bind fun v _ ht hv => (yields_call ht hv [body]).map fun _ _ => trivial
  | deco names body =>
    exact (yields_declareAll names h).bind fun vs _ ht hvs =>
      yields_decorateAll body vs.reverse ht fun v hv => hvs v (List.mem_reverse.1 hv)
  | set name value =>
    refine Yields.of_ok rfl ?_ trivial
    rw [requests, List.append_nil]
    exact h.binding name fun _ => trivial
  | define name =>
    refine Yields.of_ok rfl ?_ trivial
    rw [requests, List.append_nil]
    exact h.binding name fun _ => trivial
  | get name => exact (yields_lookup h name).finish fun v _ ht _ => ht.yields_nil rfl rfl fun _ _ _ => trivial
  | raise label args => exact h.yields_nil rfl rfl nofun
  | attempt body =>
    refine (yields_executeAll body h).attempt fun stop w' => ?_
    cases stop <;> exact ⟨rfl, rfl⟩
  | print text => exact h.yields_nil rfl rfl fun _ _ _ => trivial
  | chdir path =>
    rw [execute, requests]
    exact yields_change h _

theorem yields_executeAll (sts : List Statement) {history : List Request} {w : World} (h : Tracks scope first history w) :
    Yields scope first history (executeAll scope sts) (requestsAll scope sts w) (fun _ _ => True) w := by
  cases sts with
  | nil => exact Yields.of_ok rfl (by rwa [requestsAll, List.append_nil]) trivial
  | cons st rest => exact (yields_execute st h).bind fun _ _ ht _ => yields_executeAll rest ht

end

/-! ## Evaluation -/

end

section evaluate

variable {scope : ScopeId} {path : Path} {w : World} {s : Scope}

/-- The state in which a Runfile is read and its statements are executed. -/
def starting (scope : ScopeId) (path : Path) (w : World) : World :=
  { w.binding scope "__file__" (.data (.text path.toString)) with handles := Assoc.empty }

/-- The state when an evaluation is over: the handles are those from before it, and the declarations are closed. -/
def ended (scope : ScopeId) (before w : World) : World :=
  ({ w with handles := before.handles } : World).withDeclarations scope (w.declarationsOf scope).close

/-- The statements of a Runfile, executed in a scope. -/
def loading (scope : ScopeId) (path : Path) : Run Unit := do executeAll scope (← readStatements path)

/-- The handles from before are back when an action with handles of its own has ended. -/
theorem withOwnHandles_ok {α : Type} {action : Run α} {w w₁ : World} {a : α}
    (h : action { w with handles := Assoc.empty } = .ok a w₁) :
    withOwnHandles action w = .ok a { w₁ with handles := w.handles } := by
  unfold withOwnHandles
  rw [bind_ok (get_apply w), bind_ok (modify_apply _ w), bind_apply, tryCatch_apply, h]
  rfl

/-- They are back as well when it has been stopped. -/
theorem withOwnHandles_error {α : Type} {action : Run α} {w w₁ : World} {stop : Stop}
    (h : action { w with handles := Assoc.empty } = .error stop w₁) :
    withOwnHandles action w = .error stop { w₁ with handles := w.handles } := by
  unfold withOwnHandles
  rw [bind_ok (get_apply w), bind_ok (modify_apply _ w), bind_apply, tryCatch_apply, h]
  rfl

/-- Closed declarations are not evaluated again. -/
theorem evaluate_closed (hclosed : (w.declarationsOf scope).closed = true) (path : Path) :
    evaluate scope path w = .error (.failure .closed) w := by
  unfold evaluate
  rw [bind_ok (declarations_apply scope w), hclosed]
  rfl

/-- Statements that end well are followed by the closing and the settling of the declarations. -/
theorem evaluate_of_ok {w₁ : World} (h : (w.declarationsOf scope).closed = false)
    (hx : loading scope path (starting scope path w) = .ok () w₁) :
    evaluate scope path w = Run.ofExcept ((ended scope w w₁).declarationsOf scope).settle (ended scope w w₁) := by
  unfold evaluate
  rw [bind_ok (declarations_apply scope w), h]
  have hown : withOwnHandles (loading scope path) (w.binding scope "__file__" (.data (.text path.toString))) =
      .ok () { w₁ with handles := w.handles } := withOwnHandles_ok hx
  show (tryCatch (withOwnHandles (loading scope path)) _ >>= _) (w.binding scope "__file__" (.data (.text path.toString))) = _
  rw [bind_apply, tryCatch_apply, hown]
  rfl

/-- Statements that are stopped are followed by the closing of the declarations. -/
theorem evaluate_of_error {w₁ : World} {stop : Stop} (h : (w.declarationsOf scope).closed = false)
    (hx : loading scope path (starting scope path w) = .error stop w₁) :
    evaluate scope path w = .error (wrapStop path stop) (ended scope w w₁) := by
  unfold evaluate
  rw [bind_ok (declarations_apply scope w), h]
  have hown : withOwnHandles (loading scope path) (w.binding scope "__file__" (.data (.text path.toString))) =
      .error stop { w₁ with handles := w.handles } := withOwnHandles_error hx
  show (tryCatch (withOwnHandles (loading scope path)) _ >>= _) (w.binding scope "__file__" (.data (.text path.toString))) = _
  rw [bind_apply, tryCatch_apply, hown]
  rfl

/-- However the statements end, the closing of the declarations is the last that an evaluation does. -/
theorem after_evaluate (h : (w.declarationsOf scope).closed = false) (path : Path) :
    after (evaluate scope path) w = ended scope w (after (loading scope path) (starting scope path w)) := by
  cases hx : loading scope path (starting scope path w) with
  | error stop w₁ => rw [after_of_error (evaluate_of_error h hx), after_of_error hx]
  | ok u w₁ =>
    rw [after_congr (evaluate_of_ok h hx), after_of_ok hx]
    cases ((ended scope w w₁).declarationsOf scope).settle <;> rfl

/-- To close declarations is not to change what they settle to. -/
theorem settle_ended (w w₁ : World) (scope : ScopeId) :
    ((ended scope w w₁).declarationsOf scope).settle = (w₁.declarationsOf scope).settle := by
  cases hs : w₁.scopes[scope]? with
  | some s =>
    have hs' : (ended scope w w₁).scopes[scope]? = some { s with declarations := (w₁.declarationsOf scope).close } :=
      scope_withDeclarations hs _
    rw [declarationsOf_eq hs']
    rfl
  | none =>
    have hs' : (ended scope w w₁).scopes[scope]? = none := by
      show (w₁.scopes.modify scope _)[scope]? = none
      rw [Array.getElem?_modify, if_pos rfl, hs]
      rfl
    rw [World.declarationsOf, World.declarationsOf, hs, hs']

/-- Statements that end well, and whose declarations can be settled, are evaluated to their tasks. -/
theorem evaluate_of_statements {statements : List Statement} {tasks : List Task} {w₁ : World}
    (h : (w.declarationsOf scope).closed = false)
    (hread : readStatements path (starting scope path w) = .ok statements (starting scope path w))
    (hall : executeAll scope statements (starting scope path w) = .ok () w₁)
    (hsettle : (w₁.declarationsOf scope).settle = .ok tasks) :
    evaluate scope path w = .ok tasks (ended scope w w₁) := by
  have hload : loading scope path (starting scope path w) = .ok () w₁ := (bind_ok hread _).trans hall
  rw [evaluate_of_ok h hload, settle_ended, hsettle]
  rfl

/-- An evaluation that gives tasks has executed all statements and settled their declarations. -/
theorem evaluate_eq_ok {tasks : List Task} {w' : World} (hopen : (w.declarationsOf scope).closed = false)
    (h : evaluate scope path w = .ok tasks w') :
    ∃ w₁, loading scope path (starting scope path w) = .ok () w₁ ∧
      ((ended scope w w₁).declarationsOf scope).settle = .ok tasks := by
  cases hx : loading scope path (starting scope path w) with
  | ok u w₁ =>
    rw [evaluate_of_ok hopen hx] at h
    exact ⟨w₁, rfl, (ofExcept_eq_ok h).1⟩
  | error stop w₁ =>
    rw [evaluate_of_error hopen hx] at h
    cases h

/-- What the Runfile at a path asks of the declarations of a scope when it is evaluated. -/
def historyOf (scope : ScopeId) (path : Path) (w : World) : List Request :=
  followed (readStatements path) (requestsAll scope) (starting scope path w)

theorem readStatements_ok {text : String} {statements : List Statement} (ht : w.machine.readText path.toString = .ok text)
    (hs : Runfile.read w.abbreviations text = .ok statements) : readStatements path w = .ok statements w := by
  unfold readStatements
  rw [bind_ok (observe_ok ht), bind_ok (get_apply w), hs]
  rfl

theorem historyOf_eq {statements : List Statement}
    (h : readStatements path (starting scope path w) = .ok statements (starting scope path w)) :
    historyOf scope path w = requestsAll scope statements (starting scope path w) := by
  rw [historyOf, followed, h]

/-- A Runfile of one line that abbreviates statements stands for these. -/
theorem read_abbreviation (statements : List Statement) :
    Runfile.read (Assoc.ofList [("r", statements)]) "r" = .ok statements := by
  have hcode : withoutComments "r" = "r" := by decide +kernel
  have hlines : linesOf "r" = ["r"] := by decide +kernel
  unfold Runfile.read
  simp only [hcode, hlines]
  rw [if_neg (by decide)]
  exact congrArg Except.ok (List.append_nil statements)

/-- To read a Runfile is to change nothing. -/
theorem after_readStatements (path : Path) (w : World) : after (readStatements path) w = w := by
  have hp : Preserving fun w w' : World => w' = w := ⟨fun _ => rfl, fun h h' => h'.trans h⟩
  refine hp.bind (hp.observe _) (fun text => hp.bind hp.get fun w' => ?_) w
  cases read w'.abbreviations text with
  | ok statements => exact hp.pure _
  | error fault => exact hp.fail _

/-- The state in which a new scope has been made for the tasks of a directory. -/
def opened (w : World) (l : Location) : World :=
  { w with scopes := w.scopes.push {
      bindings := Assoc.ofList
        [("__name__", .data (.text "runfile")), ("doc", .function (.describe w.scopes.size)),
          ("run", .function (.declare w.scopes.size))]
      declarations := initial (Location.path l) w.scopes.size } }

theorem openScope_ok {directory : Path} {l : Location} (h : w.machine.resolve directory = .ok l) :
    openScope directory w = .ok w.scopes.size (opened w l) := by
  unfold openScope
  rw [bind_ok (observe_ok h)]
  rfl

theorem openScope_eq_ok {directory : Path} {w₀ : World} (h : openScope directory w = .ok scope w₀) :
    ∃ l, w.machine.resolve directory = .ok l ∧ scope = w.scopes.size ∧ w₀ = opened w l := by
  cases hl : w.machine.resolve directory with
  | ok l =>
    rw [openScope_ok hl] at h
    cases h
    exact ⟨l, rfl, rfl, rfl⟩
  | error f =>
    rw [openScope, bind_error (observe_error hl)] at h
    cases h

theorem scope_opened (w : World) (l : Location) : (opened w l).scopes[w.scopes.size]? = some {
    bindings := Assoc.ofList
      [("__name__", .data (.text "runfile")), ("doc", .function (.describe w.scopes.size)),
        ("run", .function (.declare w.scopes.size))]
    declarations := initial (Location.path l) w.scopes.size } := Array.getElem?_push_size

/-- A scope that has been opened has declarations of its directory, without any task. -/
theorem scope_of_openScope {directory : Path} {w₀ : World} (h : openScope directory w = .ok scope w₀) :
    ∃ l s, w.machine.resolve directory = .ok l ∧ w₀.scopes[scope]? = some s ∧
      s.declarations = initial (Location.path l) scope := by
  obtain ⟨l, hl, rfl, rfl⟩ := openScope_eq_ok h
  exact ⟨l, _, hl, scope_opened w l, rfl⟩

/-- A Runfile starts without a history. -/
theorem tracks_starting (w : World) (l : Location) (path : Path) :
    Tracks w.scopes.size (initial (Location.path l) w.scopes.size) [] (starting w.scopes.size path (opened w l)) := by
  refine ⟨⟨_, scope_binding (scope_opened w l) _ _, rfl, fun name v hv => ?_⟩, nofun, nofun⟩
  have hentry := Assoc.mem_toList_of_find? hv
  change (name, v) ∈ [("__name__", _), ("doc", _), ("run", _), ("__file__", _)] at hentry
  simp only [List.mem_cons, List.not_mem_nil, or_false, Prod.mk.injEq] at hentry
  rcases hentry with ⟨-, rfl⟩ | ⟨-, rfl⟩ | ⟨-, rfl⟩ | ⟨-, rfl⟩
  · trivial
  · rfl
  · rfl
  · trivial

/-- To read and to execute a Runfile is to go on from the history that has led to where it starts. -/
theorem Tracks.loading {first : Declarations} {history : List Request} (h : Tracks scope first history (starting scope path w)) :
    Tracks scope first (history ++ historyOf scope path w) (after (loading scope path) (starting scope path w)) := by
  have hread : Yields scope first history (readStatements path) [] (fun _ _ => True) (starting scope path w) :=
    h.yields_nil (by rw [after_readStatements]) (by rw [after_readStatements]) fun _ _ _ => trivial
  have hall := hread.bind fun statements w' ht _ => yields_executeAll statements ht
  exact hall.1

/-- The declarations of a Runfile that has been executed are those that its history leads to. -/
theorem tracks_loading {directory : Path} {w₀ w₁ : World} (h : openScope directory w = .ok scope w₀)
    (hx : loading scope path (starting scope path w₀) = .ok () w₁) :
    Tracks scope (w₀.declarationsOf scope) (historyOf scope path w₀) w₁ := by
  obtain ⟨l, -, rfl, rfl⟩ := openScope_eq_ok h
  rw [declarationsOf_eq (scope_opened w l), ← after_of_ok hx]
  exact (tracks_starting w l path).loading

/-- What an evaluation gives is settled by the declarations that the history of the Runfile leads to. -/
theorem settle_of_evaluate {directory : Path} {w₀ w' : World} {tasks : List Task}
    (hscope : openScope directory w = .ok scope w₀) (h : evaluate scope path w₀ = .ok tasks w') :
    ∃ l, w.machine.resolve directory = .ok l ∧ w₀.declarationsOf scope = initial (Location.path l) scope ∧
      (∀ r body, .apply r body ∈ historyOf scope path w₀ →
        r ∈ (initial (Location.path l) scope).returned (historyOf scope path w₀)) ∧
      ((initial (Location.path l) scope).performAll (historyOf scope path w₀)).settle = .ok tasks := by
  obtain ⟨l, s₀, hl, hs₀, hdeclared₀⟩ := scope_of_openScope hscope
  have hfirst : w₀.declarationsOf scope = initial (Location.path l) scope := (declarationsOf_eq hs₀).trans hdeclared₀
  obtain ⟨w₁, hload, hsettle⟩ := evaluate_eq_ok (by rw [hfirst]; rfl) h
  have htracks := tracks_loading hscope hload
  obtain ⟨s, hs, hdeclared, -⟩ := htracks.declared
  have happlies := htracks.applies
  rw [settle_ended, declarationsOf_eq hs, hdeclared] at hsettle
  rw [hfirst] at hsettle happlies
  exact ⟨l, hl, hfirst, happlies, hsettle⟩

/-- The tasks of a Runfile are of the directory that its scope was opened for, and of this scope. -/
theorem owned_of_evaluate {directory : Path} {l : Location} {w₀ w' : World} {tasks : List Task}
    (hl : w.machine.resolve directory = .ok l) (hscope : openScope directory w = .ok scope w₀)
    (h : evaluate scope path w₀ = .ok tasks w') {t : Task} (ht : t ∈ tasks) :
    t.directory = Location.path l ∧ t.scope = scope := by
  obtain ⟨l', hl', -, happlies, hsettle⟩ := settle_of_evaluate hscope h
  obtain rfl : l = l' := Except.ok.inj (hl.symm.trans hl')
  obtain ⟨-, rfl⟩ := settle_eq_ok hsettle
  have hwell := wellFormed_performAll (genuine_of_applies happlies) (wellFormed_initial (Location.path l) scope)
  obtain ⟨hdirectory, hid⟩ := hwell.owned_tasks ht
  rw [hdirectory, hid]
  exact (frame_performAll _ _).2

end evaluate

/-! ## A Runfile in the root -/

namespace AtRoot

def machine : Machine := ⟨FileSystem.empty.putFile ["Runfile"] "r".toUTF8, ⟨[], 0⟩, ⟨[], []⟩, Assoc.empty⟩

/-- A Runfile in the root, with given statements. -/
def world (statements : List Statement) : World :=
  { World.initial machine ["runner"] with abbreviations := Assoc.ofList [("r", statements)] }

def directory : Path := ⟨1, []⟩

def path : Path := ⟨1, ["Runfile"]⟩

theorem resolve_machine : machine.resolve directory = .ok [] := ok_of_toOption (by decide +kernel)

theorem readText_machine : machine.readText path.toString = .ok "r" := ok_of_toOption (by decide +kernel)

theorem openScope_world (statements : List Statement) :
    openScope directory (world statements) = .ok 0 (opened (world statements) []) :=
  openScope_ok resolve_machine

theorem readStatements_world (statements : List Statement) :
    readStatements path (starting 0 path (opened (world statements) [])) =
      .ok statements (starting 0 path (opened (world statements) [])) :=
  readStatements_ok readText_machine (read_abbreviation statements)

theorem declarationsOf_world (statements : List Statement) :
    (opened (world statements) []).declarationsOf 0 = initial (Location.path []) 0 :=
  declarationsOf_eq (scope_opened (world statements) [])

end AtRoot

end Runfile
end TaskRunner
