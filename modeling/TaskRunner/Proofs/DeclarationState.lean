import Mathlib.Data.List.Induction
import TaskRunner.Proofs.Lemmas.Histories

/-!
# The declarations of a Runfile that is being loaded

What holds of the declarations of an open scope after any sequence of requests, refused ones among them
(`Runfile.declarations_of_requests`): which keys have tasks and which wait for one, what the table lists, which requests are
refused as duplicates, and that a further request takes nothing out of the table and moves nothing in it. A key can come to stand
twice in the order, so that it is the first place of each that counts.
-/

namespace TaskRunner

open Run

namespace Declarations

variable {d d' : Declarations} {q : Request} {a : Answer} {key : String}

/-! ## The table of tasks -/

/-- A request puts its key into the table at most once. -/
theorem Step.single (hstep : Step d q a d') (h : d.committed.Single) : d'.committed.Single := by
  cases hstep with
  | closed | held | taken | illFormed | reserved | lost => exact h
  | declared | applied => exact h.insert _ _

theorem single_performAll (history : List Request) (h : d.committed.Single) : (d.performAll history).committed.Single := by
  induction history generalizing d with
  | nil => exact h
  | cons q rest ih => exact ih ((step d q).single h)

theorem placeKey_prefix (order : List String) (key : String) : ∃ more, placeKey order key = order ++ more := by
  unfold placeKey
  split
  · exact ⟨[], (List.append_nil _).symm⟩
  · exact ⟨[key], rfl⟩

/-- The order only grows, at its end. -/
theorem Step.order_prefix (hstep : Step d q a d') : ∃ more, d'.order = d.order ++ more := by
  cases hstep with
  | closed | held | taken | illFormed | lost => exact ⟨[], (List.append_nil _).symm⟩
  | declared | applied => exact placeKey_prefix _ _
  | reserved name => exact ⟨[keyOf name], rfl⟩

/-- The tasks that are listed before a request are listed after it, as they are and in the same order. -/
theorem Step.tasks_sublist (hstep : Step d q a d') : d.tasks.Sublist d'.tasks := by
  obtain ⟨more, horder⟩ := hstep.order_prefix
  have hkeys : d.order.eraseDups.Sublist d'.order.eraseDups := by
    rw [horder]
    exact (eraseDups_prefix_append d.order more).sublist
  exact (filterMap_sublist_filterMap (fun key t h => hstep.find?_committed h) _).trans (hkeys.filterMap d'.committed.find?)

/-- The table lists every task once. -/
theorem WellFormed.tasks_perm (h : d.WellFormed) (hsingle : d.committed.Single) : d.tasks.Perm d.committed.values := by
  -- the places of keys without a task list nothing
  have hthere : d.tasks = (d.order.eraseDups.filter (· ∈ d.committed.keys)).filterMap d.committed.find? := by
    rw [List.filterMap_filter]
    refine List.filterMap_congr fun key _ => ?_
    by_cases hkey : key ∈ d.committed.keys
    · rw [if_pos (decide_eq_true hkey)]
    · rw [if_neg (by simpa using hkey)]
      have hcontains := (d.committed.not_mem_keys_iff key).1 hkey
      exact Option.isNone_iff_eq_none.1 (Option.isSome_eq_false_iff.1 hcontains)
  have hkeys : (d.order.eraseDups.filter (· ∈ d.committed.keys)).Perm d.committed.keys := by
    refine (List.perm_ext_iff_of_nodup ((nodup_eraseDups _).filter _) hsingle).2 fun key => ?_
    rw [List.mem_filter, List.mem_eraseDups, decide_eq_true_eq, and_iff_right_iff_imp]
    exact h.placed key
  rw [hthere, ← Assoc.filterMap_keys hsingle]
  exact hkeys.filterMap _

/-- No two tasks of the table have the same key. -/
theorem WellFormed.nodup_tasks (h : d.WellFormed) (hsingle : d.committed.Single) : (d.tasks.map Task.key).Nodup := by
  have hkeys : d.committed.values.map Task.key = d.committed.keys := by
    rw [Assoc.values, List.map_map, Assoc.keys]
    exact List.map_congr_left fun entry he => (h.filed entry he).symm
  refine ((h.tasks_perm hsingle).map Task.key).nodup_iff.2 ?_
  rw [hkeys]
  exact hsingle

/-! ## Keys that wait -/

/-- A request reserves the key of the reservation that it is answered with, and settles that of the one it applies. -/
theorem Step.mem_reserved (hstep : Step d q a d') :
    key ∈ d'.reserved.keys ↔ (∃ r, a = .reservation r ∧ r.key = key) ∨
      (key ∈ d.reserved.keys ∧ ∀ r body, q = .apply r body → r.key ≠ key) := by
  -- neither a reservation nor an application
  have hother (ha : ∀ r, a ≠ .reservation r) (hq : ∀ r body, q ≠ .apply r body) :
      key ∈ d.reserved.keys ↔ (∃ r, a = .reservation r ∧ r.key = key) ∨
        (key ∈ d.reserved.keys ∧ ∀ r body, q = .apply r body → r.key ≠ key) := by
    refine ⟨fun h => .inr ⟨h, fun r body he => absurd he (hq r body)⟩, ?_⟩
    rintro (⟨r, he, -⟩ | ⟨h, -⟩)
    · exact absurd he (ha r)
    · exact h
  have happly (r : Reservation) (ha : ∀ r', a ≠ .reservation r') (hq : ∃ body, q = .apply r body) :
      key ∈ (d.reserved.erase r.key).keys ↔ (∃ r', a = .reservation r' ∧ r'.key = key) ∨
        (key ∈ d.reserved.keys ∧ ∀ r' body, q = .apply r' body → r'.key ≠ key) := by
    obtain ⟨body, rfl⟩ := hq
    rw [Assoc.mem_keys_erase]
    constructor
    · rintro ⟨h, hne⟩
      refine .inr ⟨h, fun r' body' he => ?_⟩
      cases he
      exact Ne.symm hne
    · rintro (⟨r', he, -⟩ | ⟨h, hne⟩)
      · exact absurd he (ha r')
      · exact ⟨h, Ne.symm (hne r body rfl)⟩
  cases hstep with
  | closed _ _ hq => exact hother nofun hq
  | held | taken | illFormed | declared => exact hother nofun nofun
  | reserved name _ hfree =>
    rw [withReservation, Assoc.mem_keys_insert]
    constructor
    · rintro (rfl | h)
      · exact .inl ⟨_, rfl, rfl⟩
      · exact .inr ⟨h, nofun⟩
    · rintro (⟨r, he, rfl⟩ | ⟨h, -⟩)
      · cases he
        exact .inl rfl
      · exact .inr h
  | lost r body => exact happly r nofun ⟨body, rfl⟩
  | applied r body => exact happly r nofun ⟨body, rfl⟩

/-- A key was reserved in a history, and no reservation of this key has been given a body since. -/
def Waits (d : Declarations) (history : List Request) (key : String) : Prop :=
  ∃ before name later r, history = before ++ .declare name none :: later ∧
    r ∈ (d.performAll before).handsOut (.declare name none) ∧ r.key = key ∧ ∀ r' body, .apply r' body ∈ later → r'.key ≠ key

/-- With one more request a key waits if the request has reserved it, or it has waited and the request does not settle it. -/
theorem waits_snoc (d : Declarations) (history : List Request) (q : Request) (key : String) :
    d.Waits (history ++ [q]) key ↔ (∃ r, ((d.performAll history).answer q).1 = .reservation r ∧ r.key = key) ∨
      (d.Waits history key ∧ ∀ r body, q = .apply r body → r.key ≠ key) := by
  constructor
  · rintro ⟨before, name, later, r, heq, hr, hkey, hlater⟩
    rcases List.eq_nil_or_concat later with rfl | ⟨later, last, rfl⟩
    · obtain ⟨rfl, hq⟩ := List.append_inj' heq rfl
      rw [(List.cons.inj hq).1]
      exact .inl ⟨r, mem_handsOut hr, hkey⟩
    · rw [List.concat_eq_append] at heq hlater
      have heq' : history ++ [q] = (before ++ .declare name none :: later) ++ [last] := by
        rw [heq, List.append_assoc, List.cons_append]
      obtain ⟨rfl, hq⟩ := List.append_inj' heq' rfl
      obtain rfl := (List.cons.inj hq).1
      exact .inr ⟨⟨before, name, later, r, rfl, hr, hkey, fun r' body h => hlater r' body (List.mem_append_left _ h)⟩,
        fun r' body he => hlater r' body (he ▸ List.mem_append_right _ (List.mem_singleton_self _))⟩
  · rintro (⟨r, ha, hkey⟩ | ⟨⟨before, name, later, r, rfl, hr, hkey, hlater⟩, hq⟩)
    · have hstep := step (d.performAll history) q
      rw [ha] at hstep
      obtain ⟨name, rfl, -⟩ := hstep.reservation
      exact ⟨history, name, [], r, rfl, by rw [handsOut, ha]; exact List.mem_singleton_self r, hkey, nofun⟩
    · refine ⟨before, name, later ++ [q], r, by rw [List.append_assoc, List.cons_append], hr, hkey, fun r' body h => ?_⟩
      rcases List.mem_append.1 h with h | h
      · exact hlater r' body h
      · exact hq r' body (List.mem_singleton.1 h).symm

/-- The keys that are reserved are those that wait. -/
theorem mem_reserved_iff_waits (h : d.reserved = Assoc.empty) (history : List Request) (key : String) :
    key ∈ (d.performAll history).reserved.keys ↔ d.Waits history key := by
  induction history using List.reverseRecOn with
  | nil =>
    rw [performAll_nil, h]
    constructor
    · exact fun hmem => absurd hmem List.not_mem_nil
    · rintro ⟨before, name, later, r, heq, -⟩
      exact absurd heq.symm (List.append_ne_nil_of_right_ne_nil _ (List.cons_ne_nil _ _))
  | append_singleton history q ih =>
    rw [performAll_append, waits_snoc, ← ih]
    exact (step (d.performAll history) q).mem_reserved

/-! ## Duplicates -/

theorem isTaken_iff (d : Declarations) (key : String) :
    d.isTaken key = true ↔ key ∈ d.committed.keys ∨ key ∈ d.reserved.keys := by
  rw [isTaken, Bool.or_eq_true, Assoc.contains_iff_mem_keys, Assoc.contains_iff_mem_keys]

/-- Open declarations refuse a name as a duplicate if and only if its key is taken. -/
theorem refused_duplicate_iff (hopen : d.closed = false) (name : String) (body : Option Body) (other : String) :
    (d.answer (.declare name body)).1 = .refused (.duplicateTask other) ↔ d.isTaken (keyOf name) = true ∧ other = name := by
  have hstep := step d (.declare name body)
  generalize (d.answer (.declare name body)).1 = a at hstep ⊢
  generalize d.perform (.declare name body) = d' at hstep
  have hfree (h : d.isTaken (keyOf name) = false) : ¬(d.isTaken (keyOf name) = true ∧ other = name) := by
    rintro ⟨ht, -⟩
    rw [h] at ht
    cases ht
  cases hstep with
  | closed _ hclosed =>
    rw [hopen] at hclosed
    cases hclosed
  | taken _ _ _ htaken =>
    constructor
    · intro h
      cases h
      exact ⟨htaken, rfl⟩
    · rintro ⟨-, rfl⟩
      rfl
  | illFormed _ _ _ h => exact ⟨nofun, fun ht => absurd ht (hfree h)⟩
  | declared _ _ _ h => exact ⟨nofun, fun ht => absurd ht (hfree h)⟩
  | reserved _ _ h => exact ⟨nofun, fun ht => absurd ht (hfree h)⟩

end Declarations

namespace Runfile

open Declarations

variable {scope : ScopeId} {w : World} {s : Scope}

/-! ## Requests in a state -/

/-- Makes a request to the declarations of a scope, as a call of `doc`, of `run` or of a decorator does. -/
def ask (scope : ScopeId) : Request → Run Value
  | .describe text => describe scope text
  | .declare name body => declare scope name body
  | .apply r body => decorate scope r body

/-- The state after requests, one after the other, whether they are refused or not. -/
def afterRequests (scope : ScopeId) (history : List Request) (w : World) : World :=
  history.foldl (fun w q => after (ask scope q) w) w

/-- A request to a scope is answered by its declarations. -/
theorem scope_ask (h : w.scopes[scope]? = some s) (q : Request) :
    (after (ask scope q) w).scopes[scope]? = some { s with declarations := s.declarations.perform q } := by
  have hput (d : Declarations) : (w.withDeclarations scope d).scopes[scope]? = some { s with declarations := d } :=
    scope_withDeclarations h d
  cases q with
  | describe text =>
    have hx : ask scope (.describe text) w = _ := describe_apply h text
    cases hd : s.declarations.describe text with
    | ok d =>
      rw [hd] at hx
      rw [after_of_ok hx, perform, answer, hd]
      exact hput d
    | error f =>
      rw [hd] at hx
      rw [after_of_error hx, perform, answer, hd]
      exact h
  | declare name body =>
    have hx : ask scope (.declare name body) w = _ := declare_apply h name body
    rw [perform_declare]
    rcases hd : s.declarations.declare name body with ⟨f | (t | r), d⟩
    · rw [hd] at hx
      rw [after_of_error hx]
      exact hput d
    · rw [hd] at hx
      rw [after_of_ok hx]
      exact hput d
    · rw [hd] at hx
      rw [after_of_ok hx]
      exact hput d
  | apply r body =>
    have hx : ask scope (.apply r body) w = _ := decorate_apply h r body
    rw [perform_application]
    rcases hd : s.declarations.apply r body with ⟨f | t, d⟩
    · rw [hd] at hx
      rw [after_of_error hx]
      exact hput d
    · rw [hd] at hx
      rw [after_of_ok hx]
      exact hput d

/-- Requests to a scope lead its declarations where they lead. -/
theorem scope_afterRequests (h : w.scopes[scope]? = some s) (history : List Request) :
    (afterRequests scope history w).scopes[scope]? =
      some { s with declarations := s.declarations.performAll history } := by
  induction history generalizing w s with
  | nil => exact h
  | cons q rest ih => exact ih (scope_ask h q)

/-- A declaration is stopped by what its declarations refuse it for. -/
theorem stopped_declare_iff (h : w.scopes[scope]? = some s) (name : String) (body : Option Body) (f : Failure) :
    outcome (declare scope name body) w = .error (.failure f) ↔
      (s.declarations.answer (.declare name body)).1 = .refused f := by
  have hx := declare_apply h name body
  rw [answer]
  rcases hd : s.declarations.declare name body with ⟨f' | (t | r), d⟩
  · rw [hd] at hx
    rw [outcome_of_error hx]
    constructor <;> intro he <;> cases he <;> rfl
  · rw [hd] at hx
    rw [outcome_of_ok hx]
    constructor <;> intro he <;> cases he
  · rw [hd] at hx
    rw [outcome_of_ok hx]
    constructor <;> intro he <;> cases he

/-- The declarations of a Runfile after any history of requests, refused ones among them, in which only decorators are applied that
the history has handed out. Every task is under its name in lower case, and is of the directory and the scope that were opened. No
key has a task and is reserved; the reserved keys are those that were handed out as a decorator, with no application of a decorator
of the key since. The table lists each task once, and no two of one key. A declaration is refused as a duplicate if and only if its
key has a task or is reserved, in the name as it is spelled. Whatever is asked next, the tasks that are listed stay listed, as they
are and in the same order. -/
theorem declarations_of_requests {directory : Path} {w w₀ : World} {scope : ScopeId} {history : List Request}
    (hscope : openScope directory w = .ok scope w₀)
    (happlies : ∀ r body, .apply r body ∈ history → r ∈ (w₀.declarationsOf scope).returned history) :
    let w₁ := afterRequests scope history w₀
    let d := w₁.declarationsOf scope
    ∃ l, w.machine.resolve directory = .ok l ∧
      (∀ entry ∈ d.committed.toList, entry.1 = Text.lower entry.2.name ∧ entry.2.directory = Location.path l ∧
        entry.2.scope = scope) ∧
      (∀ key ∈ d.reserved.keys, key ∉ d.committed.keys) ∧
      (∀ key, key ∈ d.reserved.keys ↔ (w₀.declarationsOf scope).Waits history key) ∧
      (d.tasks.Perm d.committed.values ∧ (d.tasks.map Task.key).Nodup) ∧
      (∀ name body other, outcome (declare scope name body) w₁ = .error (.failure (.duplicateTask other)) ↔
        (Text.lower name ∈ d.committed.keys ∨ Text.lower name ∈ d.reserved.keys) ∧ other = name) ∧
      ∀ q, d.tasks.Sublist ((after (ask scope q) w₁).declarationsOf scope).tasks := by
  intro w₁ d
  obtain ⟨l, hl, rfl, rfl⟩ := openScope_eq_ok hscope
  have hs := scope_afterRequests (scope_opened w l) history
  have hfirst := declarationsOf_eq (scope_opened w l)
  rw [hfirst] at happlies ⊢
  have hd : d = (initial (Location.path l) w.scopes.size).performAll history := declarationsOf_eq hs
  obtain ⟨hclosed, hdirectory, hid⟩ := frame_performAll (initial (Location.path l) w.scopes.size) history
  have hwell : d.WellFormed := hd ▸ wellFormed_performAll (genuine_of_applies happlies) (wellFormed_initial _ _)
  have hsingle : d.committed.Single := hd ▸ single_performAll history Assoc.single_empty
  rw [← hd] at hclosed hdirectory hid hs
  refine ⟨l, hl, fun entry he => ?_, hwell.apart, fun key => ?_, ⟨hwell.tasks_perm hsingle, hwell.nodup_tasks hsingle⟩,
    fun name body other => ?_, fun q => ?_⟩
  · obtain ⟨hdir, hsc⟩ := hwell.owned entry he
    exact ⟨hwell.filed entry he, hdir.trans hdirectory, hsc.trans hid⟩
  · rw [hd]
    exact mem_reserved_iff_waits rfl history key
  · rw [stopped_declare_iff hs, refused_duplicate_iff hclosed, isTaken_iff]
    rfl
  · rw [declarationsOf_eq (scope_ask hs q)]
    exact (step d q).tasks_sublist

namespace DeclaredAgain

/-- A name is declared without a body, its decorator is applied to a value that is none, and the name is declared again after
another task: its key stands twice in the order. -/
def history : List Request :=
  [.declare "a" none, .apply ⟨"a", "a", none⟩ (.data (.int 5)), .declare "B" (some (.steps [])), .declare "A" none,
    .apply ⟨"a", "A", none⟩ (.steps [])]

def opening : World := opened (AtRoot.world []) []

end DeclaredAgain

open DeclaredAgain in
/-- The task is listed once, at its first place, and its name is refused when it is declared once more. -/
theorem declarations_of_requests_declared_again :
    openScope AtRoot.directory (AtRoot.world []) = .ok 0 opening ∧
      (∀ r body, .apply r body ∈ history → r ∈ (opening.declarationsOf 0).returned history) ∧
      ((afterRequests 0 history opening).declarationsOf 0).order = ["a", "b", "a"] ∧
      ((afterRequests 0 history opening).declarationsOf 0).tasks.map Task.name = ["A", "B"] ∧
      outcome (declare 0 "a" none) (afterRequests 0 history opening) = .error (.failure (.duplicateTask "a")) := by
  have hscope := AtRoot.openScope_world []
  have happlies : ∀ r body, .apply r body ∈ history → r ∈ (opening.declarationsOf 0).returned history := by
    intro r body h
    simp only [history, List.mem_cons, List.not_mem_nil, or_false, false_or, reduceCtorEq, Request.apply.injEq] at h
    rcases h with ⟨rfl, -⟩ | ⟨rfl, -⟩
    · decide +kernel
    · decide +kernel
  obtain ⟨l, -, -, -, -, -, hduplicate, -⟩ := declarations_of_requests hscope happlies
  refine ⟨hscope, happlies, by decide +kernel, by decide +kernel, (hduplicate "a" none "a").2 ⟨.inl ?_, rfl⟩⟩
  decide +kernel

end Runfile
end TaskRunner
