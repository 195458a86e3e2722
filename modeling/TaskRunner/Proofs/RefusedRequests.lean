import TaskRunner.Proofs.DeclarationState

/-!
# What a refused request leaves behind

A request that is refused declares no task, but it may not leave the declarations as they were: a body that cannot be run is looked
at only after a declaration has taken the documentation, and after an application has taken the name off those that wait. `lossOf`
says what is gone then. Nothing else is ever lost, and what is lost can be told from what later requests come to
(`Runfile.refused_request_undone_iff`).
-/

namespace TaskRunner

open Run

namespace Declarations

variable {d d' : Declarations} {q : Request}

/-- What a request that is refused takes away all the same. -/
inductive Loss where
  /-- The documentation that was held for the next task. -/
  | documentation
  /-- The place of a key among those that wait for a body. -/
  | reservation (key : String)
  deriving DecidableEq

/-- What goes with a body that cannot be run. -/
def lossOf (d : Declarations) : Request → Option Loss
  | .declare name (some body) =>
    if d.pending.isSome ∧ d.isTaken (keyOf name) = false ∧ body.isCallable = false then some .documentation else none
  | .apply r body => if r.key ∈ d.reserved.keys ∧ body.isCallable = false then some (.reservation r.key) else none
  | .describe _ | .declare _ none => none

/-- The declarations without what is lost. -/
def without (d : Declarations) : Option Loss → Declarations
  | none => d
  | some .documentation => d.undescribed
  | some (.reservation key) => d.released key

/-- Documentation that is not held cannot be lost. -/
theorem undescribed_of_none (h : d.pending = none) : d.undescribed = d := by
  rw [undescribed, ← h]

/-- A key that does not wait stays as it is. -/
theorem released_of_not_mem {key : String} (h : key ∉ d.reserved.keys) : d.released key = d := by
  rw [released, Assoc.erase_of_not_mem _ h]

/-- A request that is refused leaves the declarations without what it loses. -/
theorem Step.without {f : Failure} (hstep : Step d q (.refused f) d') (hopen : d.closed = false) (hd : d.WellFormed)
    (hq : Genuine q) : d' = d.without (d.lossOf q) := by
  cases hstep with
  | closed _ hclosed =>
    rw [hopen] at hclosed
    cases hclosed
  | taken name body _ htaken =>
    cases body with
    | none => rfl
    | some body =>
      have hnone : d.lossOf (.declare name (some body)) = none :=
        if_neg fun h => absurd h.2.1 (by rw [htaken]; exact Bool.noConfusion)
      rw [hnone, Declarations.without]
  | illFormed name body _ hfree hbody =>
    cases hpending : d.pending with
    | none =>
      have hnone : d.lossOf (.declare name (some body)) = none := if_neg fun h => by
        rw [hpending] at h
        cases h.1
      rw [hnone, Declarations.without, undescribed_of_none hpending]
    | some doc =>
      have hsome : d.lossOf (.declare name (some body)) = some .documentation :=
        if_pos ⟨by rw [hpending]; rfl, hfree, hbody⟩
      rw [hsome, Declarations.without]
  | lost r body _ hrefused =>
    by_cases hwaits : r.key ∈ d.reserved.keys
    -- a key that waits has no task yet, so that only the body can have been refused
    · have hbody : body.isCallable = false := by
        rcases hrefused with h | h | h
        · rw [hopen] at h
          cases h
        · exact h
        · have hkey : r.key = keyOf r.name := hq
          rw [← hkey, Assoc.contains_iff_mem_keys] at h
          exact absurd h (hd.apart r.key hwaits)
      have hsome : d.lossOf (.apply r body) = some (.reservation r.key) := if_pos ⟨hwaits, hbody⟩
      rw [hsome, Declarations.without]
    · have hnone : d.lossOf (.apply r body) = none := if_neg fun h => hwaits h.1
      rw [hnone, Declarations.without, released_of_not_mem hwaits]

/-- The tasks and their order are never lost. -/
theorem without_tasks (d : Declarations) (loss : Option Loss) :
    (d.without loss).committed = d.committed ∧ (d.without loss).order = d.order ∧ (d.without loss).tasks = d.tasks := by
  cases loss with
  | none => exact ⟨rfl, rfl, rfl⟩
  | some loss => cases loss <;> exact ⟨rfl, rfl, rfl⟩

/-- What is lost shows in the answer to a declaration of a name alone. -/
theorem exists_answer_without_ne (hopen : d.closed = false) (hd : d.WellFormed) (hq : Genuine q) (hloss : d.lossOf q ≠ none) :
    ∃ name, (∃ r, ((d.without (d.lossOf q)).answer (.declare name none)).1 = .reservation r) ∧
      ((d.without (d.lossOf q)).answer (.declare name none)).1 ≠ (d.answer (.declare name none)).1 := by
  cases q with
  | describe text => exact absurd rfl hloss
  | declare name body =>
    cases body with
    | none => exact absurd rfl hloss
    | some body =>
      obtain ⟨hpending, hfree, hbody⟩ := (ite_ne_right_iff.1 hloss).1
      have hsome : d.lossOf (.declare name (some body)) = some .documentation := if_pos ⟨hpending, hfree, hbody⟩
      have hanswer : (d.answer (.declare name none)).1 = .reservation (d.reservationOf name) := by
        rw [answer, declare_reserves hopen hfree]
      have hanswer' : (d.undescribed.answer (.declare name none)).1 = .reservation (d.undescribed.reservationOf name) := by
        rw [answer, declare_reserves (d := d.undescribed) hopen hfree]
      rw [hsome, Declarations.without]
      refine ⟨name, ⟨_, hanswer'⟩, fun he => ?_⟩
      rw [hanswer, hanswer'] at he
      -- one of the two reservations has the documentation
      have hdoc : none = d.pending := congrArg Reservation.doc (Answer.reservation.inj he)
      rw [← hdoc] at hpending
      cases hpending
  | apply r body =>
    obtain ⟨hwaits, hbody⟩ := (ite_ne_right_iff.1 hloss).1
    have hsome : d.lossOf (.apply r body) = some (.reservation r.key) := if_pos ⟨hwaits, hbody⟩
    have hkey : r.key = keyOf r.name := hq
    have htaken : d.isTaken (keyOf r.name) = true := by
      rw [isTaken_iff, ← hkey]
      exact .inr hwaits
    have hfree : (d.released r.key).isTaken (keyOf r.name) = false := by
      rw [Bool.eq_false_iff, Ne, isTaken_iff, ← hkey, not_or]
      exact ⟨hd.apart r.key hwaits, fun h => ((Assoc.mem_keys_erase _ _ _).1 h).2 rfl⟩
    have hanswer : (d.answer (.declare r.name none)).1 = .refused (.duplicateTask r.name) := by
      rw [answer, declare_taken hopen none htaken]
    have hanswer' : ((d.released r.key).answer (.declare r.name none)).1 =
        .reservation ((d.released r.key).reservationOf r.name) := by
      rw [answer, declare_reserves (d := d.released r.key) hopen hfree]
    rw [hsome, Declarations.without]
    refine ⟨r.name, ⟨_, hanswer'⟩, fun he => ?_⟩
    rw [hanswer, hanswer'] at he
    cases he

end Declarations

namespace Runfile

open Declarations

variable {scope : ScopeId} {w : World} {s : Scope} {q : Request}

/-! ## How requests come out -/

/-- How the call comes out that makes a request with a given answer. -/
def comesOut (scope : ScopeId) : Answer → Except Stop Value
  | .held | .task _ => .ok .null
  | .reservation r => .ok (.function (.decorate scope r))
  | .refused f => .error (.failure f)

/-- How requests to a scope come out, one after the other, whether they are refused or not. -/
def outcomesOf (scope : ScopeId) : List Request → World → List (Except Stop Value)
  | [], _ => []
  | q :: rest, w => outcome (ask scope q) w :: outcomesOf scope rest (after (ask scope q) w)

/-- A request comes out as its declarations answer it. -/
theorem outcome_ask (h : w.scopes[scope]? = some s) (q : Request) :
    outcome (ask scope q) w = comesOut scope (s.declarations.answer q).1 := by
  cases q with
  | describe text =>
    have hx : ask scope (.describe text) w = _ := describe_apply h text
    rw [answer]
    cases hd : s.declarations.describe text with
    | ok d =>
      rw [hd] at hx
      exact outcome_of_ok hx
    | error f =>
      rw [hd] at hx
      exact outcome_of_error hx
  | declare name body =>
    have hx : ask scope (.declare name body) w = _ := declare_apply h name body
    rw [answer]
    rcases hd : s.declarations.declare name body with ⟨f | (t | r), d⟩
    · rw [hd] at hx
      exact outcome_of_error hx
    · rw [hd] at hx
      exact outcome_of_ok hx
    · rw [hd] at hx
      exact outcome_of_ok hx
  | apply r body =>
    have hx : ask scope (.apply r body) w = _ := decorate_apply h r body
    rw [answer]
    rcases hd : s.declarations.apply r body with ⟨f | t, d⟩
    · rw [hd] at hx
      exact outcome_of_error hx
    · rw [hd] at hx
      exact outcome_of_ok hx

/-- Declarations that are put back where they were leave the state as it is. -/
theorem withDeclarations_self (h : w.scopes[scope]? = some s) : w.withDeclarations scope s.declarations = w := by
  have hscopes : w.scopes.modify scope (fun s' => { s' with declarations := s.declarations }) = w.scopes := by
    refine Array.ext_getElem? fun i => ?_
    rw [Array.getElem?_modify]
    split
    · rename_i he
      rw [← he, h]
      rfl
    · rfl
  rw [World.withDeclarations, hscopes]

/-- A request that is refused changes nothing but the declarations of its scope. -/
theorem after_ask_refused (h : w.scopes[scope]? = some s) {f : Failure} (hf : (s.declarations.answer q).1 = .refused f) :
    after (ask scope q) w = w.withDeclarations scope (s.declarations.perform q) := by
  cases q with
  | describe text =>
    have hx : ask scope (.describe text) w = _ := describe_apply h text
    rw [answer] at hf
    cases hd : s.declarations.describe text with
    | ok d =>
      rw [hd] at hf
      cases hf
    | error f' =>
      rw [hd] at hx
      rw [after_of_error hx, perform, answer, hd]
      exact (withDeclarations_self h).symm
  | declare name body =>
    have hx : ask scope (.declare name body) w = _ := declare_apply h name body
    rw [answer] at hf
    rw [perform_declare]
    rcases hd : s.declarations.declare name body with ⟨f' | (t | r), d⟩
    · rw [hd] at hx
      exact after_of_error hx
    · rw [hd] at hf
      cases hf
    · rw [hd] at hf
      cases hf
  | apply r body =>
    have hx : ask scope (.apply r body) w = _ := decorate_apply h r body
    rw [answer] at hf
    rw [perform_application]
    rcases hd : s.declarations.apply r body with ⟨f' | t, d⟩
    · rw [hd] at hx
      exact after_of_error hx
    · rw [hd] at hf
      cases hf

/-- A request that is stopped has been refused. -/
theorem refused_of_stopped {stop : Stop} (h : w.scopes[scope]? = some s) (hstop : outcome (ask scope q) w = .error stop) :
    ∃ f, stop = .failure f ∧ (s.declarations.answer q).1 = .refused f := by
  rw [outcome_ask h] at hstop
  cases ha : (s.declarations.answer q).1 with
  | held | task | reservation =>
    rw [ha] at hstop
    cases hstop
  | refused f =>
    rw [ha] at hstop
    cases hstop
    exact ⟨f, rfl, rfl⟩

/-- A refused request to open declarations, which may have come to where they are by any history of requests, refused ones among
them, in which only decorators are applied that it has handed out. The request changes nothing in the state but what `lossOf` says,
and never a task or the order. It leaves the state exactly as it was if and only if it loses nothing, and then only is there no
sequence of later requests that comes out in another way than if the refused one had not been made. -/
theorem refused_request_traceless_iff {directory : Path} {history : List Request} {stop : Stop}
    (hs : w.scopes[scope]? = some s) (hreached : s.declarations = (initial directory scope).performAll history)
    (happlies : ∀ r body, .apply r body ∈ history ++ [q] → r ∈ (initial directory scope).returned history)
    (hrefused : outcome (ask scope q) w = .error stop) :
    let d := s.declarations
    let w' := after (ask scope q) w
    let d' := w'.declarationsOf scope
    w' = w.withDeclarations scope (d.without (d.lossOf q)) ∧
      (d'.committed = d.committed ∧ d'.order = d.order ∧ d'.tasks = d.tasks) ∧
      (w' = w ↔ d.lossOf q = none) ∧
      ((∀ later, outcomesOf scope later w' = outcomesOf scope later w) ↔ d.lossOf q = none) := by
  intro d w' d'
  have hgenuine : ∀ q' ∈ history ++ [q], Genuine q' := by
    intro q' hq'
    cases q' with
    | describe | declare => trivial
    | apply r body => exact key_of_mem_returned (happlies r body hq')
  have hq : Genuine q := hgenuine q (List.mem_append_right _ (List.mem_singleton_self q))
  have hd : d.WellFormed := by
    show s.declarations.WellFormed
    rw [hreached]
    exact wellFormed_performAll (fun q' h => hgenuine q' (List.mem_append_left _ h)) (wellFormed_initial directory scope)
  have hopen : d.closed = false := by
    show s.declarations.closed = false
    rw [hreached]
    exact (frame_performAll (initial directory scope) history).1
  obtain ⟨f, -, hf⟩ := refused_of_stopped hs hrefused
  have hperform : d.perform q = d.without (d.lossOf q) := by
    have hstep := step d q
    rw [hf] at hstep
    exact hstep.without hopen hd hq
  have hleft : w' = w.withDeclarations scope (d.without (d.lossOf q)) := hperform ▸ after_ask_refused hs hf
  have hs' : w'.scopes[scope]? = some { s with declarations := d.without (d.lossOf q) } :=
    hleft ▸ scope_withDeclarations hs _
  have hd' : d' = d.without (d.lossOf q) := declarationsOf_eq hs'
  have hsame (hnone : d.lossOf q = none) : w' = w := by
    rw [hleft, hnone]
    exact withDeclarations_self hs
  have hseen (hall : ∀ later, outcomesOf scope later w' = outcomesOf scope later w) : d.lossOf q = none := by
    by_contra hloss
    obtain ⟨name, ⟨r, hr⟩, hne⟩ := exists_answer_without_ne hopen hd hq hloss
    have hout : outcome (ask scope (.declare name none)) w' = outcome (ask scope (.declare name none)) w :=
      (List.cons.inj (hall [.declare name none])).1
    rw [outcome_ask hs', outcome_ask hs] at hout
    refine hne ?_
    rw [hr] at hout ⊢
    cases ha : (d.answer (.declare name none)).1 with
    | reservation r' =>
      rw [ha] at hout
      cases hout
      rfl
    | held | task | refused =>
      rw [ha] at hout
      cases hout
  refine ⟨hleft, hd' ▸ without_tasks d (d.lossOf q), ⟨fun he => hseen fun later => by rw [he], hsame⟩, hseen, fun hnone later => ?_⟩
  rw [hsame hnone]

namespace Refused

open AtRoot

/-- The declarations of a Runfile that has declared a name alone and then given some documentation. -/
def history : List Request := [.declare "Build" none, .describe "the documentation"]

def state : World := afterRequests 0 history (opened (world []) [])

/-- A decorator that the history has handed out. -/
def build : Reservation := ⟨"build", "Build", none⟩

/-- A declaration of a name that is taken. -/
def duplicate : Request := .declare "build" (some (.steps []))

/-- A declaration of a free name with a body that is none. -/
def bodiless : Request := .declare "test" (some (.data (.int 5)))

/-- An application to a body that is none. -/
def misapplied : Request := .apply build (.data (.int 5))

theorem scope_state : ∃ s, state.scopes[0]? = some s ∧
    s.declarations = (initial (Location.path []) 0).performAll history :=
  ⟨_, scope_afterRequests (scope_opened (world []) []) history, rfl⟩

end Refused

open Refused in
/-- A duplicate is refused without a trace. -/
theorem refused_request_traceless_duplicate :
    outcome (ask 0 duplicate) state = .error (.failure (.duplicateTask "build")) ∧ after (ask 0 duplicate) state = state := by
  obtain ⟨s, hs, hreached⟩ := scope_state
  have hanswer : (s.declarations.answer duplicate).1 = .refused (.duplicateTask "build") := by
    rw [hreached]
    rfl
  have hrefused : outcome (ask 0 duplicate) state = .error (.failure (.duplicateTask "build")) := by
    rw [outcome_ask hs, hanswer]
    rfl
  have happlies : ∀ r body, .apply r body ∈ history ++ [duplicate] → r ∈ (initial (Location.path []) 0).returned history := by
    intro r body h
    simp [history, duplicate] at h
  obtain ⟨-, -, hsame, -⟩ := refused_request_traceless_iff hs hreached happlies hrefused
  have hloss : s.declarations.lossOf duplicate = none := by
    rw [hreached]
    decide +kernel
  exact ⟨hrefused, hsame.2 hloss⟩

open Refused in
/-- A refused declaration can cost the documentation that was held, and a refused application the name that was reserved: a later
declaration then comes out in another way. -/
theorem refused_request_traceless_false :
    (outcome (ask 0 bodiless) state = .error (.failure (.illFormedTask "test" "body is not callable")) ∧
      outcomesOf 0 [.declare "test" none] state =
        [.ok (.function (.decorate 0 ⟨"test", "test", some "the documentation"⟩))] ∧
      outcomesOf 0 [.declare "test" none] (after (ask 0 bodiless) state) = [.ok (.function (.decorate 0 ⟨"test", "test", none⟩))]) ∧
    outcome (ask 0 misapplied) state = .error (.failure (.illFormedTask "Build" "body is not callable")) ∧
      outcomesOf 0 [.declare "BUILD" none] state = [.error (.failure (.duplicateTask "BUILD"))] ∧
      outcomesOf 0 [.declare "BUILD" none] (after (ask 0 misapplied) state) =
        [.ok (.function (.decorate 0 ⟨"build", "BUILD", some "the documentation"⟩))] := by
  exact ⟨⟨rfl, rfl, rfl⟩, rfl, rfl, rfl⟩

end Runfile
end TaskRunner
