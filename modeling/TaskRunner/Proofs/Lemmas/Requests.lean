import TaskRunner.Declarations
import TaskRunner.Proofs.Lemmas.Table

/-!
# Requests to the declarations of a Runfile

What a Runfile asks of its declarations, one request at a time. `Step` says everything that a request can lead to; what holds of the
declarations after any sequence of requests (`WellFormed`) is proved over its cases, and along a history by induction.
-/

namespace TaskRunner

/-- What can be asked of the declarations of a Runfile. -/
inductive Request where
  | describe (text : String)
  | declare (name : String) (body : Option Body)
  | apply (r : Reservation) (body : Body)

/-- What comes of a request. -/
inductive Answer where
  | held
  | task (t : Task)
  | reservation (r : Reservation)
  | refused (f : Failure)

namespace Declarations

variable {d d' : Declarations}

/-- What comes of a request, and the declarations after it. -/
def answer (d : Declarations) : Request → Answer × Declarations
  | .describe text =>
    match d.describe text with
    | .ok d' => (.held, d')
    | .error f => (.refused f, d)
  | .declare name body =>
    match d.declare name body with
    | (.ok (.task t), d') => (.task t, d')
    | (.ok (.reservation r), d') => (.reservation r, d')
    | (.error f, d') => (.refused f, d')
  | .apply r body =>
    match d.apply r body with
    | (.ok t, d') => (.task t, d')
    | (.error f, d') => (.refused f, d')

/-- The declarations after a request. -/
def perform (d : Declarations) (q : Request) : Declarations := (d.answer q).2

theorem perform_declare (d : Declarations) (name : String) (body : Option Body) :
    d.perform (.declare name body) = (d.declare name body).2 := by
  rw [perform, answer]
  rcases d.declare name body with ⟨_ | (_ | _), d'⟩ <;> rfl

theorem perform_application (d : Declarations) (r : Reservation) (body : Body) :
    d.perform (.apply r body) = (d.apply r body).2 := by
  rw [perform, answer]
  rcases d.apply r body with ⟨_ | _, d'⟩ <;> rfl

/-- The declarations after a history of requests. -/
def performAll (d : Declarations) (history : List Request) : Declarations := history.foldl perform d

@[simp] theorem performAll_nil (d : Declarations) : d.performAll [] = d := rfl

@[simp] theorem performAll_cons (d : Declarations) (q : Request) (rest : List Request) :
    d.performAll (q :: rest) = (d.perform q).performAll rest := rfl

theorem performAll_append (d : Declarations) (first rest : List Request) :
    d.performAll (first ++ rest) = (d.performAll first).performAll rest := List.foldl_append

/-! ## What a request leads to -/

/-- The task that a name, its documentation and its body make. -/
def taskOf (d : Declarations) (name : String) (doc : Option String) (body : Body) : Task :=
  { name, doc, body, directory := d.directory, scope := d.scope }

/-- The declarations with one more task. -/
def withTask (d : Declarations) (name : String) (doc : Option String) (body : Body) : Declarations :=
  { d with order := placeKey d.order (keyOf name), committed := d.committed.insert (keyOf name) (d.taskOf name doc body) }

/-- The reservation that a declaration of a name alone hands out. -/
def reservationOf (d : Declarations) (name : String) : Reservation := ⟨keyOf name, name, d.pending⟩

/-- The declarations with one more name that waits for its body. -/
def withReservation (d : Declarations) (name : String) : Declarations :=
  { d with pending := none, reserved := d.reserved.insert (keyOf name) name, order := d.order ++ [keyOf name] }

/-- The declarations with the documentation taken. -/
def undescribed (d : Declarations) : Declarations := { d with pending := none }

/-- The declarations in which a key waits no longer. -/
def released (d : Declarations) (key : String) : Declarations := { d with reserved := d.reserved.erase key }

theorem commit_closed (h : d.closed = true) (name : String) (doc : Option String) (body : Body) :
    d.commit name doc body = .error .closed := by
  rw [commit, if_pos h]

theorem commit_uncallable (h : d.closed = false) (name : String) (doc : Option String) {body : Body}
    (hb : body.isCallable = false) : d.commit name doc body = .error (.illFormedTask name "body is not callable") := by
  rw [commit, if_neg (by rw [h]; exact Bool.false_ne_true), if_pos (by rw [hb]; rfl)]

theorem commit_duplicate (h : d.closed = false) {name : String} (doc : Option String) {body : Body}
    (hb : body.isCallable = true) (hc : d.committed.contains (keyOf name) = true) :
    d.commit name doc body = .error (.duplicateTask name) := by
  rw [commit, if_neg (by rw [h]; exact Bool.false_ne_true), if_neg (by rw [hb]; exact Bool.false_ne_true)]
  exact if_pos hc

theorem commit_ok (h : d.closed = false) {name : String} (doc : Option String) {body : Body} (hb : body.isCallable = true)
    (hc : d.committed.contains (keyOf name) = false) :
    d.commit name doc body = .ok (d.taskOf name doc body, d.withTask name doc body) := by
  rw [commit, if_neg (by rw [h]; exact Bool.false_ne_true), if_neg (by rw [hb]; exact Bool.false_ne_true)]
  exact if_neg (by rw [hc]; exact Bool.false_ne_true)

theorem describe_open (h : d.closed = false) (text : String) : d.describe text = .ok { d with pending := some text } := by
  rw [describe, if_neg (by rw [h]; exact Bool.false_ne_true)]

theorem declare_closed (h : d.closed = true) (name : String) (body : Option Body) :
    d.declare name body = (.error .closed, d) := by
  rw [declare, if_pos h]

theorem declare_taken (h : d.closed = false) {name : String} (body : Option Body) (ht : d.isTaken (keyOf name) = true) :
    d.declare name body = (.error (.duplicateTask name), d) := by
  rw [declare, if_neg (by rw [h]; exact Bool.false_ne_true)]
  exact if_pos ht

/-- A free name takes the documentation before its body is looked at. -/
theorem declare_free (h : d.closed = false) {name : String} (body : Body) (ht : d.isTaken (keyOf name) = false) :
    d.declare name (some body) = match d.undescribed.commit name d.pending body with
      | .ok (task, d') => (.ok (.task task), d')
      | .error f => (.error f, d.undescribed) := by
  rw [declare, if_neg (by rw [h]; exact Bool.false_ne_true)]
  exact if_neg (by rw [ht]; exact Bool.false_ne_true)

theorem declare_reserves (h : d.closed = false) {name : String} (ht : d.isTaken (keyOf name) = false) :
    d.declare name none = (.ok (.reservation (d.reservationOf name)), d.withReservation name) := by
  rw [declare, if_neg (by rw [h]; exact Bool.false_ne_true)]
  exact if_neg (by rw [ht]; exact Bool.false_ne_true)

theorem declare_illFormed (h : d.closed = false) {name : String} {body : Body} (ht : d.isTaken (keyOf name) = false)
    (hb : body.isCallable = false) :
    d.declare name (some body) = (.error (.illFormedTask name "body is not callable"), d.undescribed) := by
  have hopen : d.undescribed.closed = false := h
  rw [declare_free h body ht, commit_uncallable hopen name d.pending hb]

theorem declare_task (h : d.closed = false) {name : String} {body : Body} (ht : d.isTaken (keyOf name) = false)
    (hb : body.isCallable = true) :
    d.declare name (some body) =
      (.ok (.task (d.taskOf name d.pending body)), d.undescribed.withTask name d.pending body) := by
  have hopen : d.undescribed.closed = false := h
  have hc : d.undescribed.committed.contains (keyOf name) = false := (Bool.or_eq_false_iff.1 ht).1
  rw [declare_free h body ht, commit_ok hopen d.pending hb hc]
  rfl

theorem apply_eq (d : Declarations) (r : Reservation) (body : Body) :
    d.apply r body = match (d.released r.key).commit r.name r.doc body with
      | .ok (task, d') => (.ok task, d')
      | .error f => (.error f, d.released r.key) := rfl

theorem apply_task (h : d.closed = false) {r : Reservation} {body : Body} (hb : body.isCallable = true)
    (hc : d.committed.contains (keyOf r.name) = false) :
    d.apply r body = (.ok (d.taskOf r.name r.doc body), (d.released r.key).withTask r.name r.doc body) := by
  have hopen : (d.released r.key).closed = false := h
  have hc' : (d.released r.key).committed.contains (keyOf r.name) = false := hc
  rw [apply_eq, commit_ok hopen r.doc hb hc']
  rfl

theorem apply_refused {r : Reservation} {body : Body} {f : Failure}
    (h : (d.released r.key).commit r.name r.doc body = .error f) : d.apply r body = (.error f, d.released r.key) := by
  rw [apply_eq, h]

/-- Everything that a request can lead to. -/
inductive Step (d : Declarations) : Request → Answer → Declarations → Prop where
  /-- Nothing is accepted once the declarations are closed. -/
  | closed (q : Request) (hclosed : d.closed = true) (hq : ∀ r body, q ≠ .apply r body) : Step d q (.refused .closed) d
  | held (text : String) (hopen : d.closed = false) : Step d (.describe text) .held { d with pending := some text }
  | taken (name : String) (body : Option Body) (hopen : d.closed = false) (htaken : d.isTaken (keyOf name) = true) :
      Step d (.declare name body) (.refused (.duplicateTask name)) d
  /-- The documentation is gone even though no task came of it. -/
  | illFormed (name : String) (body : Body) (hopen : d.closed = false) (hfree : d.isTaken (keyOf name) = false)
      (hbody : body.isCallable = false) :
      Step d (.declare name (some body)) (.refused (.illFormedTask name "body is not callable")) d.undescribed
  | declared (name : String) (body : Body) (hopen : d.closed = false) (hfree : d.isTaken (keyOf name) = false)
      (hbody : body.isCallable = true) :
      Step d (.declare name (some body)) (.task (d.taskOf name d.pending body)) (d.undescribed.withTask name d.pending body)
  | reserved (name : String) (hopen : d.closed = false) (hfree : d.isTaken (keyOf name) = false) :
      Step d (.declare name none) (.reservation (d.reservationOf name)) (d.withReservation name)
  /-- The key waits no longer even though it has got no body. -/
  | lost (r : Reservation) (body : Body) (f : Failure)
      (hrefused : d.closed = true ∨ body.isCallable = false ∨ d.committed.contains (keyOf r.name) = true) :
      Step d (.apply r body) (.refused f) (d.released r.key)
  | applied (r : Reservation) (body : Body) (hopen : d.closed = false) (hbody : body.isCallable = true)
      (hfree : d.committed.contains (keyOf r.name) = false) :
      Step d (.apply r body) (.task (d.taskOf r.name r.doc body)) ((d.released r.key).withTask r.name r.doc body)

theorem step_describe (d : Declarations) (text : String) :
    Step d (.describe text) (d.answer (.describe text)).1 (d.perform (.describe text)) := by
  rcases Bool.eq_false_or_eq_true d.closed with hc | hc
  · rw [perform, answer, describe, if_pos hc]
    exact .closed _ hc nofun
  · rw [perform, answer, describe_open hc]
    exact .held text hc

theorem step_declare (d : Declarations) (name : String) (body : Option Body) :
    Step d (.declare name body) (d.answer (.declare name body)).1 (d.perform (.declare name body)) := by
  rcases Bool.eq_false_or_eq_true d.closed with hc | hc
  · rw [perform, answer, declare_closed hc]
    exact .closed _ hc nofun
  rcases Bool.eq_false_or_eq_true (d.isTaken (keyOf name)) with ht | ht
  · rw [perform, answer, declare_taken hc body ht]
    exact .taken name body hc ht
  cases body with
  | none =>
    rw [perform, answer, declare_reserves hc ht]
    exact .reserved name hc ht
  | some body =>
    rcases Bool.eq_false_or_eq_true body.isCallable with hb | hb
    · rw [perform, answer, declare_task hc ht hb]
      exact .declared name body hc ht hb
    · rw [perform, answer, declare_illFormed hc ht hb]
      exact .illFormed name body hc ht hb

theorem step_apply (d : Declarations) (r : Reservation) (body : Body) :
    Step d (.apply r body) (d.answer (.apply r body)).1 (d.perform (.apply r body)) := by
  have hopen {b : Bool} (h : d.closed = b) : (d.released r.key).closed = b := h
  rcases Bool.eq_false_or_eq_true d.closed with hc | hc
  · rw [perform, answer, apply_refused (commit_closed (hopen hc) r.name r.doc body)]
    exact .lost r body _ (.inl hc)
  rcases Bool.eq_false_or_eq_true body.isCallable with hb | hb
  · rcases Bool.eq_false_or_eq_true (d.committed.contains (keyOf r.name)) with hd | hd
    · rw [perform, answer, apply_refused (commit_duplicate (hopen hc) r.doc hb hd)]
      exact .lost r body _ (.inr (.inr hd))
    · rw [perform, answer, apply_task hc hb hd]
      exact .applied r body hc hb hd
  · rw [perform, answer, apply_refused (commit_uncallable (hopen hc) r.name r.doc hb)]
    exact .lost r body _ (.inr (.inl hb))

theorem step (d : Declarations) (q : Request) : Step d q (d.answer q).1 (d.perform q) := by
  cases q with
  | describe text => exact step_describe d text
  | declare name body => exact step_declare d name body
  | apply r body => exact step_apply d r body

/-! ## What every history keeps -/

/-- The key of a request to apply a reservation is that of its name, as it is in every reservation that is handed out. -/
def Genuine : Request → Prop
  | .apply r _ => r.key = keyOf r.name
  | _ => True

/-- What holds of the declarations of a Runfile at any time. -/
structure WellFormed (d : Declarations) : Prop where
  /-- A task is under the key of its name. -/
  filed : ∀ entry ∈ d.committed.toList, entry.1 = keyOf entry.2.name
  /-- A task is of the directory and the scope of the declarations. -/
  owned : ∀ entry ∈ d.committed.toList, entry.2.directory = d.directory ∧ entry.2.scope = d.scope
  waiting : d.reserved.Single
  /-- No key has a task and waits for one. -/
  apart : ∀ key ∈ d.reserved.keys, key ∉ d.committed.keys
  /-- A key with a task has a place in the order. -/
  placed : ∀ key ∈ d.committed.keys, key ∈ d.order

theorem wellFormed_initial (directory : Path) (scope : ScopeId) : (initial directory scope).WellFormed where
  filed := nofun
  owned := nofun
  waiting := Assoc.single_empty
  apart := nofun
  placed := nofun

theorem not_mem_committed_of_free {key : String} (h : d.isTaken key = false) : key ∉ d.committed.keys :=
  (d.committed.not_mem_keys_iff key).2 (Bool.or_eq_false_iff.1 h).1

theorem not_mem_reserved_of_free {key : String} (h : d.isTaken key = false) : key ∉ d.reserved.keys :=
  (d.reserved.not_mem_keys_iff key).2 (Bool.or_eq_false_iff.1 h).2

theorem mem_placeKey (order : List String) (key other : String) :
    other ∈ placeKey order key ↔ other ∈ order ∨ other = key := by
  rw [placeKey]
  split
  · rename_i h
    exact ⟨Or.inl, fun ho => ho.elim id fun he => he ▸ h⟩
  · rw [List.mem_append, List.mem_singleton]

namespace WellFormed

theorem withTask (h : d.WellFormed) {name : String} (doc : Option String) (body : Body)
    (hr : keyOf name ∉ d.reserved.keys) : (d.withTask name doc body).WellFormed where
  filed := by
    intro entry he
    rcases Assoc.mem_toList_insert he with rfl | he
    · rfl
    · exact h.filed entry he
  owned := by
    intro entry he
    rcases Assoc.mem_toList_insert he with rfl | he
    · exact ⟨rfl, rfl⟩
    · exact h.owned entry he
  waiting := h.waiting
  apart := by
    intro key hk hc
    rcases (Assoc.mem_keys_insert _ _ _ _).1 hc with rfl | hc
    · exact hr hk
    · exact h.apart key hk hc
  placed := by
    intro key hc
    refine (mem_placeKey _ _ _).2 ?_
    rcases (Assoc.mem_keys_insert _ _ _ _).1 hc with rfl | hc
    · exact Or.inr rfl
    · exact Or.inl (h.placed key hc)

theorem withReservation (h : d.WellFormed) {name : String} (hc : keyOf name ∉ d.committed.keys) :
    (d.withReservation name).WellFormed where
  filed := h.filed
  owned := h.owned
  waiting := h.waiting.insert _ _
  apart := by
    intro key hk
    rcases (Assoc.mem_keys_insert _ _ _ _).1 hk with rfl | hk
    · exact hc
    · exact h.apart key hk
  placed := fun key hk => List.mem_append_left _ (h.placed key hk)

theorem released (h : d.WellFormed) (key : String) : (d.released key).WellFormed where
  filed := h.filed
  owned := h.owned
  waiting := h.waiting.erase key
  apart := fun other ho => h.apart other ((Assoc.mem_keys_erase _ _ _).1 ho).1
  placed := h.placed

end WellFormed

theorem Step.wellFormed {q : Request} {a : Answer} (hstep : Step d q a d') (hq : Genuine q) (h : d.WellFormed) :
    d'.WellFormed := by
  cases hstep with
  | closed => exact h
  | held => exact ⟨h.filed, h.owned, h.waiting, h.apart, h.placed⟩
  | taken => exact h
  | illFormed => exact ⟨h.filed, h.owned, h.waiting, h.apart, h.placed⟩
  | declared name body _ hfree _ =>
    have hu : d.undescribed.WellFormed := ⟨h.filed, h.owned, h.waiting, h.apart, h.placed⟩
    exact hu.withTask _ _ (not_mem_reserved_of_free hfree)
  | reserved name _ hfree => exact h.withReservation (not_mem_committed_of_free hfree)
  | lost r => exact h.released r.key
  | applied r body _ _ _ =>
    refine (h.released r.key).withTask _ _ fun hk => ?_
    exact ((Assoc.mem_keys_erase _ _ _).1 hk).2 (Eq.symm hq)

/-- No request closes the declarations, or makes them those of another Runfile. -/
theorem Step.frame {q : Request} {a : Answer} (hstep : Step d q a d') :
    d'.closed = d.closed ∧ d'.directory = d.directory ∧ d'.scope = d.scope := by
  cases hstep <;> exact ⟨rfl, rfl, rfl⟩

/-- A task that has been declared stays as it is. -/
theorem Step.find?_committed {q : Request} {a : Answer} (hstep : Step d q a d') {key : String} {t : Task}
    (h : d.committed.find? key = some t) : d'.committed.find? key = some t := by
  have hnew {name : String} {task : Task} (hc : d.committed.contains (keyOf name) = false) :
      (d.committed.insert (keyOf name) task).find? key = some t := by
    rw [Assoc.find?_insert_ne, h]
    rintro rfl
    rw [Assoc.contains, h] at hc
    cases hc
  cases hstep with
  | closed => exact h
  | held => exact h
  | taken => exact h
  | illFormed => exact h
  | declared name body _ hfree _ => exact hnew (Bool.or_eq_false_iff.1 hfree).1
  | reserved => exact h
  | lost => exact h
  | applied r body _ _ hfree => exact hnew hfree

theorem wellFormed_performAll {history : List Request} (hq : ∀ q ∈ history, Genuine q) (h : d.WellFormed) :
    (d.performAll history).WellFormed := by
  induction history generalizing d with
  | nil => exact h
  | cons q rest ih =>
    exact ih (fun q' hq' => hq q' (List.mem_cons_of_mem _ hq')) ((step d q).wellFormed (hq q List.mem_cons_self) h)

theorem frame_performAll (d : Declarations) (history : List Request) :
    (d.performAll history).closed = d.closed ∧ (d.performAll history).directory = d.directory ∧
      (d.performAll history).scope = d.scope := by
  induction history generalizing d with
  | nil => exact ⟨rfl, rfl, rfl⟩
  | cons q rest ih =>
    obtain ⟨hclosed, hdirectory, hscope⟩ := (step d q).frame
    obtain ⟨hclosed', hdirectory', hscope'⟩ := ih (d.perform q)
    exact ⟨hclosed'.trans hclosed, hdirectory'.trans hdirectory, hscope'.trans hscope⟩

theorem find?_performAll (history : List Request) {key : String} {t : Task} (h : d.committed.find? key = some t) :
    (d.performAll history).committed.find? key = some t := by
  induction history generalizing d with
  | nil => exact h
  | cons q rest ih => exact ih ((step d q).find?_committed h)

/-! ## The table of tasks -/

/-- A task that has been declared is the only one of its name. -/
theorem WellFormed.filter_tasks (h : d.WellFormed) {name : String} {t : Task}
    (ht : d.committed.find? (keyOf name) = some t) (hn : t.name = name) :
    d.tasks.filter (·.name = name) = [t] := by
  have hmem : keyOf name ∈ d.order.eraseDups := by
    rw [List.mem_eraseDups]
    exact h.placed _ ((Assoc.contains_iff_mem_keys _ _).1 (by rw [Assoc.contains, ht]; rfl))
  refine filter_filterMap_eq_singleton (nodup_eraseDups _) hmem ht (decide_eq_true hn) ?_
  intro other _ b hb hname
  have hkey : other = keyOf b.name := h.filed _ (Assoc.mem_toList_of_find? hb)
  rw [hkey, of_decide_eq_true hname]

/-- Every task in the table is of the directory and the scope of the declarations. -/
theorem WellFormed.owned_tasks (h : d.WellFormed) {t : Task} (ht : t ∈ d.tasks) :
    t.directory = d.directory ∧ t.scope = d.scope := by
  obtain ⟨key, -, hfind⟩ := List.mem_filterMap.1 ht
  exact h.owned _ (Assoc.mem_toList_of_find? hfind)

/-- The declarations settle only if nothing waits, and then to their tasks. -/
theorem settle_eq_ok {tasks : List Task} (h : d.settle = .ok tasks) : d.reserved.size = 0 ∧ tasks = d.tasks := by
  rw [settle] at h
  split at h
  · rename_i hnil
    cases h
    exact ⟨by rw [Assoc.size, ← List.length_map Prod.snd]; exact congrArg List.length hnil, rfl⟩
  · cases h

/-! ## Along a history -/

/-- What the requests of a history bring, each looked at in the declarations that those before it left. -/
def along {α : Type} (brings : Declarations → Request → List α) : Declarations → List Request → List α
  | _, [] => []
  | d, q :: rest => brings d q ++ along brings (d.perform q) rest

theorem along_append {α : Type} (brings : Declarations → Request → List α) (d : Declarations) (first rest : List Request) :
    along brings d (first ++ rest) = along brings d first ++ along brings (d.performAll first) rest := by
  induction first generalizing d with
  | nil => rfl
  | cons q first ih => rw [List.cons_append, along, along, ih, List.append_assoc, performAll_cons]

/-- The reservation that a request is answered with. -/
def handsOut (d : Declarations) (q : Request) : List Reservation :=
  match (d.answer q).1 with
  | .reservation r => [r]
  | _ => []

/-- The reservations that a history hands out. -/
def returned : Declarations → List Request → List Reservation := along handsOut

theorem Step.reservation {q : Request} {r : Reservation} (h : Step d q (.reservation r) d') :
    ∃ name, q = .declare name none ∧ r = d.reservationOf name := by
  cases h with
  | reserved name => exact ⟨name, rfl, rfl⟩

theorem mem_handsOut {q : Request} {r : Reservation} (h : r ∈ d.handsOut q) : (d.answer q).1 = .reservation r := by
  rw [handsOut] at h
  split at h
  · rename_i r' ha
    rw [ha, List.mem_singleton.1 h]
  · cases h

/-- The key of a reservation that has been handed out is that of its name. -/
theorem key_of_mem_returned {history : List Request} {r : Reservation} (h : r ∈ d.returned history) :
    r.key = keyOf r.name := by
  induction history generalizing d with
  | nil => cases h
  | cons q rest ih =>
    rcases List.mem_append.1 h with h | h
    · have hstep := step d q
      rw [mem_handsOut h] at hstep
      obtain ⟨name, -, rfl⟩ := hstep.reservation
      rfl
    · exact ih h

/-- Where only reservations are applied that the history hands out, they have the keys of their names. -/
theorem genuine_of_applies {history : List Request} (h : ∀ r body, .apply r body ∈ history → r ∈ d.returned history) :
    ∀ q ∈ history, Genuine q := by
  intro q hq
  cases q with
  | apply r body => exact key_of_mem_returned (h r body hq)
  | describe | declare => trivial

end Declarations
end TaskRunner
