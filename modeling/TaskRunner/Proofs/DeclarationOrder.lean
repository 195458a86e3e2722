import TaskRunner.Proofs.Lemmas.Promises

/-!
# The order of declarations

A Runfile without errors evaluates to the tasks that it promises, in the order of their declarations. When, and in which order, its
decorators are applied makes no difference: the tasks depend on the bodies that each handle is given, and on nothing else of the
applications.
-/

namespace TaskRunner

open Run Declarations

namespace Runfile

/-! ## Evaluation -/

/-- The file at a path reads as statements, and a directory is a place in the tree. -/
structure Reads (directory path : Path) (l : Location) (statements : List Statement) (w : World) : Prop where
  resolved : w.machine.resolve directory = .ok l
  text : ∃ text, w.machine.readText path.toString = .ok text ∧ Runfile.read w.abbreviations text = .ok statements

/-- A Runfile without errors evaluates to what it promises. -/
theorem evaluate_promised {directory path : Path} {l : Location} {statements : List Statement} {w : World}
    (hreads : Reads directory path l statements w) (hs : Orderly statements) :
    ∃ tasks w', (openScope directory >>= fun scope => evaluate scope path) w = .ok tasks w' ∧
      tasks.map some = promised (Location.path l) w.scopes.size [] statements ∧ tasks.map Task.key = keysOf statements := by
  have hscope := scope_opened w l
  have hlaid := laid_initial (Location.path l) w.scopes.size
  have hstart : Promises (Location.path l) w.scopes.size [] [] none (starting w.scopes.size path (opened w l)) :=
    ⟨_, scope_binding hscope _ _, hlaid, rfl, rfl⟩
  have hbetween : Between (Location.path l) w.scopes.size [] statements [] [] (starting w.scopes.size path (opened w l)) :=
    ⟨hs.applied, hstart, ⟨nofun, nofun, nofun, List.nodup_nil, List.nodup_nil⟩⟩
  have hapart : (([] : List Task).map Task.key ++ keysOf statements).Nodup := hs.apart
  obtain ⟨tasks, doc, w', hall, htasks, hkeys, s, hs', hlaid', -⟩ :=
    executeAll_promised hs.plain hapart hbetween
  obtain ⟨text, htext, hread⟩ := hreads.text
  have hsettle : (w'.declarationsOf w.scopes.size).settle = .ok tasks := by
    rw [declarationsOf_eq hs']
    exact hlaid'.settle
  have hopen : ((opened w l).declarationsOf w.scopes.size).closed = false := by
    rw [declarationsOf_eq hscope]
    rfl
  have hevaluate : evaluate w.scopes.size path (opened w l) = .ok tasks (ended w.scopes.size (opened w l) w') :=
    evaluate_of_statements hopen (readStatements_ok htext hread) hall hsettle
  exact ⟨tasks, _, (bind_ok (openScope_ok hreads.resolved) _).trans hevaluate, htasks, hkeys⟩

/-! ## Applications in other places -/

/-- Whether a statement gives a body to what is kept under a handle. -/
def Statement.isApplication : Statement → Bool
  | .apply .. => true
  | _ => false

/-- The bodies that are given to what is kept under a handle, in turn. -/
def bodiesFor (handle : String) : List Statement → List Body
  | [] => []
  | .apply other body :: rest => if other = handle then body :: bodiesFor handle rest else bodiesFor handle rest
  | _ :: rest => bodiesFor handle rest

/-- The same statements but for when, and in which order, decorators are applied: each handle is given the same bodies. -/
structure Rearranged (statements statements' : List Statement) : Prop where
  others : statements.filter (!·.isApplication) = statements'.filter (!·.isApplication)
  bodies : ∀ handle, bodiesFor handle statements = bodiesFor handle statements'

/-- What declarations promise when the bodies for each handle are known beforehand. -/
def matched (directory : Path) (scope : ScopeId) :
    (String → List Body) → List Statement → List Statement → List (Option Task)
  | _, _, [] => []
  | bodies, earlier, .run name body :: rest =>
    some ⟨name.display, docBefore earlier, body, directory, scope⟩ ::
      matched directory scope bodies (.run name body :: earlier) rest
  | bodies, earlier, .declare name handle :: rest =>
    (bodies handle).head?.map (fun body => ⟨name.display, docBefore earlier, body, directory, scope⟩) ::
      matched directory scope (fun other => if other = handle then (bodies handle).tail else bodies other)
        (.declare name handle :: earlier) rest
  | bodies, earlier, .deco names body :: rest =>
    (stacked directory scope body (docBefore earlier) names).map some ++
      matched directory scope bodies (.deco names body :: earlier) rest
  | bodies, earlier, st :: rest => matched directory scope bodies (st :: earlier) rest

/-- The bodies for the declarations to come; the first body for a handle that waits already is for an earlier one. -/
def remaining (waiting : List String) (statements : List Statement) (handle : String) : List Body :=
  if handle ∈ waiting then (bodiesFor handle statements).tail else bodiesFor handle statements

theorem head?_bodiesFor (handle : String) (statements : List Statement) :
    (bodiesFor handle statements).head? = given handle statements := by
  induction statements with
  | nil => rfl
  | cons st rest ih =>
    cases st with
    | apply other body =>
      rw [bodiesFor, given]
      split
      · rfl
      · exact ih
    | doc | run | declare | deco | set | define | get | raise | attempt | print | chdir => exact ih

theorem docBefore_congr {earlier earlier' : List Statement} (h : docBefore earlier = docBefore earlier') (st : Statement) :
    docBefore (st :: earlier) = docBefore (st :: earlier') := by
  cases st with
  | deco names body =>
    cases names with
    | nil => exact h
    | cons => rfl
  | doc | run | declare => rfl
  | apply | set | define | get | raise | attempt | print | chdir => exact h

/-- A declaration takes the first of the bodies that are left for its handle, which is for it. -/
theorem remaining_declare {waiting : List String} {handle : String} (h : handle ∉ waiting) (name : Data)
    (rest : List Statement) :
    (remaining waiting (.declare name handle :: rest) handle).head? = given handle rest ∧
      (fun other => if other = handle then (remaining waiting (.declare name handle :: rest) handle).tail
        else remaining waiting (.declare name handle :: rest) other) = remaining (handle :: waiting) rest := by
  constructor
  · rw [remaining, if_neg h]
    exact head?_bodiesFor handle rest
  · funext other
    by_cases he : other = handle
    · rw [if_pos he, he, remaining, if_neg h, remaining, if_pos List.mem_cons_self]
      rfl
    · rw [if_neg he, remaining, remaining]
      exact if_congr (by rw [List.mem_cons, or_iff_right he]) rfl rfl

/-- An application takes nothing of what is left for the declarations to come. -/
theorem remaining_apply {waiting : List String} {handle : String} (h : handle ∈ waiting) (body : Body)
    (rest : List Statement) :
    remaining waiting (.apply handle body :: rest) = remaining (waiting.filter (· ≠ handle)) rest := by
  funext other
  rw [remaining, remaining, bodiesFor]
  by_cases he : handle = other
  · subst he
    have hnot : handle ∉ waiting.filter (· ≠ handle) := fun hm => of_decide_eq_true (List.mem_filter.1 hm).2 rfl
    rw [if_pos h, if_pos rfl, if_neg hnot]
    rfl
  · rw [if_neg he]
    exact if_congr (by rw [List.mem_filter, decide_eq_true_eq, and_iff_left (Ne.symm he)]) rfl rfl

/-- What is promised depends on the applications only through the bodies that each handle is given. -/
theorem promised_eq_matched (directory : Path) (scope : ScopeId) {statements : List Statement} :
    ∀ {waiting : List String} {earlier earlier' : List Statement}, AppliedOnce waiting statements →
      docBefore earlier = docBefore earlier' →
      promised directory scope earlier statements =
        matched directory scope (remaining waiting statements) earlier' (statements.filter (!·.isApplication)) := by
  induction statements with
  | nil => exact fun _ _ => rfl
  | cons st rest ih =>
    intro waiting earlier earlier' h hdoc
    have hdoc' := docBefore_congr hdoc st
    cases st with
    | run name body =>
      rw [promised, ih h hdoc', hdoc]
      rfl
    | declare name handle =>
      obtain ⟨hhandle, h⟩ := h
      obtain ⟨hhead, htail⟩ := remaining_declare hhandle name rest
      rw [promised, ih h hdoc', hdoc, ← hhead, ← htail]
      rfl
    | apply handle body =>
      obtain ⟨hhandle, h⟩ := h
      rw [remaining_apply hhandle body rest]
      exact ih h (hdoc.symm ▸ rfl)
    | deco names body =>
      rw [promised, ih h hdoc', hdoc]
      rfl
    | doc | set | define | get | raise | attempt | print | chdir => exact ih h hdoc'

/-- What is promised does not depend on when, and in which order, decorators are applied. -/
theorem Rearranged.promised_eq {statements statements' : List Statement} (h : Rearranged statements statements')
    (hs : AppliedOnce [] statements) (hs' : AppliedOnce [] statements') (directory : Path) (scope : ScopeId) :
    promised directory scope [] statements' = promised directory scope [] statements := by
  have hbodies : remaining [] statements = remaining [] statements' := funext h.bodies
  rw [promised_eq_matched directory scope hs rfl, promised_eq_matched directory scope hs' rfl, hbodies, h.others]

theorem mem_bodiesFor {handle : String} {body : Body} {statements : List Statement} :
    body ∈ bodiesFor handle statements ↔ .apply handle body ∈ statements := by
  induction statements with
  | nil => exact ⟨nofun, nofun⟩
  | cons st rest ih =>
    cases st with
    | apply other given =>
      rw [bodiesFor, List.mem_cons, Statement.apply.injEq]
      split
      · rename_i he
        rw [List.mem_cons, ih, eq_comm (a := handle), and_iff_right he]
      · rename_i he
        rw [ih, eq_comm (a := handle), or_iff_right fun h => he h.1]
    | doc | run | declare | deco | set | define | get | raise | attempt | print | chdir =>
      refine ih.trans ?_
      rw [List.mem_cons, or_iff_right nofun]

/-- The keys are those of the other statements. -/
theorem keysOf_filter (statements : List Statement) : keysOf (statements.filter (!·.isApplication)) = keysOf statements := by
  induction statements with
  | nil => rfl
  | cons st rest ih =>
    cases st with
    | apply => exact ih
    | doc | run | declare | deco | set | define | get | raise | attempt | print | chdir =>
      rw [List.filter_cons_of_pos rfl, keysOf_cons, keysOf_cons, ih]

/-- To apply decorators at another time is to make no error, as long as each has been declared and is applied once. -/
theorem Rearranged.orderly {statements statements' : List Statement} (h : Rearranged statements statements')
    (hs : Orderly statements) (hs' : AppliedOnce [] statements') : Orderly statements' where
  plain := by
    intro st hm
    rcases Bool.eq_false_or_eq_true st.isApplication with ha | ha
    · cases st with
      | apply handle body =>
        have hbody : body ∈ bodiesFor handle statements := h.bodies handle ▸ mem_bodiesFor.2 hm
        exact hs.plain _ (mem_bodiesFor.1 hbody)
      | doc | run | declare | deco | set | define | get | raise | attempt | print | chdir => cases ha
    · have hother : st ∈ statements.filter (!·.isApplication) := h.others ▸ List.mem_filter.2 ⟨hm, by rw [ha]; rfl⟩
      exact hs.plain st (List.mem_filter.1 hother).1
  apart := by
    rw [← keysOf_filter, ← h.others, keysOf_filter]
    exact hs.apart
  applied := hs'

/-- A Runfile without errors evaluates to one task for each declaration, in the order of the declarations and with their keys: each
has the name of its declaration, the documentation that precedes it and the body that is given to it or to its decorator. A Runfile
that differs only in when, and in which order, its decorators are applied evaluates to the same tasks. -/
theorem evaluate_declares_in_order {directory path : Path} {l : Location} {statements : List Statement} {w : World}
    (hreads : Reads directory path l statements w) (hs : Orderly statements) :
    ∃ tasks w', (openScope directory >>= fun scope => evaluate scope path) w = .ok tasks w' ∧
      tasks.map some = promised (Location.path l) w.scopes.size [] statements ∧ tasks.map Task.key = keysOf statements ∧
      ∀ {statements' : List Statement} {directory' path' : Path} {v : World}, Rearranged statements statements' →
        AppliedOnce [] statements' → Reads directory' path' l statements' v → v.scopes.size = w.scopes.size →
        ∃ v', (openScope directory' >>= fun scope => evaluate scope path') v = .ok tasks v' := by
  obtain ⟨tasks, w', hevaluate, htasks, hkeys⟩ := evaluate_promised hreads hs
  refine ⟨tasks, w', hevaluate, htasks, hkeys, fun h hs' hreads' hsize => ?_⟩
  obtain ⟨tasks', v', hevaluate', htasks', -⟩ := evaluate_promised hreads' (h.orderly hs hs')
  rw [hsize, h.promised_eq hs.applied hs', ← htasks] at htasks'
  obtain rfl : tasks' = tasks := List.map_injective_iff.2 (fun _ _ => Option.some.inj) htasks'
  exact ⟨v', hevaluate'⟩

namespace Interleaved

/-- Two names are stacked; two others are declared by name, and the later one gets its body first. -/
def statements : List Statement :=
  [.doc (.text "first"), .deco [.text "Alpha", .text "Beta"] (.steps []), .declare (.text "Gamma") "gamma", .doc (.text "old"),
    .doc (.text "new"), .declare (.text "Delta") "delta", .apply "delta" (.steps [⟨.giveLast, false⟩]), .doc (.text "last"),
    .apply "gamma" (.steps []), .run (.text "Epsilon") (.steps [])]

/-- The decorators are applied at the end, in the order of their declarations. -/
def postponed : List Statement :=
  [.doc (.text "first"), .deco [.text "Alpha", .text "Beta"] (.steps []), .declare (.text "Gamma") "gamma", .doc (.text "old"),
    .doc (.text "new"), .declare (.text "Delta") "delta", .doc (.text "last"), .run (.text "Epsilon") (.steps []),
    .apply "gamma" (.steps []), .apply "delta" (.steps [⟨.giveLast, false⟩])]

theorem reads (statements : List Statement) :
    Reads AtRoot.directory AtRoot.path [] statements (AtRoot.world statements) :=
  ⟨AtRoot.resolve_machine, "r", AtRoot.readText_machine, read_abbreviation statements⟩

theorem orderly : Orderly statements where
  plain := by simp [statements, Statement.IsPlain, Body.isCallable]
  apart := by decide +kernel
  applied := by simp [statements, AppliedOnce]

theorem rearranged : Rearranged statements postponed where
  others := rfl
  bodies := by
    intro handle
    by_cases hg : "gamma" = handle
    · subst hg
      rfl
    · by_cases hd : "delta" = handle <;> simp [statements, postponed, bodiesFor, hg, hd]

end Interleaved

open Interleaved in
/-- The tasks of a Runfile whose declarations and applications are interleaved. -/
theorem evaluate_declares_interleaved :
    ∃ tasks w w', (openScope AtRoot.directory >>= fun scope => evaluate scope AtRoot.path) (AtRoot.world statements) =
        .ok tasks w ∧
      (openScope AtRoot.directory >>= fun scope => evaluate scope AtRoot.path) (AtRoot.world postponed) = .ok tasks w' ∧
      tasks.map (fun t => (t.key, t.doc)) =
        [("alpha", some "first"), ("beta", none), ("gamma", none), ("delta", some "new"), ("epsilon", some "last")] := by
  obtain ⟨tasks, w, hevaluate, htasks, -, hrearranged⟩ := evaluate_declares_in_order (reads statements) orderly
  obtain ⟨w', hevaluate'⟩ := hrearranged rearranged (by simp [postponed, AppliedOnce]) (reads postponed) rfl
  refine ⟨tasks, w, w', hevaluate, hevaluate', ?_⟩
  have hsome : (tasks.map fun t => (t.key, t.doc)).map some = (tasks.map some).map (Option.map fun t => (t.key, t.doc)) := by
    rw [List.map_map, List.map_map]
    rfl
  refine List.map_injective_iff.2 (fun _ _ => Option.some.inj) ?_
  rw [hsome, htasks]
  decide +kernel

end Runfile
end TaskRunner