import PolicyCanvas.Proofs.Dependence
import PolicyCanvas.Proofs.Validity

/-!
# Nodes wired twice

A node that is wired to another one once more is still one neighbour of it, at the place of its
first edge. So a second edge between two nodes changes no compilation (`compile_eq_of_repeats`).
Only edges that lead to an operation are told apart by their handles, and there the second edge has
to have those of the first.
-/

namespace PolicyCanvas

open Node (IsPartView)

namespace Workspace

/-- The drawing with one more edge after the first `n` ones. -/
def insertEdge (w : Workspace) (n : Nat) (e : Edge) : Workspace :=
  { w with edges := w.edges.take n ++ e :: w.edges.drop n }

/-- The edge `again` has the ends of `e` and, if these lead to an operation, also its handles. -/
structure Repeats (w : Workspace) (e again : Edge) : Prop where
  source : again.source = e.source
  target : again.target = e.target
  handles : ∀ n, w.lastNode? e.target = some n → n.kind? = some .operation →
    again.sourceHandle? = e.sourceHandle? ∧ again.targetHandle? = e.targetHandle?

end Workspace

theorem eraseDups_append_cons_of_mem {front back : List String} {id : String}
    (member : id ∈ front) : (front ++ id :: back).eraseDups = (front ++ back).eraseDups := by
  rw [List.eraseDups_append, List.eraseDups_append, List.cons_removeAll, if_neg]
  simpa using member

/-- An edge leads to no new neighbour when one before it leads there too. -/
theorem eraseDups_map_filter_of_repeated {front back : List Edge} {e again : Edge}
    (member : e ∈ front) (endOf : Edge → String) (sameEnd : endOf again = endOf e)
    {q : Edge → Bool} (passes : q again = true → q e = true) :
    (((front ++ again :: back).filter q).map endOf).eraseDups =
      (((front ++ back).filter q).map endOf).eraseDups := by
  rw [List.filter_append, List.filter_append, List.filter_cons]
  split
  next isQ =>
    rw [List.map_append, List.map_append, List.map_cons]
    apply eraseDups_append_cons_of_mem
    rw [sameEnd]
    exact List.mem_map_of_mem (List.mem_filter.mpr ⟨member, passes isQ⟩)
  · rfl

theorem Workspace.filter_insertEdge (w : Workspace) (n : Nat) {e : Edge} {q : Edge → Bool}
    (leftOut : q e = false) : (w.insertEdge n e).edges.filter q = w.edges.filter q := by
  rw [insertEdge, List.filter_append, List.filter_cons_of_neg (by simp [leftOut]),
    ← List.filter_append, List.take_append_drop]

namespace Workspace.Repeats

variable {w : Workspace} {n : Nat} {e again : Edge} (repeats : w.Repeats e again)
  (member : e ∈ w.edges.take n)
include repeats member

theorem ends_eq (endOf : Edge → String) (sameEnd : endOf again = endOf e) {q : Edge → Bool}
    (passes : q again = true → q e = true) :
    (((w.insertEdge n again).liveEdges.filter q).map endOf).eraseDups =
      ((w.liveEdges.filter q).map endOf).eraseDups := by
  have split : w.liveEdges = (w.edges.take n ++ w.edges.drop n).filter
      fun e => w.hasNode e.source && w.hasNode e.target := by
    rw [List.take_append_drop, liveEdges]
  rw [split, liveEdges, List.filter_filter, List.filter_filter]
  refine eraseDups_map_filter_of_repeated member endOf sameEnd fun live => ?_
  rw [repeats.source, repeats.target, Bool.and_eq_true] at live
  exact Bool.and_eq_true_iff.mpr ⟨passes live.1, live.2⟩

theorem sourcesInto_eq {id : String} {handle? : Option String}
    (passes : e.target = id → Wiring.passes handle? again.targetHandle? = true →
      Wiring.passes handle? e.targetHandle? = true) :
    (w.insertEdge n again).sourcesInto id handle? = w.sourcesInto id handle? := by
  refine repeats.ends_eq member Edge.source repeats.source fun into => ?_
  simp only [repeats.target, Bool.and_eq_true, decide_eq_true_eq] at into ⊢
  exact ⟨into.1, passes into.1 into.2⟩

theorem targetsOutOf_eq {id : String} {handle? : Option String}
    (passes : Wiring.passes handle? again.sourceHandle? = true →
      Wiring.passes handle? e.sourceHandle? = true) :
    (w.insertEdge n again).targetsOutOf id handle? = w.targetsOutOf id handle? := by
  refine repeats.ends_eq member Edge.target repeats.target fun outOf => ?_
  simp only [repeats.source, Bool.and_eq_true, decide_eq_true_eq] at outOf ⊢
  exact ⟨outOf.1, passes outOf.2⟩

/-- Of the edges that leave a handle only those to an operation count. -/
theorem firstOperation?_eq (id handle : String) :
    (w.insertEdge n again).firstOperation? id handle = w.firstOperation? id handle := by
  rw [firstOperation?, firstOperation?, successorsOf_eq_filterMap, successorsOf_eq_filterMap]
  cases shown : w.shown? Node.operation? e.target with
  | some o =>
    obtain ⟨m, last, isOperation⟩ := Option.bind_eq_some_iff.mp shown
    obtain ⟨settings, isOperation, -⟩ := Option.map_eq_some_iff.mp isOperation
    have sameHandle := (repeats.handles m last (IsPartView.operation.kind?_eq isOperation)).1
    rw [repeats.targetsOutOf_eq member fun leaves => by rwa [sameHandle] at leaves]
    rfl
  | none =>
    refine congrArg List.head? (filterMap_eraseDups_congr Edge.target (fun _ _ => rfl) ?_)
    rw [liveEdges, liveEdges, List.filter_filter, List.filter_filter, List.filter_filter,
      List.filter_filter]
    exact w.filter_insertEdge n (by simp [repeats.target, shown])

/-- What is asked about the nodes is answered as before. -/
theorem alike : w.Alike (w.insertEdge n again) fun _ => True where
  closed := w.isClosed_everywhere
  functions_eq_nil_iff := Iff.rfl
  function?_eq := rfl
  before id _ _ _ _ _ := by
    rw [predecessorsOf_eq_filterMap, repeats.sourcesInto_eq member fun _ _ => rfl,
      predecessorsOf_eq_filterMap]
    rfl
  after id _ _ _ _ _ := by
    rw [successorsOf_eq_filterMap, repeats.targetsOutOf_eq member fun _ => rfl,
      successorsOf_eq_filterMap]
    rfl
  inputs o drawn _ handle _ _ _ _ := by
    have sameHandle (enters : e.target = o.1.id) : again.targetHandle? = e.targetHandle? :=
      (repeats.handles o.1 (enters ▸ drawn.1) (IsPartView.operation.kind?_eq drawn.2)).2
    rw [predecessorsOf_eq_filterMap, predecessorsOf_eq_filterMap,
      repeats.sourcesInto_eq member fun enters passes => by rwa [sameHandle enters] at passes]
    rfl
  next id _ handle := repeats.firstOperation?_eq member id handle

end Workspace.Repeats

namespace Workspace

/-- A node that is wired to another one twice counts once: with a second edge between them, anywhere
after the first one, every policy comes to the same compilation or to the same refusal. -/
theorem compile_eq_of_repeats (w : Workspace) {n : Nat} {e again : Edge}
    (member : e ∈ w.edges.take n) (repeats : w.Repeats e again) (id : String) :
    (w.insertEdge n again).compile id = w.compile id :=
  compile_eq_of_alike (repeats.alike member) trivial rfl

/-- The filter is wired to the policy once more through other handles, and the schema to the
transform through the same ones; and a behavior policy to a transition. -/
theorem compile_eq_wired :
    let e : Edge := ⟨"e1", "topic", "policy", none, none⟩
    let again : Edge := ⟨"e8", "topic", "policy", some "output", some "topicFilter"⟩
    let input : Edge := ⟨"e5", "shape", "convert", none, some "deserialiser"⟩
    let inputAgain : Edge := ⟨"e9", "shape", "convert", none, some "deserialiser"⟩
    let passes : Edge := ⟨"e2", "policy", "publish", some "transitions", none⟩
    let passesAgain : Edge := ⟨"e11", "policy", "publish", none, some "input"⟩
    e ∈ wired.edges.take 3 ∧ wired.Repeats e again ∧
      (wired.insertEdge 3 again).compile "policy" = wired.compile "policy" ∧
        input ∈ wired.edges.take 7 ∧ wired.Repeats input inputAgain ∧
          (wired.insertEdge 7 inputAgain).compile "policy" = wired.compile "policy" ∧
            passes ∈ guarded.edges.take 5 ∧ guarded.Repeats passes passesAgain ∧
              (guarded.insertEdge 5 passesAgain).compile "policy" = guarded.compile "policy" := by
  intro e again input inputAgain passes passesAgain
  have member : e ∈ wired.edges.take 3 := by decide
  have noOperation : ∀ n, wired.lastNode? "policy" = some n → n.kind? ≠ some .operation := by
    rintro n last
    obtain rfl := Option.some.inj last
    decide
  have repeats : wired.Repeats e again :=
    ⟨rfl, rfl, fun n last isOperation => absurd isOperation (noOperation n last)⟩
  have inputMember : input ∈ wired.edges.take 7 := by decide
  have inputRepeats : wired.Repeats input inputAgain := ⟨rfl, rfl, fun _ _ _ => ⟨rfl, rfl⟩⟩
  have passesMember : passes ∈ guarded.edges.take 5 := by decide
  have isTransition : ∀ n, guarded.lastNode? "publish" = some n → n.kind? ≠ some .operation := by
    rintro n last
    obtain rfl := Option.some.inj last
    decide
  have passesRepeats : guarded.Repeats passes passesAgain :=
    ⟨rfl, rfl, fun n last isOperation => absurd isOperation (isTransition n last)⟩
  exact ⟨member, repeats, compile_eq_of_repeats wired member repeats "policy", inputMember,
    inputRepeats, compile_eq_of_repeats wired inputMember inputRepeats "policy", passesMember,
    passesRepeats, compile_eq_of_repeats guarded passesMember passesRepeats "policy"⟩

end Workspace

end PolicyCanvas
