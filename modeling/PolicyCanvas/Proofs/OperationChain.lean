import Mathlib.Data.List.Nodup
import PolicyCanvas.Parts
import PolicyCanvas.Proofs.Neighbours

/-!
# Chains of operations

From a handle one comes to the first operation connected to it, from there through its output to the
next one, and so on. `Workspace.walk` goes on for ever where the drawing loops; a chain is the part
of the walk before it ends or comes to an operation again. Every handle has exactly one chain
(`existsUnique_isChain`), and it is the one that pipelines are made from (`isChain_chain`).
-/

namespace PolicyCanvas

namespace Workspace

/-- The first operation connected to a handle of a node. -/
def firstOperation? (w : Workspace) (id handle : String) : Option (Node × OperationSettings) :=
  (w.successorsOf id (some handle) Node.operation?).head?

/-- The operation that one comes to after `i` others, whether or not it is one of them. -/
def walk (w : Workspace) (source handle : String) : Nat → Option (Node × OperationSettings)
  | 0 => w.firstOperation? source handle
  | i + 1 => (w.walk source handle i).bind fun o => w.firstOperation? o.1.id Handle.output

/-- The front of a walk up to where it ends or comes to an operation again. -/
structure IsChain (w : Workspace) (source handle : String)
    (chain : List (Node × OperationSettings)) : Prop where
  follows : ∀ i < chain.length, chain[i]? = w.walk source handle i
  distinct : (chain.map (·.1.id)).Nodup
  stops : ∀ o, w.walk source handle chain.length = some o → o.1.id ∈ chain.map (·.1.id)

/-- A front of a walk that was begun elsewhere and has met the ids `seen`. -/
private structure IsRun (w : Workspace) (seen : List String) (source handle : String)
    (chain : List (Node × OperationSettings)) : Prop where
  follows : ∀ i < chain.length, chain[i]? = w.walk source handle i
  distinct : (chain.map (·.1.id)).Nodup
  unseen : ∀ id ∈ chain.map (·.1.id), id ∉ seen
  stops : ∀ o, w.walk source handle chain.length = some o →
    o.1.id ∈ seen ∨ o.1.id ∈ chain.map (·.1.id)

theorem walk_succ {w : Workspace} {source handle : String} {o : Node × OperationSettings}
    (first : w.firstOperation? source handle = some o) (i : Nat) :
    w.walk source handle (i + 1) = w.walk o.1.id Handle.output i := by
  induction i with
  | zero => simp [walk, first]
  | succ i ih => rw [walk, ih, walk]

private theorem IsRun.isChain {w : Workspace} {source handle : String}
    {chain : List (Node × OperationSettings)} (run : w.IsRun [] source handle chain) :
    w.IsChain source handle chain where
  follows := run.follows
  distinct := run.distinct
  stops o next := by simpa using run.stops o next

private theorem IsRun.cons {w : Workspace} {seen : List String} {source handle : String}
    {o : Node × OperationSettings} {chain : List (Node × OperationSettings)}
    (first : w.firstOperation? source handle = some o) (new : o.1.id ∉ seen)
    (rest : w.IsRun (o.1.id :: seen) o.1.id Handle.output chain) :
    w.IsRun seen source handle (o :: chain) where
  follows i inside := by
    cases i with
    | zero => simp [walk, first]
    | succ i =>
      rw [walk_succ first, List.getElem?_cons_succ]
      exact rest.follows i (by simpa using inside)
  distinct := by
    rw [List.map_cons, List.nodup_cons]
    exact ⟨fun again => rest.unseen _ again (by simp), rest.distinct⟩
  unseen id member := by
    rcases List.mem_cons.mp member with rfl | later
    · exact new
    · intro before
      exact rest.unseen id later (List.mem_cons_of_mem _ before)
  stops next reached := by
    rw [List.length_cons, walk_succ first] at reached
    rcases rest.stops next reached with before | later
    · rcases List.mem_cons.mp before with same | before
      · exact .inr (by simp [same])
      · exact .inl before
    · exact .inr (List.mem_cons_of_mem _ later)

end Workspace

open Workspace

namespace Parts

/-- The operations that one comes to from a handle on, up to the first with an id among `visited`;
each is taken once. -/
def chainFrom (w : Wiring) (visited : List String) (id handle : String) :
    List (Node × OperationSettings) :=
  match _ : nextOperation w id handle with
  | none => []
  | some (n, settings) =>
    if n.id ∈ visited then []
    else (n, settings) :: chainFrom w (n.id :: visited) n.id Handle.output
termination_by (w.workspace.nodes.filter (·.id ∉ visited)).length
decreasing_by
  have next : nextOperation w id handle = some (n, settings) := by assumption
  have new : n.id ∉ visited := by assumption
  exact length_filter_notMem_cons_lt Node.id (mem_nodes_of_nextOperation next) new

/-- The operations of the pipeline that leaves a node through a handle. -/
def chain (w : Wiring) (source : Node) (handle : String) : List (Node × OperationSettings) :=
  chainFrom w [] source.id handle

/-- The steps of a chain of operations. -/
def steps (w : Wiring) : List (Node × OperationSettings) → List (Resolution Gateway.Operation)
  | [] => []
  | (n, settings) :: rest =>
    operation w n settings ++
      if isTerminal w settings then rest.map fun (after, _) => .failure after (.afterTerminal n)
      else steps w rest

section Follow

variable {w : Wiring} {results : List (Resolution Gateway.Operation)} {visited : List String}
  {terminal? : Option Node} {id handle : String} {n : Node} {settings : OperationSettings}

theorem follow_of_end (next : nextOperation w id handle = none) :
    follow w results visited terminal? id handle = results := by
  rw [follow.eq_def]
  split
  · rfl
  next found => simp [next] at found

theorem follow_of_visited (next : nextOperation w id handle = some (n, settings))
    (again : n.id ∈ visited) : follow w results visited terminal? id handle = results := by
  rw [follow.eq_def]
  split
  · rfl
  next found =>
    obtain ⟨rfl, rfl⟩ := Prod.mk.inj (Option.some.inj (next.symm.trans found))
    rw [if_pos again]

theorem follow_of_new (next : nextOperation w id handle = some (n, settings))
    (new : n.id ∉ visited) :
    follow w results visited terminal? id handle =
      follow w
        (results ++ match terminal? with
          | some last => [.failure n (.afterTerminal last)]
          | none => operation w n settings)
        (n.id :: visited)
        (if terminal?.isNone && isTerminal w settings then some n else terminal?) n.id
        Handle.output := by
  rw [follow.eq_def]
  split
  next missing => simp [next] at missing
  next found =>
    obtain ⟨rfl, rfl⟩ := Prod.mk.inj (Option.some.inj (next.symm.trans found))
    exact if_neg new

/-- After an operation that ends the pipeline each one is one too many. -/
theorem follow_of_terminal (w : Wiring) (results : List (Resolution Gateway.Operation))
    (visited : List String) (last : Node) (id handle : String) :
    follow w results visited (some last) id handle =
      results ++ (chainFrom w visited id handle).map fun (after, _) =>
        .failure after (.afterTerminal last) := by
  fun_induction chainFrom w visited id handle generalizing results with
  | case1 visited id handle next => rw [follow_of_end next, List.map_nil, List.append_nil]
  | case2 visited id handle n settings next again =>
    rw [follow_of_visited next again, List.map_nil, List.append_nil]
  | case3 visited id handle n settings next new ih =>
    rw [follow_of_new next new]
    exact (ih _).trans (List.append_assoc ..)

/-- Going from operation to operation adds the steps of their chain to the results. -/
theorem follow_eq_steps (w : Wiring) (results : List (Resolution Gateway.Operation))
    (visited : List String) (id handle : String) :
    follow w results visited none id handle =
      results ++ steps w (chainFrom w visited id handle) := by
  fun_induction chainFrom w visited id handle generalizing results with
  | case1 visited id handle next => rw [follow_of_end next, steps, List.append_nil]
  | case2 visited id handle n settings next again =>
    rw [follow_of_visited next again, steps, List.append_nil]
  | case3 visited id handle n settings next new ih =>
    rw [follow_of_new next new, steps, ← List.append_assoc]
    by_cases ends : isTerminal w settings = true
    · simp only [ends, Option.isNone_none, Bool.and_self, ↓reduceIte]
      exact follow_of_terminal ..
    · simp only [ends, Bool.false_eq_true, Bool.and_false, ↓reduceIte]
      exact ih _

end Follow

theorem pipeline_eq_steps (w : Wiring) (source : Node) (handle : String) :
    pipeline w source handle = steps w (chain w source handle) :=
  follow_eq_steps w [] [] source.id handle

theorem nextOperation_ofWorkspace (w : Workspace) (id handle : String) :
    nextOperation (.ofWorkspace w) id handle = w.firstOperation? id handle := by
  rw [nextOperation, Wiring.findSome?_outgoers, firstOperation?]

/-- Taking operations as long as their ids are new gives a run. -/
private theorem isRun_chainFrom (w : Workspace) (seen : List String) (source handle : String) :
    w.IsRun seen source handle (chainFrom (.ofWorkspace w) seen source handle) := by
  fun_induction chainFrom (.ofWorkspace w) seen source handle with
  | case1 seen source handle next =>
    rw [nextOperation_ofWorkspace] at next
    exact ⟨by simp, by simp, by simp, fun o reached => by simp [walk, next] at reached⟩
  | case2 seen source handle n settings next again =>
    rw [nextOperation_ofWorkspace] at next
    refine ⟨by simp, by simp, by simp, fun o reached => ?_⟩
    obtain rfl : (n, settings) = o := by simpa [walk, next] using reached
    exact .inl again
  | case3 seen source handle n settings next new rest =>
    rw [nextOperation_ofWorkspace] at next
    exact IsRun.cons next new rest

end Parts

namespace Workspace

/-- An operation of the drawing with its settings; of several nodes with its id it is the last. -/
def IsDrawn (w : Workspace) (o : Node × OperationSettings) : Prop :=
  w.lastNode? o.1.id = some o.1 ∧ o.1.operation? = some o.2

theorem isDrawn_of_firstOperation? {w : Workspace} {source handle : String}
    {o : Node × OperationSettings} (first : w.firstOperation? source handle = some o) :
    w.IsDrawn o := by
  have member : o ∈ w.successorsOf source (some handle) Node.operation? := List.mem_of_head? first
  obtain ⟨follows, isOperation⟩ := Node.mem_seenBy.mp member
  exact ⟨lastNode?_of_mem_successors follows, isOperation⟩

theorem IsChain.isDrawn {w : Workspace} {source handle : String}
    {chain : List (Node × OperationSettings)} (isChain : w.IsChain source handle chain)
    {o : Node × OperationSettings} (member : o ∈ chain) : w.IsDrawn o := by
  obtain ⟨i, inside, rfl⟩ := List.mem_iff_getElem.mp member
  have reached := isChain.follows i inside
  rw [List.getElem?_eq_getElem inside] at reached
  cases i with
  | zero => exact isDrawn_of_firstOperation? reached.symm
  | succ i =>
    obtain ⟨before, -, next⟩ := Option.bind_eq_some_iff.mp reached.symm
    exact isDrawn_of_firstOperation? next

/-- The operations that a pipeline is made from are the chain that leaves its handle. -/
theorem isChain_chain (w : Workspace) (source : Node) (handle : String) :
    w.IsChain source.id handle (Parts.chain (.ofWorkspace w) source handle) :=
  (Parts.isRun_chainFrom w [] source.id handle).isChain

/-- A chain is empty just when no operation is connected to its handle. -/
theorem IsChain.eq_nil_iff {w : Workspace} {source handle : String}
    {chain : List (Node × OperationSettings)} (isChain : w.IsChain source handle chain) :
    chain = [] ↔ w.successorsOf source (some handle) Node.operation? = [] := by
  constructor
  · rintro rfl
    cases first : w.firstOperation? source handle with
    | none => exact List.head?_eq_none_iff.mp first
    | some o => simpa using isChain.stops o first
  · intro none_connected
    cases chain with
    | nil => rfl
    | cons o rest =>
      have first := isChain.follows 0 (by simp)
      simp [walk, firstOperation?, none_connected] at first

/-- Of two chains that leave one handle neither is longer. -/
private theorem IsChain.length_le {w : Workspace} {source handle : String}
    {chain other : List (Node × OperationSettings)} (first : w.IsChain source handle chain)
    (second : w.IsChain source handle other) : other.length ≤ chain.length := by
  by_contra longer
  have inside : chain.length < other.length := by omega
  -- where the shorter one stops the longer one goes on, to an operation that both have met before
  have goesOn := second.follows chain.length inside
  rw [List.getElem?_eq_getElem inside] at goesOn
  obtain ⟨o, member, same⟩ := List.mem_map.mp (first.stops _ goesOn.symm)
  obtain ⟨i, before, rfl⟩ := List.mem_iff_getElem.mp member
  have agree : chain[i]? = other[i]? := by
    rw [first.follows i before, second.follows i (by omega)]
  rw [List.getElem?_eq_getElem before, List.getElem?_eq_getElem (by omega), Option.some.injEq]
    at agree
  rw [agree] at same
  have distinct := List.nodup_iff_injective_getElem.mp second.distinct
  have index := @distinct ⟨i, by simp; omega⟩ ⟨chain.length, by simpa using inside⟩ (by simpa)
  simp only [Fin.mk.injEq] at index
  omega

/-- A handle is left by exactly one chain. -/
theorem existsUnique_isChain (w : Workspace) (source : Node) (handle : String) :
    ∃! chain, w.IsChain source.id handle chain := by
  refine ⟨_, isChain_chain w source handle, fun other isChain => ?_⟩
  have made := isChain_chain w source handle
  have sameLength := Nat.le_antisymm (made.length_le isChain) (isChain.length_le made)
  apply List.ext_getElem?
  intro i
  by_cases inside : i < other.length
  · rw [isChain.follows i inside, made.follows i (by omega)]
  · rw [List.getElem?_eq_none (by omega), List.getElem?_eq_none (by omega)]

end Workspace

end PolicyCanvas
