import Mathlib.Logic.Relation
import PolicyCanvas.Proofs.LiveGraph

/-!
# The search for a sub-flow

A search keeps the nodes that were visited, the links that were crossed and a worklist of visited
nodes whose links have not been looked at. Whatever was visited was reached (`Search.Sound`), and
what is no longer on the worklist is settled: its links have been crossed (`Search.Settled`). Both
hold from step to step. So in the end the visited nodes are those that can be reached
(`mem_visited_search_iff`), and the links that were crossed are all those between them
(`sortPlaces_crossed_search`).
-/

namespace PolicyCanvas

theorem Graph.mem_incident_iff {size : Nat} {g : Graph size} {i : Fin size} {d : Direction}
    {place : Nat} : place ∈ g.incident i d ↔ ∃ l, g.links[place]? = some l ∧ l.near d = i := by
  simp [Graph.incident_eq, mem_places_iff]

/-- A link of a node leads across to the end that is not the node, or back to it. -/
theorem Link.across_eq_iff {size : Nat} {l : Link size} {i other : Fin size} :
    (l.source = i ∨ l.target = i) ∧ l.across i = other ↔
      l.source = i ∧ l.target = other ∨ l.target = i ∧ l.source = other := by
  unfold Link.across
  split <;> grind

namespace Wiring

variable {w : Wiring} {start current i other : Fin w.workspace.nodes.length} {place : Nat}

/-- The link at a place leads, whichever way it points, from one node to another that may be
entered. -/
def Crosses (w : Wiring) (start i : Fin w.workspace.nodes.length) (place : Nat)
    (other : Fin w.workspace.nodes.length) : Prop :=
  ∃ l, w.graph.links[place]? = some l ∧
    (l.source = i ∧ l.target = other ∨ l.target = i ∧ l.source = other) ∧
      w.mayEnter start other = true

/-- Links that are crossed one after the other lead from the start to the node. -/
def Reaches (w : Wiring) (start i : Fin w.workspace.nodes.length) : Prop :=
  Relation.ReflTransGen (fun i other => ∃ place, w.Crosses start i place other) start i

/-- The places of the links of a node, those out of it first. -/
def linksAt (w : Wiring) (i : Fin w.workspace.nodes.length) : List Nat :=
  w.graph.incident i .outgoing ++ w.graph.incident i .incoming

theorem mem_linksAt_iff : place ∈ w.linksAt i ↔
    ∃ l, w.graph.links[place]? = some l ∧ (l.source = i ∨ l.target = i) := by
  simp only [linksAt, List.mem_append, Graph.mem_incident_iff, Link.near, ← exists_or, and_or_left]

theorem Crosses.mem_linksAt (crosses : w.Crosses start i place other) : place ∈ w.linksAt i := by
  obtain ⟨l, found, ends, -⟩ := crosses
  exact mem_linksAt_iff.mpr ⟨l, found, (Link.across_eq_iff.mpr ends).1⟩

/-- A link of a node is crossed to its other end, if that may be entered, and not at all else. -/
theorem follow_cases (isLink : place ∈ w.linksAt current) (s : Search w.workspace.nodes.length) :
    (∃ other, w.follow start current s place = s.cross place other ∧
        ∀ next, w.Crosses start current place next ↔ next = other) ∨
      w.follow start current s place = s ∧ ∀ next, ¬ w.Crosses start current place next := by
  obtain ⟨l, found, ends⟩ := mem_linksAt_iff.mp isLink
  have crosses_iff (next : Fin w.workspace.nodes.length) : w.Crosses start current place next ↔
      l.across current = next ∧ w.mayEnter start (l.across current) = true := by
    simp only [Crosses, found, Option.some.injEq, exists_eq_left', ← Link.across_eq_iff, ends,
      true_and]
    exact and_congr_right fun same => by rw [same]
  simp only [follow, found]
  by_cases enters : w.mayEnter start (l.across current) = true
  · refine .inl ⟨l.across current, if_pos enters, fun next => ?_⟩
    rw [crosses_iff, and_iff_left enters, eq_comm]
  · exact .inr ⟨if_neg enters, fun next crosses => enters ((crosses_iff next).mp crosses).2⟩

end Wiring

namespace Search

variable {w : Wiring} {start current i other : Fin w.workspace.nodes.length} {place : Nat}
  {s s' s'' : Search w.workspace.nodes.length}

/-- Whatever was visited was reached, and whatever was crossed lies between visited nodes. -/
structure Sound (w : Wiring) (start : Fin w.workspace.nodes.length)
    (s : Search w.workspace.nodes.length) : Prop where
  begun : start ∈ s.visited
  distinct : s.visited.Nodup
  reached : ∀ i ∈ s.visited, w.Reaches start i
  pending : ∀ i ∈ s.worklist, i ∈ s.visited
  crossedOnce : s.crossed.Nodup
  between : ∀ place ∈ s.crossed, ∃ i ∈ s.visited, ∃ other ∈ s.visited,
    w.Crosses start i place other

theorem sound_start : Sound w start (.start start) where
  begun := List.mem_singleton_self start
  distinct := List.nodup_singleton start
  reached _ member := List.mem_singleton.mp member ▸ .refl
  pending _ member := member
  crossedOnce := .nil
  between := nofun

theorem mem_visited_cross : i ∈ (s.cross place other).visited ↔ i = other ∨ i ∈ s.visited := by
  unfold cross
  split
  next visited =>
    refine ⟨.inr, ?_⟩
    rintro (rfl | before)
    · exact visited
    · exact before
  · exact List.mem_cons

@[simp]
theorem crossed_cross : (s.cross place other).crossed = s.crossed.insert place := by
  unfold cross
  split <;> rfl

theorem Sound.cross (sound : Sound w start s) (isVisited : i ∈ s.visited)
    (crosses : w.Crosses start i place other) : Sound w start (s.cross place other) where
  begun := mem_visited_cross.mpr (.inr sound.begun)
  distinct := by
    unfold Search.cross
    split
    · exact sound.distinct
    next new => exact List.nodup_cons.mpr ⟨new, sound.distinct⟩
  reached j member := by
    rcases mem_visited_cross.mp member with rfl | before
    · exact (sound.reached i isVisited).tail ⟨place, crosses⟩
    · exact sound.reached j before
  pending j member := by
    unfold Search.cross at member ⊢
    split at member
    next visited =>
      simp only [visited, ↓reduceIte]
      exact sound.pending j member
    next new =>
      simp only [new, ↓reduceIte]
      rcases List.mem_append.mp member with before | same
      · exact List.mem_cons_of_mem _ (sound.pending j before)
      · exact List.mem_cons.mpr (.inl (List.mem_singleton.mp same))
  crossedOnce := by
    rw [crossed_cross]
    exact sound.crossedOnce.insert
  between k member := by
    rw [crossed_cross, List.mem_insert_iff] at member
    rcases member with rfl | before
    · exact ⟨i, mem_visited_cross.mpr (.inr isVisited), other, mem_visited_cross.mpr (.inl rfl),
        crosses⟩
    · obtain ⟨i, isVisited, other, otherVisited, crosses⟩ := sound.between k before
      exact ⟨i, mem_visited_cross.mpr (.inr isVisited), other,
        mem_visited_cross.mpr (.inr otherVisited), crosses⟩

/-- Later on nothing is lost, and what is newly visited is on the worklist. -/
structure Extends (s s' : Search w.workspace.nodes.length) : Prop where
  visited : s.visited ⊆ s'.visited
  crossed : s.crossed ⊆ s'.crossed
  worklist : s.worklist ⊆ s'.worklist
  new : ∀ i ∈ s'.visited, i ∈ s.visited ∨ i ∈ s'.worklist

theorem Extends.refl (s : Search w.workspace.nodes.length) : Extends s s :=
  ⟨fun _ => id, fun _ => id, fun _ => id, fun _ => .inl⟩

theorem Extends.trans (first : Extends s s') (second : Extends s' s'') : Extends s s'' where
  visited _ before := second.visited (first.visited before)
  crossed _ before := second.crossed (first.crossed before)
  worklist _ before := second.worklist (first.worklist before)
  new i member := by
    rcases second.new i member with before | pending
    · exact (first.new i before).imp_right (second.worklist ·)
    · exact .inr pending

theorem extends_cross (s : Search w.workspace.nodes.length) (place : Nat)
    (other : Fin w.workspace.nodes.length) : Extends s (s.cross place other) where
  visited _ before := mem_visited_cross.mpr (.inr before)
  crossed _ before := by
    rw [crossed_cross]
    exact List.mem_insert_of_mem before
  worklist _ before := by
    unfold Search.cross
    split
    · exact before
    · exact List.mem_append_left _ before
  new i member := by
    unfold Search.cross at member ⊢
    split at member
    · exact .inl member
    next new =>
      simp only [new, ↓reduceIte]
      rcases List.mem_cons.mp member with rfl | before
      · exact .inr (by simp)
      · exact .inl before

/-- Every link at the place that leads from the node has been crossed. -/
def HasCrossed (w : Wiring) (start : Fin w.workspace.nodes.length)
    (s : Search w.workspace.nodes.length) (i : Fin w.workspace.nodes.length) (place : Nat) : Prop :=
  ∀ other, w.Crosses start i place other → place ∈ s.crossed ∧ other ∈ s.visited

theorem HasCrossed.mono (crossed : HasCrossed w start s i place) (later : Extends s s') :
    HasCrossed w start s' i place := fun other crosses =>
  (crossed other crosses).imp (later.crossed ·) (later.visited ·)

/-- Looking at the links of a visited node crosses those of them that can be. -/
theorem foldl_follow (sound : Sound w start s) (isVisited : current ∈ s.visited)
    {links : List Nat} (areLinks : links ⊆ w.linksAt current) :
    let s' := links.foldl (w.follow start current) s
    Sound w start s' ∧ Extends s s' ∧ ∀ place ∈ links, HasCrossed w start s' current place := by
  induction links generalizing s with
  | nil => exact ⟨sound, .refl s, nofun⟩
  | cons place links ih =>
    obtain ⟨isLink, areLinks⟩ := List.cons_subset.mp areLinks
    obtain ⟨next, isNext⟩ : ∃ next, w.follow start current s place = next := ⟨_, rfl⟩
    have step : Sound w start next ∧ Extends s next ∧ HasCrossed w start next current place := by
      rcases Wiring.follow_cases isLink s with ⟨other, leads, only⟩ | ⟨stays, not_crosses⟩
      · obtain rfl := leads.symm.trans isNext
        refine ⟨sound.cross isVisited ((only other).mpr rfl), extends_cross s place other, ?_⟩
        intro next crosses
        obtain rfl := (only next).mp crosses
        exact ⟨by simp, mem_visited_cross.mpr (.inl rfl)⟩
      · obtain rfl := stays.symm.trans isNext
        exact ⟨sound, .refl s, fun other crosses => absurd crosses (not_crosses other)⟩
    obtain ⟨soundNext, later, crossed⟩ := step
    obtain ⟨soundLast, last, rest⟩ := ih soundNext (later.visited isVisited) areLinks
    rw [List.foldl_cons, isNext]
    exact ⟨soundLast, later.trans last, List.forall_mem_cons.mpr ⟨crossed.mono last, rest⟩⟩

/-- What is no longer on the worklist has no link left to be crossed. -/
def Settled (w : Wiring) (start : Fin w.workspace.nodes.length)
    (s : Search w.workspace.nodes.length) : Prop :=
  ∀ i ∈ s.visited, i ∉ s.worklist → ∀ place, HasCrossed w start s i place

/-- Going on from the first node of the worklist settles it. -/
theorem sound_settled_step {worklist : List (Fin w.workspace.nodes.length)}
    (sound : Sound w start s) (settled : Settled w start s)
    (pending : s.worklist = current :: worklist) :
    let s' := (w.linksAt current).foldl (w.follow start current) { s with worklist }
    Sound w start s' ∧ Settled w start s' := by
  intro s'
  have isVisited : current ∈ s.visited := sound.pending current (by simp [pending])
  have popped : Sound w start { s with worklist } :=
    { sound with pending := fun i later => sound.pending i (by simp [pending, later]) }
  obtain ⟨soundLast, later, crossed⟩ := foldl_follow popped isVisited (List.Subset.refl _)
  refine ⟨soundLast, fun i member done => ?_⟩
  have before : i ∈ s.visited := (later.new i member).resolve_right done
  by_cases same : i = current
  · subst same
    exact fun place other crosses => crossed place crosses.mem_linksAt other crosses
  · have wasDone : i ∉ s.worklist := by
      rw [pending, List.mem_cons, not_or]
      exact ⟨same, fun still => done (later.worklist still)⟩
    exact fun place other crosses =>
      (settled i before wasDone place other crosses).imp (later.crossed ·) (later.visited ·)

/-- In the end nothing is left to be crossed. -/
theorem sound_settled_search (sound : Sound w start s) (settled : Settled w start s) :
    Sound w start (w.search start s) ∧
      ∀ i ∈ (w.search start s).visited, ∀ place, HasCrossed w start (w.search start s) i place := by
  fun_induction Wiring.search w start s with
  | case1 s done => exact ⟨sound, fun i member => settled i member (by simp [done])⟩
  | case2 s current worklist pending ih =>
    obtain ⟨sound, settled⟩ := sound_settled_step sound settled pending
    exact ih sound settled

theorem sound_settled_found (w : Wiring) (start : Fin w.workspace.nodes.length) :
    let found := w.search start (.start start)
    Sound w start found ∧ ∀ i ∈ found.visited, ∀ place, HasCrossed w start found i place :=
  sound_settled_search sound_start fun _ isStart new => absurd isStart new

end Search

/-! ### What is found in the end -/

namespace Wiring

variable {w : Wiring} {start i : Fin w.workspace.nodes.length}

/-- The visited nodes are those that links lead to, one after the other. -/
theorem mem_visited_search_iff :
    i ∈ (w.search start (.start start)).visited ↔ w.Reaches start i := by
  obtain ⟨sound, settled⟩ := Search.sound_settled_found w start
  refine ⟨sound.reached i, fun reaches => ?_⟩
  induction reaches with
  | refl => exact sound.begun
  | tail _ joined visited =>
    obtain ⟨place, crosses⟩ := joined
    exact (settled _ visited place _ crosses).2

theorem nodup_visited_search : (w.search start (.start start)).visited.Nodup :=
  (Search.sound_settled_found w start).1.distinct

/-- Only the start may be a policy. -/
theorem mayEnter_of_reaches (reaches : w.Reaches start i) : w.mayEnter start i = true := by
  cases reaches with
  | refl => simp [mayEnter]
  | tail _ joined =>
    obtain ⟨place, l, -, -, enters⟩ := joined
    exact enters

/-- The links that were crossed are all those between visited nodes. -/
theorem sortPlaces_crossed_search (w : Wiring) (start : Fin w.workspace.nodes.length) :
    let found := w.search start (.start start)
    sortPlaces found.crossed =
      places w.graph.links fun l => l.source ∈ found.visited && l.target ∈ found.visited := by
  intro found
  obtain ⟨sound, settled⟩ := Search.sound_settled_found w start
  refine sortPlaces_eq_places sound.crossedOnce fun place => ?_
  rw [mem_places_iff]
  constructor
  · intro crossed
    obtain ⟨i, visited, other, otherVisited, l, atPlace, ends, -⟩ := sound.between place crossed
    refine ⟨l, atPlace, ?_⟩
    rcases ends with ⟨rfl, rfl⟩ | ⟨rfl, rfl⟩ <;> simp [found, visited, otherVisited]
  · rintro ⟨l, atPlace, inside⟩
    obtain ⟨source, target⟩ : l.source ∈ found.visited ∧ l.target ∈ found.visited := by
      simpa using inside
    have enters := mayEnter_of_reaches (sound.reached _ target)
    exact (settled _ source place _ ⟨l, atPlace, .inl ⟨rfl, rfl⟩, enters⟩).1

end Wiring

end PolicyCanvas
