import Mathlib.Data.List.Sort
import PolicyCanvas.Proofs.Requests

/-!
# Walks through a forest

An address leads to a result from the top: it says which of the results at the top to take, which of
the resources under that, and so on. The walk of a forest lists what is at its addresses, in their
order (`IsWalk`): a result comes before those under it, and these come before the results after it.
There is exactly one such list, the preorder of the forest (`isWalk_iff`). What is submitted of a
forest is picked from its walk, so no result keeps those under it from being submitted.
-/

namespace PolicyCanvas

namespace ResultTree

/-- The result at an address, a position at each level from the top down. -/
def at? (results : List ResultTree) : List Nat → Option ResultTree
  | [] => none
  | [i] => results[i]?
  | i :: j :: address => results[i]?.bind fun r => at? (r.resources?.getD []) (j :: address)

/-- The list has what is at the addresses of the forest, each address once and in ascending order.
An address is before those that go on from it, and otherwise the first level at which two addresses
differ decides. -/
def IsWalk (results listed : List ResultTree) : Prop :=
  ∃ addresses : List (List Nat), addresses.Pairwise (· < ·) ∧
    (∀ address, address ∈ addresses ↔ (at? results address).isSome) ∧
    listed.map some = addresses.map (at? results)

mutual

/-- The addresses of the results under `r`. -/
def addressesBelow : ResultTree → List (List Nat)
  | ⟨_, _, _, some resources⟩ => allAddresses resources
  | ⟨_, _, _, none⟩ => []

def allAddresses : List ResultTree → List (List Nat)
  | [] => []
  | r :: results =>
    [0] :: (r.addressesBelow.map (0 :: ·) ++ (allAddresses results).map (List.modifyHead (· + 1)))

end

mutual

theorem forestInductionBelow {motive : List ResultTree → Prop} (nil : motive [])
    (cons : ∀ r results, motive (r.resources?.getD []) → motive results → motive (r :: results))
    (r : ResultTree) : motive (r.resources?.getD []) := by
  match r with
  | ⟨_, _, _, some resources⟩ => exact forestInduction nil cons resources
  | ⟨_, _, _, none⟩ => exact nil

/-- What holds of a forest when it holds under its first result and of the results after that holds
of every forest. -/
theorem forestInduction {motive : List ResultTree → Prop} (nil : motive [])
    (cons : ∀ r results, motive (r.resources?.getD []) → motive results → motive (r :: results))
    (results : List ResultTree) : motive results := by
  match results with
  | [] => exact nil
  | r :: results =>
    exact cons r results (forestInductionBelow nil cons r) (forestInduction nil cons results)

end

theorem allAddresses_cons (r : ResultTree) (results : List ResultTree) :
    allAddresses (r :: results) =
      [0] :: ((allAddresses (r.resources?.getD [])).map (0 :: ·) ++
        (allAddresses results).map (List.modifyHead (· + 1))) := by
  match r with
  | ⟨_, _, _, some resources⟩ => rfl
  | ⟨_, _, _, none⟩ => rfl

theorem ne_nil_of_at? {results : List ResultTree} {address : List Nat}
    (there : (at? results address).isSome) : address ≠ [] := by
  rintro rfl
  simp [at?] at there

theorem at?_below {r : ResultTree} {results : List ResultTree} {address : List Nat}
    (goesOn : address ≠ []) :
    at? (r :: results) (0 :: address) = at? (r.resources?.getD []) address := by
  obtain ⟨j, address, rfl⟩ := List.exists_cons_of_ne_nil goesOn
  simp [at?]

theorem at?_after {r : ResultTree} {results : List ResultTree} (i : Nat) (address : List Nat) :
    at? (r :: results) ((i + 1) :: address) = at? results (i :: address) := by
  cases address with
  | nil => simp [at?]
  | cons j address => simp [at?]

/-- The addresses that are listed are exactly those that lead to a result. -/
theorem mem_allAddresses_iff {results : List ResultTree} {address : List Nat} :
    address ∈ allAddresses results ↔ (at? results address).isSome := by
  induction results using forestInduction generalizing address with
  | nil =>
    match address with
    | [] => simp [allAddresses, at?]
    | [i] => simp [allAddresses, at?]
    | i :: j :: address => simp [allAddresses, at?]
  | cons r results below after =>
    rw [allAddresses_cons]
    simp only [List.mem_cons, List.mem_append, List.mem_map]
    constructor
    · rintro (rfl | ⟨rest, member, rfl⟩ | ⟨rest, member, rfl⟩)
      · simp [at?]
      · have there := below.mp member
        rwa [at?_below (ne_nil_of_at? there)]
      · have there := after.mp member
        obtain ⟨i, rest, rfl⟩ := List.exists_cons_of_ne_nil (ne_nil_of_at? there)
        rwa [List.modifyHead_cons, at?_after]
    · intro there
      -- an address that begins with 0 stays under `r`, any other leads past it
      match address with
      | [] => simp [at?] at there
      | [0] => exact .inl rfl
      | 0 :: j :: rest =>
        rw [at?_below (List.cons_ne_nil j rest)] at there
        exact .inr (.inl ⟨j :: rest, below.mpr there, rfl⟩)
      | (i + 1) :: rest =>
        rw [at?_after] at there
        exact .inr (.inr ⟨i :: rest, after.mpr there, rfl⟩)

theorem exists_cons_of_mem_allAddresses {results : List ResultTree} {address : List Nat}
    (member : address ∈ allAddresses results) : ∃ i rest, address = i :: rest :=
  List.exists_cons_of_ne_nil (ne_nil_of_at? (mem_allAddresses_iff.mp member))

/-- The addresses are listed in ascending order. -/
theorem pairwise_allAddresses (results : List ResultTree) :
    (allAddresses results).Pairwise (· < ·) := by
  induction results using forestInduction with
  | nil => exact .nil
  | cons r results below after =>
    have under : ((allAddresses (r.resources?.getD [])).map (0 :: ·)).Pairwise (· < ·) :=
      below.map _ fun _ _ before => List.cons_lt_cons_iff.mpr (.inr ⟨rfl, before⟩)
    have behind : ((allAddresses results).map (List.modifyHead (· + 1))).Pairwise (· < ·) := by
      rw [List.pairwise_map]
      refine after.imp_of_mem fun member member' before => ?_
      obtain ⟨i, rest, rfl⟩ := exists_cons_of_mem_allAddresses member
      obtain ⟨j, rest', rfl⟩ := exists_cons_of_mem_allAddresses member'
      simpa [List.cons_lt_cons_iff] using before
    have apart : ∀ a ∈ (allAddresses (r.resources?.getD [])).map (0 :: ·),
        ∀ b ∈ (allAddresses results).map (List.modifyHead (· + 1)), a < b := by
      intro a isUnder b isBehind
      obtain ⟨rest, -, rfl⟩ := List.mem_map.mp isUnder
      obtain ⟨rest', member, rfl⟩ := List.mem_map.mp isBehind
      obtain ⟨i, rest', rfl⟩ := exists_cons_of_mem_allAddresses member
      exact List.cons_lt_cons_iff.mpr (.inl (Nat.succ_pos i))
    rw [allAddresses_cons, List.pairwise_cons, List.pairwise_append]
    refine ⟨fun a isLater => ?_, under, behind, apart⟩
    rcases List.mem_append.mp isLater with isUnder | isBehind
    · obtain ⟨rest, member, rfl⟩ := List.mem_map.mp isUnder
      obtain ⟨i, rest, rfl⟩ := exists_cons_of_mem_allAddresses member
      exact List.cons_lt_cons_iff.mpr (.inr ⟨rfl, List.nil_lt_cons i rest⟩)
    · obtain ⟨rest, member, rfl⟩ := List.mem_map.mp isBehind
      obtain ⟨i, rest, rfl⟩ := exists_cons_of_mem_allAddresses member
      exact List.cons_lt_cons_iff.mpr (.inl (Nat.succ_pos i))

theorem map_at?_allAddresses (results : List ResultTree) :
    (allAddresses results).map (at? results) = (allPreorder results).map some := by
  induction results using forestInduction with
  | nil => rfl
  | cons r results below after =>
    have under : (allAddresses (r.resources?.getD [])).map (at? (r :: results) ∘ (0 :: ·)) =
        (allAddresses (r.resources?.getD [])).map (at? (r.resources?.getD [])) :=
      List.map_congr_left fun address member =>
        at?_below (ne_nil_of_at? (mem_allAddresses_iff.mp member))
    have behind : (allAddresses results).map (at? (r :: results) ∘ List.modifyHead (· + 1)) =
        (allAddresses results).map (at? results) := by
      refine List.map_congr_left fun address member => ?_
      obtain ⟨i, rest, rfl⟩ := exists_cons_of_mem_allAddresses member
      exact at?_after i rest
    rw [allAddresses_cons, List.map_cons, List.map_append, List.map_map, List.map_map, under, below,
      behind, after, allPreorder, preorder_eq_cons, List.cons_append, List.map_cons,
      List.map_append]
    rfl

/-- A forest has exactly one walk. -/
theorem isWalk_iff {results listed : List ResultTree} :
    IsWalk results listed ↔ listed = allPreorder results := by
  constructor
  · rintro ⟨addresses, ascending, complete, lists⟩
    have same : addresses = allAddresses results :=
      ascending.eq_of_mem_iff (pairwise_allAddresses results) fun address =>
        (complete address).trans mem_allAddresses_iff.symm
    rw [same, map_at?_allAddresses] at lists
    exact (List.map_injective_iff.mpr (Option.some_injective _)) lists
  · rintro rfl
    exact ⟨allAddresses results, pairwise_allAddresses results, fun _ => mem_allAddresses_iff,
      (map_at?_allAddresses results).symm⟩

end ResultTree

open ResultTree (IsWalk allPreorder)

/-- Schemas, scripts, validators and operations are submitted, each for the node of its result. -/
theorem DryRun.Submission.ofResult?_eq (r : ResultTree) :
    ofResult? r =
      (r.payload?.filter (·.kind ∈ [.schema, .script, .validator, .operation])).map
        (⟨r.node.id, r.node.tag, ·⟩) := by
  unfold ofResult?
  cases carries : r.payload? with
  | none => rfl
  | some payload => cases payload <;> rfl

/-- Of the results under `r`, those with a payload are appended as they are, in the order of their
walk. Of a forest, its schemas, scripts, validators and operations are submitted in the order of its
walk, one for each time that it has them. -/
theorem DryRun.Submission.ofResults_eq_picked (done : List ResultTree) (r : ResultTree)
    (results : List ResultTree) :
    ∃ below walk,
      (∀ listed, IsWalk (r.resources?.getD []) listed ↔ listed = below) ∧
      (∀ listed, IsWalk results listed ↔ listed = walk) ∧
      r.appendBelow done = done ++ below.filter (·.payload?.isSome) ∧
      ofResults results = walk.filterMap fun s =>
        (s.payload?.filter (·.kind ∈ [.schema, .script, .validator, .operation])).map
          (⟨s.node.id, s.node.tag, ·⟩) := by
  refine ⟨allPreorder (r.resources?.getD []), allPreorder results, fun _ => ResultTree.isWalk_iff,
    fun _ => ResultTree.isWalk_iff, r.appendBelow_eq_preorder done, ?_⟩
  rw [ofResults_eq_preorder]
  exact List.filterMap_congr fun s _ => ofResult?_eq s

end PolicyCanvas
