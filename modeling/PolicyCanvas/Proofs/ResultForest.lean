import PolicyCanvas.Outcome

/-!
# Forests of results

All results of a forest in one list, a result before those under it. The findings of a forest are
those of the results in this list (`allFindings_eq_preorder`), so none is lost however deep it lies.
-/

namespace PolicyCanvas

namespace ResultTree

mutual

/-- A result and then all that are under it. -/
def preorder : ResultTree → List ResultTree
  | ⟨node, payload?, finding?, some resources⟩ =>
    ⟨node, payload?, finding?, some resources⟩ :: allPreorder resources
  | ⟨node, payload?, finding?, none⟩ => [⟨node, payload?, finding?, none⟩]

def allPreorder : List ResultTree → List ResultTree
  | [] => []
  | r :: results => r.preorder ++ allPreorder results

end

mutual

theorem findings_eq_preorder (r : ResultTree) : r.findings = r.preorder.filterMap finding? := by
  match r with
  | ⟨node, payload?, finding?, some resources⟩ =>
    rw [findings, preorder, List.filterMap_cons, allFindings_eq_preorder resources]
    cases finding? <;> simp
  | ⟨node, payload?, finding?, none⟩ => cases finding? <;> simp [findings, preorder]

/-- The findings of a forest are those of all of its results, at any depth. -/
theorem allFindings_eq_preorder (results : List ResultTree) :
    allFindings results = (allPreorder results).filterMap finding? := by
  match results with
  | [] => simp [allFindings, allPreorder]
  | r :: results =>
    rw [allFindings, allPreorder, List.filterMap_append, findings_eq_preorder r,
      allFindings_eq_preorder results]

end

theorem allFindings_eq_nil_iff {results : List ResultTree} :
    allFindings results = [] ↔ ∀ r ∈ allPreorder results, r.finding? = none := by
  rw [allFindings_eq_preorder, List.filterMap_eq_nil_iff]

theorem allFindings_eq_flatMap (results : List ResultTree) :
    allFindings results = results.flatMap findings := by
  induction results with
  | nil => rfl
  | cons r results ih => rw [allFindings, ih, List.flatMap_cons]

theorem allFindings_append (front rest : List ResultTree) :
    allFindings (front ++ rest) = allFindings front ++ allFindings rest := by
  simp only [allFindings_eq_flatMap, List.flatMap_append]

theorem preorder_eq_cons (r : ResultTree) :
    r.preorder = r :: allPreorder (r.resources?.getD []) := by
  match r with
  | ⟨_, _, _, some resources⟩ => rw [preorder]; rfl
  | ⟨_, _, _, none⟩ => rw [preorder]; rfl

theorem allPreorder_append (front rest : List ResultTree) :
    allPreorder (front ++ rest) = allPreorder front ++ allPreorder rest := by
  induction front with
  | nil => rfl
  | cons r front ih => rw [List.cons_append, allPreorder, ih, allPreorder, List.append_assoc]

mutual

theorem appendBelow_eq_preorder (done : List ResultTree) (r : ResultTree) :
    r.appendBelow done =
      done ++ (allPreorder (r.resources?.getD [])).filter (·.payload?.isSome) := by
  match r with
  | ⟨_, _, _, some resources⟩ =>
    rw [appendBelow]
    exact appendAll_eq_preorder done resources
  | ⟨_, _, _, none⟩ => simp [appendBelow, allPreorder]

/-- Appending the results with a payload goes through a forest in its order. -/
theorem appendAll_eq_preorder (done results : List ResultTree) :
    appendAll done results = done ++ (allPreorder results).filter (·.payload?.isSome) := by
  match results with
  | [] => simp [appendAll, allPreorder]
  | r :: results =>
    rw [appendAll, appendAll_eq_preorder, appendBelow_eq_preorder, allPreorder, preorder_eq_cons,
      List.cons_append, List.filter_cons, List.filter_append]
    cases carries : r.payload?.isSome <;> simp

end

end ResultTree

namespace Resolution

variable {α β : Type}

/-- The finding of a resolution and then those of its resources. -/
def findings (r : Resolution α) : List Finding :=
  r.finding?.toList ++ ResultTree.allFindings (r.resources?.getD [])

theorem findings_toTree (wrap : α → Payload) (r : Resolution α) :
    (r.toTree wrap).findings = r.findings := by
  rw [toTree, findings]
  cases r.resources? with
  | none => simp [ResultTree.findings, ResultTree.allFindings]
  | some resources => simp [ResultTree.findings]

/-- Writing values as payloads loses no finding. -/
theorem allFindings_map_toTree (wrap : α → Payload) (resolutions : List (Resolution α)) :
    ResultTree.allFindings (resolutions.map (·.toTree wrap)) = resolutions.flatMap findings := by
  rw [ResultTree.allFindings_eq_flatMap, List.flatMap_map]
  simp only [findings_toTree]

@[simp]
theorem findings_failure (n : Node) (p : Problem) :
    (failure n p : Resolution α).findings = [p.finding n] := rfl

@[simp]
theorem findings_withResources (n : Node) (a : α) (wrap : β → Payload)
    (resources : List (Resolution β)) :
    ((success n a).withResources (resources.map (·.toTree wrap))).findings =
      resources.flatMap findings :=
  allFindings_map_toTree wrap resources

@[simp]
theorem value?_success (n : Node) (a : α) : (success n a).value? = some a := rfl

@[simp]
theorem value?_withResources (r : Resolution α) (resources : List ResultTree) :
    (r.withResources resources).value? = r.value? := rfl

/-- A resolution has a value or a finding, and never both. -/
theorem isSome_value?_eq (r : Resolution α) : r.value?.isSome = !r.finding?.isSome := by
  obtain ⟨node, verdict, resources?⟩ := r
  cases verdict <;> rfl

/-- A resolution without findings has a value. -/
theorem isSome_value?_of_findings {r : Resolution α} (clean : r.findings = []) :
    r.value?.isSome := by
  obtain ⟨node, verdict, resources?⟩ := r
  cases verdict with
  | ok a => rfl
  | error f => simp [findings, finding?] at clean

end Resolution

end PolicyCanvas
