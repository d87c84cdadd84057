import PolicyCanvas.Decimal

/-!
# JSON values

A JSON value keeps whole numbers apart from numbers with a fraction or an exponent, and the members
of an object in ascending order of their keys. `Json.Canonical` states the order at every depth, and
`Json.Object` is a free-form object that has it: two objects with the same members are then equal.
-/

namespace PolicyCanvas

namespace Json

/-- A number is whole when its literal has neither fraction nor exponent and fits 64 bits, signed
or unsigned; all others are binary64. -/
inductive Number where
  | integer (value : Int)
  | float (value : Binary64)
deriving DecidableEq, Repr

/-- A fraction is always written, exponents below -5 and above 15 are scientific. -/
def floatStyle : DecimalStyle := ⟨-5, 15, ['.', '0'], 'e', ['+']⟩

def Number.chars : Number → List Char
  | .integer i => (if i < 0 then ['-'] else []) ++ Nat.toDigits 10 i.natAbs
  | .float x => floatStyle.writeBinary64 x

def Number.text (n : Number) : String := String.ofList n.chars

/-- A value of the unsigned 64-bit range, written as an integer. -/
def Number.IsUnsigned : Number → Prop
  | .integer i => 0 ≤ i ∧ i < UInt64.size
  | .float _ => False

instance : DecidablePred Number.IsUnsigned := fun n =>
  match n with
  | .integer i => inferInstanceAs (Decidable (0 ≤ i ∧ i < UInt64.size))
  | .float _ => inferInstanceAs (Decidable False)

end Json

inductive Json where
  | null
  | bool (b : Bool)
  | number (n : Json.Number)
  | string (s : String)
  | array (items : List Json)
  | object (members : List (String × Json))

namespace Json

mutual

/-- Every object lists its members by strictly ascending key, at every depth. -/
def Canonical : Json → Prop
  | .array items => CanonicalItems items
  | .object members => (members.map Prod.fst).Pairwise (· < ·) ∧ CanonicalMembers members
  | _ => True

def CanonicalItems : List Json → Prop
  | [] => True
  | j :: items => Canonical j ∧ CanonicalItems items

def CanonicalMembers : List (String × Json) → Prop
  | [] => True
  | (_, j) :: members => Canonical j ∧ CanonicalMembers members

end

/-- Adds a member at its place, in the room of an earlier one with the same key. -/
def insertMember (key : String) (value : Json) : List (String × Json) → List (String × Json)
  | [] => [(key, value)]
  | (k, v) :: members =>
    if key < k then (key, value) :: (k, v) :: members
    else if key = k then (key, value) :: members
    else (k, v) :: insertMember key value members

theorem mem_keys_insertMember {key : String} {value : Json} {members : List (String × Json)}
    {k : String} (h : k ∈ (insertMember key value members).map Prod.fst) :
    k = key ∨ k ∈ members.map Prod.fst := by
  induction members with
  | nil => simpa [insertMember] using h
  | cons m members ih =>
    simp only [insertMember] at h
    split at h
    · simpa using h
    · split at h
      · rename_i e
        simp only [List.map_cons, List.mem_cons] at h ⊢
        exact h.imp id .inr
      · simp only [List.map_cons, List.mem_cons] at h ⊢
        rcases h with h | h
        · exact .inr (.inl h)
        · exact (ih h).imp id .inr

theorem pairwise_keys_insertMember {key : String} {value : Json} {members : List (String × Json)}
    (h : (members.map Prod.fst).Pairwise (· < ·)) :
    ((insertMember key value members).map Prod.fst).Pairwise (· < ·) := by
  induction members with
  | nil => simp [insertMember]
  | cons m members ih =>
    simp only [List.map_cons, List.pairwise_cons] at h
    simp only [insertMember]
    split
    · rename_i before
      simp only [List.map_cons, List.pairwise_cons, List.mem_cons]
      refine ⟨?_, h⟩
      rintro k (rfl | later)
      · exact before
      · exact String.lt_trans before (h.1 k later)
    · split
      · rename_i e
        simpa [e] using h
      · rename_i notBefore other
        simp only [List.map_cons, List.pairwise_cons]
        refine ⟨fun k hk => ?_, ih h.2⟩
        rcases mem_keys_insertMember hk with rfl | later
        · rcases Std.lt_trichotomy k m.1 with lt | eq | gt
          · exact absurd lt notBefore
          · exact absurd eq other
          · exact gt
        · exact h.1 k later

theorem canonicalMembers_insertMember {key : String} {value : Json}
    {members : List (String × Json)} (hv : value.Canonical) (h : CanonicalMembers members) :
    CanonicalMembers (insertMember key value members) := by
  induction members with
  | nil => exact ⟨hv, trivial⟩
  | cons m members ih =>
    simp only [insertMember]
    split
    · exact ⟨hv, h⟩
    · split
      · exact ⟨hv, h.2⟩
      · exact ⟨h.1, ih h.2⟩

theorem canonicalMembers_filter (p : String × Json → Bool) {members : List (String × Json)}
    (h : CanonicalMembers members) : CanonicalMembers (members.filter p) := by
  induction members with
  | nil => trivial
  | cons m members ih =>
    rw [List.filter_cons]
    split
    · exact ⟨h.1, ih h.2⟩
    · exact ih h.2

theorem lookup_filter_ne (key k : String) (members : List (String × Json)) :
    (members.filter (·.1 != key)).lookup k = if k = key then none else members.lookup k := by
  induction members with
  | nil => simp
  | cons m members ih =>
    obtain ⟨name, j⟩ := m
    by_cases same : name = key
    · rw [List.filter_cons_of_neg (by simp [same]), ih, List.lookup_cons]
      by_cases found : k = key
      · rw [if_pos found, if_pos found]
      · rw [if_neg found, if_neg found, beq_false_of_ne fun other => found (other.trans same)]
    · rw [List.filter_cons_of_pos (by simp [same]), List.lookup_cons, List.lookup_cons, ih]
      by_cases found : k = name
      · simp [found, same]
      · rw [beq_false_of_ne found]

theorem lookup_insertMember (key k : String) (value : Json) (members : List (String × Json)) :
    (insertMember key value members).lookup k =
      if k = key then some value else members.lookup k := by
  induction members with
  | nil =>
    by_cases found : k = key
    · simp [insertMember, found]
    · simp [insertMember, found]
  | cons m members ih =>
    obtain ⟨name, j⟩ := m
    rw [insertMember]
    by_cases found : k = key
    · subst found
      split
      · simp
      · split
        · simp
        next other => simp [List.lookup_cons, ih, beq_false_of_ne other]
    · split
      · simp [List.lookup_cons, beq_false_of_ne found]
      · split
        next same => simp [List.lookup_cons, ← same, beq_false_of_ne found]
        · simp [List.lookup_cons, ih, found]

/-- A free-form object. -/
structure Object where
  members : List (String × Json)
  canonical : (Json.object members).Canonical

namespace Object

instance : EmptyCollection Object := ⟨⟨[], by simp [Canonical, CanonicalMembers]⟩⟩

theorem ext_members {a b : Object} (h : a.members = b.members) : a = b := by
  cases a; cases b; cases h; rfl

def get? (o : Object) (key : String) : Option Json := o.members.lookup key

def insert (o : Object) (key : String) (value : { j : Json // j.Canonical }) : Object where
  members := insertMember key value.1 o.members
  canonical :=
    ⟨pairwise_keys_insertMember o.canonical.1,
      canonicalMembers_insertMember value.2 o.canonical.2⟩

theorem get?_insert (o : Object) (key k : String) (value : { j : Json // j.Canonical }) :
    (o.insert key value).get? k = if k = key then some value.1 else o.get? k :=
  lookup_insertMember key k value.1 o.members

/-- The object without the member with the key. -/
def erase (o : Object) (key : String) : Object where
  members := o.members.filter (·.1 != key)
  canonical :=
    ⟨o.canonical.1.sublist (List.filter_sublist.map _), canonicalMembers_filter _ o.canonical.2⟩

theorem get?_erase (o : Object) (key k : String) :
    (o.erase key).get? k = if k = key then none else o.get? k :=
  lookup_filter_ne key k o.members

/-- An object of texts, a later entry replacing an earlier one with the same key. -/
def ofTexts (entries : List (String × String)) : Object :=
  entries.foldl (fun o (key, text) => o.insert key ⟨.string text, by simp [Canonical]⟩) ∅

def toJson (o : Object) : Json := .object o.members

end Object

/-- An object of the fields that have a value. -/
def ofFields (fields : List (String × Option Json)) : Json :=
  .object (fields.filterMap fun (key, value?) => value?.map (key, ·))

/-- `null` for nothing. -/
def nullable {α : Type} (f : α → Json) : Option α → Json
  | some a => f a
  | none => .null

def ofTextList (texts : List String) : Json := .array (texts.map .string)

end Json

end PolicyCanvas
