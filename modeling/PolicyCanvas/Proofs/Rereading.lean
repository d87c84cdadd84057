import PolicyCanvas.Proofs.Records

/-!
# Reading what was written

What decoders make of JSON values that were written, rather than of texts. A record is written as an
object with a member for each field, in whatever order; a decoder reads it when each of its fields
is read from the member of its name (`Decoder.reads_record`).
-/

namespace PolicyCanvas.Json

theorem lookup_eq_none_of_notMem {β : Type} {key : String} {entries : List (String × β)}
    (fresh : key ∉ entries.map Prod.fst) : entries.lookup key = none := by
  refine List.lookup_eq_none_iff.mpr fun entry among => bne_iff_ne.mpr fun same => fresh ?_
  exact List.mem_map.mpr ⟨entry, among, same.symm⟩

/-- Members in the order of their keys are told apart by looking them up. -/
theorem eq_of_lookup_eq {as bs : List (String × Json)}
    (sortedA : (as.map Prod.fst).Pairwise (· < ·)) (sortedB : (bs.map Prod.fst).Pairwise (· < ·))
    (same : ∀ key, as.lookup key = bs.lookup key) : as = bs := by
  induction as generalizing bs with
  | nil =>
    cases bs with
    | nil => rfl
    | cons m bs =>
      obtain ⟨key, j⟩ := m
      simpa using same key
  | cons m as ih =>
    obtain ⟨key, j⟩ := m
    cases bs with
    | nil => simpa using same key
    | cons m' bs =>
      obtain ⟨key', j'⟩ := m'
      obtain ⟨leastA, restA⟩ := List.pairwise_cons.mp sortedA
      obtain ⟨leastB, restB⟩ := List.pairwise_cons.mp sortedB
      have fresh {k : String} {members : List (String × Json)}
          (least : ∀ later ∈ members.map Prod.fst, k < later) : members.lookup k = none :=
        lookup_eq_none_of_notMem fun member => String.lt_irrefl k (least k member)
      have sameKey : key = key' := by
        rcases Std.lt_trichotomy key key' with before | equal | after
        · have missing := fresh fun later member => String.lt_trans before (leastB later member)
          have found := same key
          simp [List.lookup_cons, beq_false_of_ne (String.ne_of_lt before), missing] at found
        · exact equal
        · have missing := fresh fun later member => String.lt_trans after (leastA later member)
          have found := same key'
          simp [List.lookup_cons, beq_false_of_ne (String.ne_of_lt after), missing] at found
      obtain rfl := sameKey
      obtain rfl : j = j' := by simpa using same key
      refine congrArg _ (ih restA restB fun k => ?_)
      by_cases first : k = key
      · rw [first, fresh leastA, fresh leastB]
      · simpa [List.lookup_cons, beq_false_of_ne first] using same k

theorem Object.ext_get? {a b : Object} (same : ∀ key, a.get? key = b.get? key) : a = b :=
  ext_members (eq_of_lookup_eq a.canonical.1 b.canonical.1 same)

theorem insertMember_of_last {key : String} {value : Json} {members : List (String × Json)}
    (last : ∀ k ∈ members.map Prod.fst, k < key) :
    insertMember key value members = members ++ [(key, value)] := by
  induction members with
  | nil => rfl
  | cons m members ih =>
    have before : m.1 < key := last m.1 (by simp)
    rw [insertMember, if_neg (String.lt_asymm before), if_neg (String.ne_of_lt before).symm,
      ih fun k member => last k (List.mem_cons_of_mem _ member), List.cons_append]

namespace Outline

mutual

/-- A canonical value is read from its outline. -/
theorem toJson_ofJson : ∀ {j : Json}, j.Canonical → (ofJson j).toJson = .ok j
  | .null, _ => rfl
  | .bool _, _ => rfl
  | .number _, _ => rfl
  | .string _, _ => rfl
  | .array items, canonical => by
    rw [ofJson, toJson, if_neg (Nat.not_lt_zero _), jsonItems_ofItems canonical]
    rfl
  | .object members, ⟨sorted, canonical⟩ => by
    have read : jsonMembers [] (ofMembers members) = .ok ([] ++ members) :=
      jsonMembers_ofMembers sorted canonical
    rw [ofJson, toJson, if_neg (Nat.not_lt_zero _), read]
    rfl

theorem jsonItems_ofItems : ∀ {items : List Json}, CanonicalItems items →
    jsonItems (ofItems items) = .ok items
  | [], _ => rfl
  | j :: items, ⟨first, rest⟩ => by
    rw [ofItems, jsonItems, toJson_ofJson first, jsonItems_ofItems rest]
    rfl

theorem jsonMembers_ofMembers : ∀ {done members : List (String × Json)},
    ((done ++ members).map Prod.fst).Pairwise (· < ·) → CanonicalMembers members →
      jsonMembers done (ofMembers members) = .ok (done ++ members)
  | done, [], _, _ => by
    rw [ofMembers, jsonMembers, List.append_nil]
  | done, (key, j) :: members, sorted, ⟨first, rest⟩ => by
    have last : ∀ k ∈ done.map Prod.fst, k < key := by
      rw [List.map_append, List.pairwise_append] at sorted
      exact fun k member => sorted.2.2 k member key (by simp)
    rw [List.append_cons] at sorted ⊢
    rw [← jsonMembers_ofMembers sorted rest, ofMembers, jsonMembers, toJson_ofJson first]
    exact congrArg (jsonMembers · _) (insertMember_of_last last)

end

mutual

/-- Nothing is in the way of passing over a value. -/
theorem skip_ofJson : ∀ j : Json, (ofJson j).skip = none
  | .null | .bool _ | .number _ | .string _ => rfl
  | .array items => by rw [ofJson, skip, skipItems_ofItems items]
  | .object members => by rw [ofJson, skip, skipMembers_ofMembers members]

theorem skipItems_ofItems : ∀ items : List Json, skipItems (ofItems items) = none
  | [] => rfl
  | j :: items => by rw [ofItems, skipItems, skip_ofJson j, skipItems_ofItems items]; rfl

theorem skipMembers_ofMembers :
    ∀ members : List (String × Json), skipMembers (ofMembers members) = none
  | [] => rfl
  | (_, j) :: members => by
    rw [ofMembers, skipMembers, skip_ofJson j, skipMembers_ofMembers members]; rfl

end

theorem toObject?_ofJson (o : Object) : (ofJson o.toJson).toObject? = .ok (some o) := by
  have read := toJson_ofJson o.canonical
  unfold toObject?
  split
  next members same =>
    obtain rfl : o.members = members := by simpa using read.symm.trans same
    rfl
  next notObject same => exact absurd (Except.ok.inj (same.symm.trans read)) (notObject _)
  next same => cases same.symm.trans read

theorem get?_ofMembers (members : List (String × Json)) (name : String) :
    (ofMembers members).get? name = (members.lookup name).map ofJson := by
  induction members with
  | nil => rfl
  | cons m members ih =>
    obtain ⟨key, j⟩ := m
    rw [ofMembers, Members.get?, ih]
    by_cases same : key = name
    · obtain rfl := same
      rw [if_pos rfl, List.lookup_cons_self]
      rfl
    · rw [if_neg same, List.lookup_cons, beq_false_of_ne fun other => same other.symm]

end Outline

/-! ### Decoders -/

namespace Decoder

variable {α β : Type}

/-- Wherever the value comes from, the decoder makes `a` of it. -/
def Reads (d : Decoder α) (j : Json) (a : α) : Prop := ∀ s, d.read s (.ofJson j) = .ok a

theorem Reads.map {d : Decoder α} {j : Json} {a : α} (reads : d.Reads j a) (f : α → β) :
    (d.map f).Reads j (f a) := fun s => congrArg (Except.map f) (reads s)

theorem reads_bool (b : Bool) : bool.Reads (.bool b) b := fun _ => rfl

theorem reads_string (text : String) : string.Reads (.string text) text := fun _ => rfl

theorem reads_binary64 (x : Binary64) : binary64.Reads (.number (.float x)) x := fun _ => rfl

theorem reads_uint32 (n : UInt32) : uint32.Reads (.number (.integer n.toNat)) n := by
  intro s
  have inRange : 0 ≤ (n.toNat : Int) ∧ (n.toNat : Int).toNat < UInt32.size :=
    ⟨Int.natCast_nonneg _, n.toNat_lt⟩
  have read : (unsigned "u32" UInt32.size).read s (.ofJson (.number (.integer n.toNat))) =
      .ok ⟨(n.toNat : Int).toNat, inRange.2⟩ := dif_pos inRange
  refine (congrArg (Except.map _) read).trans ?_
  exact congrArg Except.ok UInt32.ofNat_toNat

theorem reads_json {j : Json} (canonical : j.Canonical) : json.Reads j ⟨j, canonical⟩ := by
  intro s
  dsimp only [json]
  split
  next read =>
    obtain rfl := Except.ok.inj (read.symm.trans (Outline.toJson_ofJson canonical))
    rfl
  next read => cases read.symm.trans (Outline.toJson_ofJson canonical)

theorem reads_object (o : Object) : object.Reads o.toJson o := by
  intro s
  change (liftFault (Outline.ofJson o.toJson).toObject? >>= _) = _
  rw [Outline.toObject?_ofJson]
  rfl

/-- A value other than `null` is read in the place of one that may be `null`. -/
theorem Reads.option {d : Decoder α} {j : Json} {a : α} (reads : d.Reads j a)
    (notNull : j ≠ .null) : d.option.Reads j (some a) := by
  intro s
  have given : d.option.read s (.ofJson j) = (d.read s (.ofJson j)).map some := by
    cases j with
    | null => exact absurd rfl notNull
    | _ => rfl
  rw [given, reads s]
  rfl

theorem reads_nullable {d : Decoder α} {f : α → Json} (reads : ∀ a, d.Reads (f a) a)
    (notNull : ∀ a, f a ≠ .null) (a? : Option α) : d.option.Reads (nullable f a?) a? := by
  cases a? with
  | none => exact fun _ => rfl
  | some a => exact (reads a).option (notNull a)

theorem reads_list {d : Decoder α} {f : α → Json} (reads : ∀ a, d.Reads (f a) a) (as : List α) :
    (list d).Reads (.array (as.map f)) as := by
  intro s
  change d.readItems s (Outline.ofItems (as.map f)) = .ok as
  induction as with
  | nil => rfl
  | cons a as ih =>
    rw [List.map_cons, Outline.ofItems, readItems, reads a s, ih]
    rfl

theorem reads_oneOf {name : α → String} {all : List α} {a : α}
    (named : (all.map fun a => (name a, a)).lookup (name a) = some a) :
    (oneOf name all).Reads (.string (name a)) a := by
  intro s
  change variantNamed _ (name a) = _
  rw [variantNamed, named]

end Decoder

namespace Form

variable {α β γ : Type}

/-- The order of the members does not matter. -/
theorem readMembers_ofMembers {form : Form γ} {c : γ} {members : List (String × Json)} {s : Source}
    (fits : form.Fits s (fun name => (members.lookup name).map .ofJson) c)
    (distinct : form.names.Nodup) (keys : (members.map Prod.fst).Nodup) :
    form.readMembers s (Outline.ofMembers members) = .ok c := by
  induction members generalizing form with
  | nil => exact submit_eq_ok_iff.mpr fits
  | cons m members ih =>
    obtain ⟨key, j⟩ := m
    obtain ⟨fresh, keys⟩ := List.nodup_cons.mp keys
    let get? (members : List (String × Json)) (name : String) : Option Outline :=
      (members.lookup name).map .ofJson
    have here : get? ((key, j) :: members) key = some (.ofJson j) := by
      simp only [get?, List.lookup_cons_self, Option.map_some]
    have elsewhere (name : String) (other : name ≠ key) :
        get? members name = get? ((key, j) :: members) name := by
      simp only [get?, List.lookup_cons, beq_false_of_ne other]
    have gone : get? members key = none := by
      simp only [get?, lookup_eq_none_of_notMem fresh, Option.map_none]
    obtain ⟨form', entered, fits⟩ :=
      enter_of_fits distinct here elsewhere fits gone (Outline.skip_ofJson j)
    rw [Outline.ofMembers, readMembers, entered]
    exact ih fits (names_of_enter entered ▸ distinct) keys

/-- Wherever the values of the members come from, the form comes to the entries. -/
def Reads (get? : String → Option Json) (form : Form γ) (c : γ) : Prop :=
  ∀ s, form.Fits s (fun name => (get? name).map .ofJson) c

/-! A blank field is read from the member of its name, or is its default when there is none. -/

theorem Reads.done {get? : String → Option Json} : Form.done.Reads get? () := fun _ => trivial

theorem Reads.field {get? : String → Option Json} {name : String} {d : Decoder α}
    {absent : Absent α} {rest : Form β} {j : Json} {a : α} {b : β} (given : get? name = some j)
    (reads : d.Reads j a) (later : rest.Reads get? b) :
    (Form.field name d absent none rest).Reads get? (a, b) := by
  intro s
  refine ⟨?_, later s⟩
  simp only [given]
  exact reads s

theorem Reads.default {get? : String → Option Json} {name : String} {d : Decoder α}
    {absent : Absent α} {rest : Form β} {a : α} {b : β} (missing : get? name = none)
    (isDefault : absent.inObject = some a) (later : rest.Reads get? b) :
    (Form.field name d absent none rest).Reads get? (a, b) := by
  intro s
  refine ⟨?_, later s⟩
  simp only [missing]
  exact isDefault

theorem Reads.listed {get? : String → Option Json} {name : String} {d : Decoder α}
    {rest : Form β} {f : α → Json} {a? : Option α} {b : β} (given : get? name = a?.map f)
    (reads : ∀ a, d.Reads (f a) a) (notNull : ∀ a, f a ≠ .null) (later : rest.Reads get? b) :
    (Form.listed name d rest).Reads get? (a?, b) := by
  cases a? with
  | none => exact .default given rfl later
  | some a => exact .field given ((reads a).option (notNull a)) later

end Form

/-! ### Objects of fields -/

/-- The members that `ofFields` makes of the fields. -/
def fieldMembers (fields : List (String × Option Json)) : List (String × Json) :=
  fields.filterMap fun (key, value?) => value?.map (key, ·)

theorem keys_fieldMembers_sublist (fields : List (String × Option Json)) :
    List.Sublist ((fieldMembers fields).map Prod.fst) (fields.map Prod.fst) := by
  induction fields with
  | nil => exact .slnil
  | cons f fields ih =>
    obtain ⟨key, _ | j⟩ := f
    · exact ih.cons key
    · exact ih.cons_cons key

theorem lookup_fieldMembers {fields : List (String × Option Json)}
    (distinct : (fields.map Prod.fst).Nodup) (name : String) :
    (fieldMembers fields).lookup name = (fields.lookup name).join := by
  induction fields with
  | nil => rfl
  | cons f fields ih =>
    obtain ⟨key, value?⟩ := f
    obtain ⟨fresh, later⟩ := List.nodup_cons.mp distinct
    have ofRest (other : (name == key) = false) :
        (((key, value?) :: fields).lookup name).join = (fieldMembers fields).lookup name := by
      rw [List.lookup_cons, other, ih later]
    by_cases same : name = key
    · obtain rfl := same
      cases value? with
      | none =>
        rw [List.lookup_cons, beq_self_eq_true]
        exact lookup_eq_none_of_notMem fun among =>
          fresh ((keys_fieldMembers_sublist fields).subset among)
      | some j => simp [fieldMembers]
    · have other := beq_false_of_ne same
      rw [ofRest other]
      cases value? with
      | none => rfl
      | some j => simp [fieldMembers, List.lookup_cons, other]

/-- The members other than those with a key are those of the other fields. -/
theorem filter_fieldMembers (fields : List (String × Option Json)) (key : String) :
    (fieldMembers fields).filter (·.1 != key) = fieldMembers (fields.filter (·.1 != key)) := by
  induction fields with
  | nil => rfl
  | cons f fields ih =>
    obtain ⟨name, value?⟩ := f
    simp only [fieldMembers] at ih ⊢
    by_cases same : name = key
    · cases value? with
      | none => simp [same, ih]
      | some j => simp [same, ih]
    · cases value? with
      | none => simp [same, ih]
      | some j => simp [same, ih]

theorem canonical_ofFields {fields : List (String × Option Json)}
    (sorted : (fields.map Prod.fst).Pairwise (· < ·))
    (each : ∀ f ∈ fields, ∀ j ∈ f.2, j.Canonical) :
    (ofFields fields).Canonical := by
  refine ⟨sorted.sublist (keys_fieldMembers_sublist fields), ?_⟩
  clear sorted
  induction fields with
  | nil => trivial
  | cons f fields ih =>
    have later := ih fun f among => each f (List.mem_cons_of_mem _ among)
    obtain ⟨key, _ | j⟩ := f
    · exact later
    · exact ⟨each (key, some j) (by simp) j rfl, later⟩

@[simp]
theorem canonical_null : null.Canonical := trivial

@[simp]
theorem canonical_bool (b : Bool) : (Json.bool b).Canonical := trivial

@[simp]
theorem canonical_number (n : Number) : (Json.number n).Canonical := trivial

@[simp]
theorem canonical_string (text : String) : (Json.string text).Canonical := trivial

@[simp]
theorem Object.canonical_toJson (o : Object) : o.toJson.Canonical := o.canonical

theorem canonical_nullable {α : Type} {f : α → Json} (each : ∀ a, (f a).Canonical)
    (a? : Option α) : (nullable f a?).Canonical := by
  cases a? with
  | none => trivial
  | some a => exact each a

theorem canonical_list {α : Type} {f : α → Json} (each : ∀ a, (f a).Canonical) (as : List α) :
    (array (as.map f)).Canonical := by
  change CanonicalItems (as.map f)
  induction as with
  | nil => trivial
  | cons a as ih => exact ⟨each a, ih⟩

@[simp]
theorem canonical_ofTextList (texts : List String) : (ofTextList texts).Canonical :=
  canonical_list canonical_string texts

/-- A record is read from an object of fields that its form is read from. -/
theorem Decoder.reads_record {α γ : Type} {name : String} {form : Form γ} {make : γ → α}
    {fields : List (String × Option Json)} {c : γ}
    (distinct : form.names.Nodup) (keys : (fields.map Prod.fst).Nodup)
    (reads : form.Reads (fun name => (fields.lookup name).join) c) :
    (Decoder.record name form make).Reads (ofFields fields) (make c) := by
  intro s
  have sameMembers : (fun name => ((fieldMembers fields).lookup name).map .ofJson) =
      fun name => ((fields.lookup name).join).map Outline.ofJson := by
    funext name
    rw [lookup_fieldMembers keys]
  have read : form.readMembers s (Outline.ofMembers (fieldMembers fields)) = .ok c :=
    Form.readMembers_ofMembers (sameMembers ▸ reads s) distinct
      (keys.sublist (keys_fieldMembers_sublist fields))
  exact congrArg (Except.map make) read

namespace Decoder

variable {α : Type} {field : String} {s : Source} {members : List (String × Json)}

theorem takeTag_of_notMem {d : Decoder α} {tag? : Option α}
    (fresh : field ∉ members.map Prod.fst) (canonical : CanonicalMembers members) :
    takeTag field d s tag? (Outline.ofMembers members) =
      .ok (tag?, Outline.ofMembers members) := by
  induction members with
  | nil => rfl
  | cons m members ih =>
    obtain ⟨key, j⟩ := m
    rw [List.map_cons, List.mem_cons, not_or] at fresh
    obtain ⟨other, fresh⟩ := fresh
    rw [Outline.ofMembers, takeTag.eq_def]
    dsimp only
    rw [if_neg (Ne.symm other), Outline.toJson_ofJson canonical.1, ih fresh canonical.2]
    rfl

/-- The tag is taken out from wherever it stands, and the other members are left in their order. -/
theorem takeTag_ofMembers {d : Decoder α} {j : Json} {a : α}
    (distinct : (members.map Prod.fst).Nodup) (canonical : CanonicalMembers members)
    (given : members.lookup field = some j) (read : d.read s (.ofJson j) = .ok a) :
    takeTag field d s none (Outline.ofMembers members) =
      .ok (some a, Outline.ofMembers (members.filter (·.1 != field))) := by
  induction members with
  | nil => cases given
  | cons m members ih =>
    obtain ⟨key, j'⟩ := m
    obtain ⟨fresh, distinct⟩ := List.nodup_cons.mp distinct
    by_cases same : key = field
    · obtain rfl := same
      obtain rfl : j' = j := by simpa using given
      have rest : members.filter (·.1 != key) = members := by
        refine List.filter_eq_self.mpr fun m member => bne_iff_ne.mpr fun same => fresh ?_
        exact List.mem_map.mpr ⟨m, member, same⟩
      rw [Outline.ofMembers, takeTag, if_pos rfl, read, List.filter_cons_of_neg (by simp), rest]
      exact takeTag_of_notMem fresh canonical.2
    · have later : members.lookup field = some j := by
        rwa [List.lookup_cons, beq_false_of_ne (Ne.symm same)] at given
      rw [Outline.ofMembers, takeTag, if_neg same, Outline.toJson_ofJson canonical.1,
        ih distinct canonical.2 later, List.filter_cons_of_pos (by simpa using same)]
      rfl

/-- An object is read as the kind of record that its tag names, from its other members. -/
theorem reads_tagged {wanted name : String} {kinds : List (String × Decoder α)} {d : Decoder α}
    {o : Object} {a : α} (tagged : o.get? field = some (.string name))
    (isKind : kinds.lookup name = some d)
    (reads : d.Reads (.object (o.members.filter (·.1 != field))) a) :
    (Decoder.tagged field wanted kinds).Reads o.toJson a := by
  intro s
  have named : (tag kinds).read s (.ofJson (.string name)) = .ok d := by
    change variantNamed kinds name = _
    rw [variantNamed, isKind]
  have taken := takeTag_ofMembers (o.canonical.1.imp String.ne_of_lt) o.canonical.2 tagged named
  change (takeTag field (tag kinds) s none (Outline.ofMembers o.members) >>= _) = _
  rw [taken]
  exact reads .kept

end Decoder

end PolicyCanvas.Json
