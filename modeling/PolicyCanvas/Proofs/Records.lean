import Mathlib.Data.List.Forall2
import PolicyCanvas.Json.Decoder

/-!
# What a record is made of

The members of an object are entered into a form one by one. Whatever their order, each field comes
to what its decoder reads from the member of its name, or to its default when there is none
(`Form.fits_of_readMembers`).
-/

namespace PolicyCanvas.Json

theorem exists_of_map_eq_ok.{u, v, w} {ε : Type u} {α : Type v} {β : Type w} {f : α → β}
    {e : Except ε α} {b : β} (same : e.map f = .ok b) : ∃ a, e = .ok a ∧ f a = b := by
  cases e with
  | error _ => cases same
  | ok a => exact ⟨a, rfl, Except.ok.inj same⟩

theorem exists_of_bind_eq_ok {ε α β : Type} {f : α → Except ε β} {e : Except ε α} {b : β}
    (same : (e >>= f) = .ok b) : ∃ a, e = .ok a ∧ f a = .ok b := by
  cases e with
  | error _ => cases same
  | ok a => exact ⟨a, rfl, same⟩

/-- The value of the first member with a name. -/
def Members.get? : Members → String → Option Outline
  | .nil _, _ | .cut _, _ => none
  | .cons (.error _) _ _ members, name => members.get? name
  | .cons (.ok key) value _ members, name => if key = name then some value else members.get? name

/-- The items in front of a place where an array breaks off, or all of them. -/
def Items.toList : Items → List Outline
  | .nil | .cut _ => []
  | .cons item items => item :: items.toList

/-- The value of a field: the member of its name, or the item at its place in an array. -/
def Outline.field? (o : Outline) (name : String) (place : Nat) : Option Outline :=
  match o with
  | .object _ _ members => members.get? name
  | .array _ _ items => items.toList[place]?
  | _ => none

namespace Form

variable {α β γ : Type}

/-- The names of the fields, in the order of the declaration. -/
@[simp]
def names : {γ : Type} → Form γ → List String
  | _, .done => []
  | _, .field name _ _ _ rest => name :: rest.names

@[simp]
theorem names_required (name : String) (d : Decoder α) (rest : Form β) :
    (required name d rest).names = name :: rest.names := rfl

@[simp]
theorem names_defaulted (name : String) (d : Decoder α) (default : α) (rest : Form β) :
    (defaulted name d default rest).names = name :: rest.names := rfl

@[simp]
theorem names_optional (name : String) (d : Decoder α) (rest : Form β) :
    (optional name d rest).names = name :: rest.names := rfl

@[simp]
theorem names_listed (name : String) (d : Decoder α) (rest : Form β) :
    (listed name d rest).names = name :: rest.names := rfl

/-- A field comes to a value: the value has been entered, or it is read from the member that is left
for the field, or there is no such member and it is the default. -/
def FieldFits (s : Source) (d : Decoder α) (absent : Absent α) :
    (entry : Option α) → (member? : Option Outline) → α → Prop
  | none, some o, a => d.read s o = .ok a
  | none, none, a => absent.inObject = some a
  | some entered, none, a => entered = a
  | some _, some _, _ => False

/-- Every field comes to its value when the members are left that `get?` has by their names. -/
def Fits (s : Source) (get? : String → Option Outline) : {γ : Type} → Form γ → γ → Prop
  | _, .done, _ => True
  | _, .field name d absent entry rest, c =>
    FieldFits s d absent entry (get? name) c.1 ∧ rest.Fits s get? c.2

variable {s : Source} {get? get?' : String → Option Outline}

theorem Fits.congr {form : Form γ} {c : γ} (fits : form.Fits s get? c)
    (same : ∀ name ∈ form.names, get?' name = get? name) : form.Fits s get?' c := by
  induction form with
  | done => trivial
  | field name d absent entry rest ih =>
    refine ⟨?_, ih fits.2 fun other later => same other (List.mem_cons_of_mem _ later)⟩
    rw [same name (by simp [names])]
    exact fits.1

/-- When no member is left, what has been entered and the defaults are submitted. -/
theorem submit_eq_ok_iff {form : Form γ} {c : γ} :
    form.submit = .ok c ↔ form.Fits s (fun _ => none) c := by
  induction form with
  | done => exact ⟨fun _ => trivial, fun _ => rfl⟩
  | field name d absent entry rest ih =>
    rw [submit, Fits, ← ih]
    cases given : entry <|> absent.inObject with
    | none =>
      cases entry with
      | none =>
        have noDefault : absent.inObject = none := given
        simp [FieldFits, noDefault]
      | some a => cases given
    | some a =>
      have own : FieldFits s d absent entry none c.1 ↔ a = c.1 := by
        cases entry with
        | none =>
          have isDefault : absent.inObject = some a := given
          simp [FieldFits, isDefault]
        | some entered =>
          obtain rfl := Option.some.inj given
          exact Iff.rfl
      rw [own]
      cases rest.submit <;> simp [Except.map, Prod.ext_iff]

theorem names_of_enter {form form' : Form γ} {key : String} {value : Outline}
    (entered : form.enter s key value = .ok form') : form'.names = form.names := by
  induction form with
  | done =>
    unfold enter at entered
    split at entered
    · cases entered
    · obtain rfl := Except.ok.inj entered
      rfl
  | field name d absent entry rest ih =>
    unfold enter at entered
    split_ifs at entered
    · cases entry with
      | some a => cases entered
      | none =>
        obtain ⟨a, -, rfl⟩ := exists_of_map_eq_ok entered
        rfl
    · obtain ⟨rest', enteredLater, rfl⟩ := exists_of_map_eq_ok entered
      rw [names, names, ih enteredLater]

section Enter

variable {form : Form γ} {c : γ} {key : String} {value : Outline} (distinct : form.names.Nodup)
  (here : get? key = some value) (elsewhere : ∀ name, name ≠ key → get?' name = get? name)

include distinct here elsewhere

/-- What comes of a form after a member has been entered comes of it before. -/
theorem fits_of_enter {form' : Form γ} (entered : form.enter s key value = .ok form')
    (fits : form'.Fits s get?' c) : form.Fits s get? c := by
  induction form with
  | done => trivial
  | field name d absent entry rest ih =>
    obtain ⟨fresh, distinct⟩ := List.nodup_cons.mp distinct
    unfold enter at entered
    split_ifs at entered with same
    · obtain rfl := same
      cases entry with
      | some a => cases entered
      | none =>
        obtain ⟨a, read, rfl⟩ := exists_of_map_eq_ok entered
        obtain ⟨own, later⟩ := fits
        refine ⟨?_, later.congr fun other among => ?_⟩
        · rw [here]
          cases left : get?' key with
          | none =>
            rw [left] at own
            obtain rfl : a = c.1 := own
            exact read
          | some o =>
            rw [left] at own
            exact own.elim
        · exact (elsewhere other fun same => fresh (same ▸ among)).symm
    · obtain ⟨rest', enteredLater, rfl⟩ := exists_of_map_eq_ok entered
      obtain ⟨own, later⟩ := fits
      refine ⟨?_, ih distinct enteredLater later⟩
      rwa [← elsewhere name fun other => same other.symm]

/-- A member that is in nobody's way can be entered when a form comes to its values with it. -/
theorem enter_of_fits (fits : form.Fits s get? c) (gone : get?' key = none)
    (passes : value.skip = none) :
    ∃ form', form.enter s key value = .ok form' ∧ form'.Fits s get?' c := by
  induction form with
  | done =>
    refine ⟨.done, ?_, trivial⟩
    rw [enter, passes]
  | field name d absent entry rest ih =>
    obtain ⟨own, later⟩ := fits
    obtain ⟨fresh, distinct⟩ := List.nodup_cons.mp distinct
    by_cases same : key = name
    · obtain rfl := same
      rw [here] at own
      cases entry with
      | some a => exact own.elim
      | none =>
        have read : d.read s value = .ok c.1 := own
        refine ⟨.field key d absent (some c.1) rest, ?_, ?_, later.congr fun other among => ?_⟩
        · rw [enter, if_pos rfl, read]
          rfl
        · rw [gone]
          exact rfl
        · exact elsewhere other fun same => fresh (same ▸ among)
    · obtain ⟨rest', entered, fits⟩ := ih distinct later
      refine ⟨.field name d absent entry rest', ?_, ?_, fits⟩
      · unfold enter
        rw [if_neg same, entered]
        rfl
      · rwa [elsewhere name fun other => same other.symm]

end Enter

/-- The entries of a record that was read are those of its members. -/
theorem fits_of_readMembers : ∀ {members : Members} {form : Form γ} {c : γ},
    form.readMembers s members = .ok c → form.names.Nodup → form.Fits s members.get? c
  | .nil _, form, c, read, _ => submit_eq_ok_iff.mp read
  | .cut _, _, _, read, _ => by cases read
  | .cons (.error _) _ _ _, _, _, read, _ => by cases read
  | .cons (.ok key) value next members, form, c, read, distinct => by
    rw [readMembers] at read
    cases entered : form.enter s key value with
    | error e =>
      rw [entered] at read
      cases read
    | ok form' =>
      rw [entered] at read
      have later : form'.Fits s members.get? c :=
        fits_of_readMembers read (names_of_enter entered ▸ distinct)
      refine fits_of_enter distinct (by rw [Members.get?, if_pos rfl]) ?_ entered later
      intro name other
      rw [Members.get?, if_neg other.symm]

theorem exists_of_fieldFits {d : Decoder α} {member? : Option Outline} {a : α}
    (fits : FieldFits s d ⟨none, none⟩ none member? a) :
    ∃ o, member? = some o ∧ d.read s o = .ok a := by
  cases member? with
  | none => cases fits
  | some o => exact ⟨o, rfl, fits⟩

end Form

@[simp]
theorem Outline.refuse_ne_ok {α : Type} {o : Outline} {wanted : String} {a : α} :
    o.refuse wanted ≠ .ok a := by
  unfold refuse
  split <;> simp

namespace Decoder

variable {α β γ : Type} {s : Source} {a : α}

theorem fits_of_record {name : String} {form : Form γ} {make : γ → α} {start depth : Nat}
    {members : Members}
    (read : (record name form make).read s (.object start depth members) = .ok a)
    (distinct : form.names.Nodup) : ∃ c, make c = a ∧ form.Fits s members.get? c := by
  obtain ⟨c, read, made⟩ := exists_of_map_eq_ok read
  exact ⟨c, made, Form.fits_of_readMembers read distinct⟩

theorem exists_items_of_record {name : String} {form : Form γ} {make : γ → α} {start depth : Nat}
    {items : Items} (read : (record name form make).read s (.array start depth items) = .ok a) :
    ∃ c wanted rest, make c = a ∧ form.readItems s wanted 0 items = .ok (c, rest) := by
  obtain ⟨⟨c, rest⟩, read, made⟩ := exists_of_bind_eq_ok read
  obtain ⟨-, -, made⟩ := exists_of_bind_eq_ok made
  exact ⟨c, _, rest, Except.ok.inj made, read⟩

/-- Whatever a record is read from, it is made of some entries. -/
theorem exists_of_record {name : String} {form : Form γ} {make : γ → α} {o : Outline}
    (read : (record name form make).read s o = .ok a) : ∃ c, make c = a := by
  cases o with
  | object start depth members =>
    obtain ⟨c, -, made⟩ := exists_of_map_eq_ok read
    exact ⟨c, made⟩
  | array start depth items =>
    obtain ⟨c, -, -, made, -⟩ := exists_items_of_record read
    exact ⟨c, made⟩
  | _ => simp [record] at read

/-- The first field of a record, if it has to be given, is read from the member of its name or from
the first item. -/
theorem first_of_record {name field : String} {d : Decoder β} {rest : Form γ} {make : β × γ → α}
    {o : Outline} (read : (record name (.required field d rest) make).read s o = .ok a)
    (distinct : (Form.required field d rest).names.Nodup) :
    ∃ c value, make c = a ∧ o.field? field 0 = some value ∧ d.read s value = .ok c.1 := by
  cases o with
  | object start depth members =>
    obtain ⟨c, made, own, -⟩ := fits_of_record read distinct
    obtain ⟨value, given, read⟩ := Form.exists_of_fieldFits own
    exact ⟨c, value, made, given, read⟩
  | array start depth items =>
    obtain ⟨c, wanted, left, made, read⟩ := exists_items_of_record read
    cases items with
    | nil => cases read
    | cut b => cases read
    | cons item items =>
      obtain ⟨b, first, later⟩ := exists_of_bind_eq_ok read
      obtain ⟨⟨c', left'⟩, -, same⟩ := exists_of_bind_eq_ok later
      obtain ⟨rfl, rfl⟩ : (b, c') = c ∧ left' = left := by simpa using Except.ok.inj same
      exact ⟨_, item, made, rfl, first⟩
  | _ => simp [record] at read

theorem forall₂_of_readItems {d : Decoder α} : ∀ {items : Items} {as : List α},
    d.readItems s items = .ok as →
      List.Forall₂ (fun a item => d.read s item = .ok a) as items.toList
  | .nil, as, read => by
    obtain rfl := Except.ok.inj read
    exact .nil
  | .cut _, _, read => by cases read
  | .cons item items, as, read => by
    obtain ⟨a, first, rest⟩ := exists_of_bind_eq_ok read
    obtain ⟨later, readLater, same⟩ := exists_of_bind_eq_ok rest
    obtain rfl := Except.ok.inj same
    exact .cons first (forall₂_of_readItems readLater)

/-- A list is read item by item. -/
theorem forall₂_of_list {d : Decoder α} {o : Outline} {as : List α}
    (read : (list d).read s o = .ok as) :
    ∃ start depth items, o = .array start depth items ∧
      List.Forall₂ (fun a item => d.read s item = .ok a) as items.toList := by
  cases o with
  | array start depth items =>
    exact ⟨start, depth, items, rfl, forall₂_of_readItems read⟩
  | _ => simp [list] at read

theorem toJson_of_json {o : Outline} {j : { j : Json // j.Canonical }}
    (read : json.read s o = .ok j) : o.toJson = .ok j.1 := by
  dsimp only [json] at read
  split at read
  next same =>
    obtain rfl := Except.ok.inj read
    exact same
  · cases read

theorem read_of_ofText {d : Decoder α} {text : String} (read : d.ofText text = .ok a) :
    d.read .text (Outline.ofText text).1 = .ok a := by
  unfold ofText at read
  split at read
  next outline leftover same =>
    rw [same]
    split at read
    · cases read
    · cases read
    next readOutline =>
      obtain rfl := Except.ok.inj read
      exact readOutline

end Decoder

end PolicyCanvas.Json
