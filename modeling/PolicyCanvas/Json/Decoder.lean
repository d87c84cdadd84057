import PolicyCanvas.Json.Fault
import PolicyCanvas.Json.Outline

/-!
# Reading typed values

A decoder reads a value of a type out of an outline, in the order of the text, so that the first
thing wrong in the text is the one reported. Records are read by filling in a `Form`: each member
goes into the blank of its name, an unknown name is passed over, and what is still blank at the end
is given its default or is missing. An array stands for a record when it lists the fields in order.
-/

namespace PolicyCanvas.Json

/-- Where an outline comes from: from a text that is being read, from a value that was read before,
or from the members of a record that were kept until its tag was known. -/
inductive Source where
  | text
  | value
  | kept
deriving DecidableEq, Repr

structure Decoder (α : Type) where
  read : Source → Outline → Except Failure α

namespace Outline

/-- The kind of value that the outline starts with. -/
def found : Outline → Except Fault Found
  | .null _ => .ok .null
  | .bool _ b => .ok (.bool b)
  | .number _ read => read.map .number
  | .string _ read _ => read.map .string
  | .array .. => .ok .sequence
  | .object .. => .ok .map
  | .broken _ b => .error b.read

/-- Refuses the value because something else is wanted. -/
def refuse {α : Type} (wanted : String) (o : Outline) : Except Failure α :=
  match o.found with
  | .error f => .error (.fault f)
  | .ok found => .error (.mismatch (.wrongType found wanted))

/-- The place of a fault that shows with the first byte of the value. -/
def peek : Outline → Nat
  | .null start | .bool start _ | .number start _ | .string start _ _ => start + 1
  | .array start _ _ | .object start _ _ => start + 1
  | .broken start b => start.elim b.read.offset (· + 1)

end Outline

/-- Turns the outcome of reading a text into the outcome of reading a value. -/
def liftFault {α : Type} (e : Except Fault α) : Except Failure α := e.mapError .fault

namespace Decoder

def map {α β : Type} (f : α → β) (d : Decoder α) : Decoder β := ⟨fun s o => (d.read s o).map f⟩

def bool : Decoder Bool where
  read
    | _, .bool _ b => .ok b
    | _, o => o.refuse "a boolean"

def string : Decoder String where
  read
    | _, .string _ read _ => liftFault read
    | _, o => o.refuse "a string"

/-- An integer below `bound`. -/
def unsigned (wanted : String) (bound : Nat) : Decoder { n : Nat // n < bound } where
  read
    | _, .number _ (.ok (.integer i)) =>
      if h : 0 ≤ i ∧ i.toNat < bound then .ok ⟨i.toNat, h.2⟩
      else .error (.mismatch (.outOfRange i wanted))
    | _, o => o.refuse wanted

def uint32 : Decoder UInt32 := (unsigned "u32" UInt32.size).map fun n => UInt32.ofNat n.1

def size : Decoder Nat := (unsigned "usize" UInt64.size).map Subtype.val

def binary64 : Decoder Binary64 where
  read
    | _, .number _ (.ok (.integer i)) => .ok (.ofInt i)
    | _, .number _ (.ok (.float x)) => .ok x
    | _, o => o.refuse "f64"

/-- Any value. -/
def json : Decoder { j : Json // j.Canonical } where
  read _ o :=
    match h : o.toJson with
    | .ok j => .ok ⟨j, Outline.canonical_of_toJson h⟩
    | .error f => .error (.fault f)

def object : Decoder Object where
  read
    | _, o@(.object ..) => do
      match ← liftFault o.toObject? with
      | some object => return object
      | none => o.refuse "a map"
    | _, o => o.refuse "a map"

/-- A value that may be `null`. -/
def option {α : Type} (d : Decoder α) : Decoder (Option α) where
  read
    | _, .null _ => .ok none
    | s, o => (d.read s o).map some

def readItems {α : Type} (d : Decoder α) (s : Source) : Items → Except Failure (List α)
  | .nil => .ok []
  | .cut b => .error (.fault b.read)
  | .cons item items => do
    let a ← d.read s item
    let as ← readItems d s items
    return a :: as

def list {α : Type} (d : Decoder α) : Decoder (List α) where
  read
    | s, .array _ _ items => d.readItems s items
    | _, o => o.refuse "a sequence"

/-! ### Variants -/

/-- The variant with a name. -/
def variantNamed {α : Type} (variants : List (String × α)) (name : String) : Except Failure α :=
  match variants.lookup name with
  | some a => .ok a
  | none => .error (.mismatch (.unknownVariant name (variants.map Prod.fst)))

/-- Refuses everything but the empty content of a variant. -/
def noContent : Source → Outline → Except Failure Unit
  | _, .null _ => .ok ()
  | .kept, .object _ _ (.nil _) => .ok ()
  | _, o => o.refuse "unit"

/-- The variant whose name is the only key of an object in a text. -/
def variantFromText {α : Type} (variants : List (String × α)) : Members → Except Failure α
  | .nil stop => .error (.fault ⟨.expectedValue, stop + 1⟩)
  | .cut b => .error (.fault b.read)
  | .cons key value next members => do
    let a ← variantNamed variants (← liftFault key)
    noContent .text value
    match members with
    | .nil _ => return a
    | .cut ⟨⟨.endInObject, offset⟩, _⟩ => throw (.fault ⟨.endInObject, offset⟩)
    | _ => throw (.fault ⟨.expectedValue, next⟩)

/-- The variant whose name is the only key of an object that was read before. -/
def variantFromObject {α : Type} (variants : List (String × α)) (s : Source) :
    Members → Except Failure α
  | .cons key value _ (.nil _) => do
    let a ← variantNamed variants (← liftFault key)
    noContent s value
    return a
  | _ => .error (.mismatch .notOneMember)

/-- One of several names. An object whose only key is the name stands for it too. -/
def variant {α : Type} (variants : List (String × α)) : Decoder α where
  read
    | _, .string _ read _ => do variantNamed variants (← liftFault read)
    | .text, .object _ _ members => variantFromText variants members
    | s, .object _ _ members => variantFromObject variants s members
    | .text, .broken none b => .error (.fault b.read)
    | .text, o => .error (.fault ⟨.expectedValue, o.peek⟩)
    | _, o => o.refuse "string or map"

/-- One of the values `all`, given by its name. -/
def oneOf {α : Type} (name : α → String) (all : List α) : Decoder α :=
  variant (all.map fun a => (name a, a))

/-- A name that tells which kind of object this is. -/
def tag {α : Type} (variants : List (String × α)) : Decoder α where
  read
    | _, .string _ read _ => do variantNamed variants (← liftFault read)
    | _, o => o.refuse "variant identifier"

end Decoder

/-! ### Records -/

/-- What a field is when it is not given. -/
structure Absent (α : Type) where
  inObject : Option α
  inArray : Option α

/-- A record with a blank for each field, in the order of the declaration. -/
inductive Form : Type → Type 1 where
  | done : Form Unit
  | field {α β : Type} (name : String) (decoder : Decoder α) (absent : Absent α)
      (entry : Option α) (rest : Form β) : Form (α × β)

namespace Form

variable {α β γ : Type}

/-- A field that has to be given. -/
def required (name : String) (d : Decoder α) (rest : Form β) : Form (α × β) :=
  .field name d ⟨none, none⟩ none rest

/-- A field that has a default. -/
def defaulted (name : String) (d : Decoder α) (default : α) (rest : Form β) : Form (α × β) :=
  .field name d ⟨some default, some default⟩ none rest

/-- A field that may be left out or `null`. -/
def optional (name : String) (d : Decoder α) (rest : Form β) : Form (Option α × β) :=
  .defaulted name d.option none rest

/-- A field that may be left out of an object or be `null`; an array has to list it. -/
def listed (name : String) (d : Decoder α) (rest : Form β) : Form (Option α × β) :=
  .field name d.option ⟨some none, none⟩ none rest

/-- The number of fields. -/
def size : {γ : Type} → Form γ → Nat
  | _, .done => 0
  | _, .field _ _ _ _ rest => rest.size + 1

/-- Enters a member. -/
def enter (s : Source) (key : String) (value : Outline) :
    {γ : Type} → Form γ → Except Failure (Form γ)
  | _, .done =>
    match value.skip with
    | some f => .error (.fault f)
    | none => .ok .done
  | _, .field name d absent entry rest =>
    if key = name then
      match entry with
      | some _ => .error (.mismatch (.duplicateField name))
      | none => (d.read s value).map fun a => .field name d absent (some a) rest
    else (rest.enter s key value).map (.field name d absent entry)

/-- What has been entered, and the defaults of what has not. -/
def submit : {γ : Type} → Form γ → Except Failure γ
  | _, .done => .ok ()
  | _, .field name _ absent entry rest =>
    match entry <|> absent.inObject with
    | none => .error (.mismatch (.missingField name))
    | some a => rest.submit.map fun b => (a, b)

def readMembers (s : Source) (form : Form γ) : Members → Except Failure γ
  | .nil _ => form.submit
  | .cut b => .error (.fault b.read)
  | .cons (.error f) _ _ _ => .error (.fault f)
  | .cons (.ok key) value _ members =>
    match form.enter s key value with
    | .error e => .error e
    | .ok form => form.readMembers s members

/-- Reads the fields in order; `index` counts those before. Leaves the items that are too many. -/
def readItems (s : Source) (wanted : String) (index : Nat) :
    {γ : Type} → Form γ → Items → Except Failure (γ × Items)
  | _, .done, items => .ok ((), items)
  | _, .field _ d absent _ rest, items =>
    match items with
    | .cut b => .error (.fault b.read)
    | .cons item items => do
      let a ← d.read s item
      let (b, items) ← rest.readItems s wanted (index + 1) items
      return ((a, b), items)
    | .nil =>
      match absent.inArray with
      | none => .error (.mismatch (.wrongLength index wanted))
      | some a => do
        let (b, items) ← rest.readItems s wanted (index + 1) .nil
        return ((a, b), items)

def countItems : Items → Nat
  | .cons _ items => countItems items + 1
  | _ => 0

/-- Refuses items after the last of `size` fields. -/
def refuseItems (s : Source) (size : Nat) : Items → Except Failure Unit
  | .nil => .ok ()
  | .cut ⟨⟨cause, offset⟩, _⟩ =>
    if cause = .trailingComma ∨ cause = .endInList then .error (.fault ⟨cause, offset⟩)
    else .error (.fault ⟨.trailingCharacters, offset⟩)
  | items@(.cons item _) =>
    match s with
    | .text => .error (.fault ⟨.trailingCharacters, item.peek⟩)
    | .value =>
      .error (.mismatch (.wrongLength (size + countItems items) "fewer elements in array"))
    | .kept =>
      let fields := if size = 1 then "1 element" else s!"{size} elements"
      .error (.mismatch (.wrongLength (size + countItems items) (fields ++ " in sequence")))

end Form

/-- A record called `name` in messages. -/
def Decoder.record {α γ : Type} (name : String) (form : Form γ) (make : γ → α) : Decoder α where
  read
    | s, .object _ _ members => (form.readMembers s members).map make
    | s, .array _ _ items => do
      let fields := if form.size = 1 then "1 element" else s!"{form.size} elements"
      let (entries, rest) ← form.readItems s ("struct " ++ name ++ " with " ++ fields) 0 items
      Form.refuseItems s form.size rest
      return make entries
    | _, o => o.refuse ("struct " ++ name)

namespace Decoder

variable {α : Type}

/-- Takes the member `field` out of an object and reads every other member to its end. -/
def takeTag (field : String) (d : Decoder α) (s : Source) (tag? : Option α) :
    Members → Except Failure (Option α × Members)
  | .nil stop => .ok (tag?, .nil stop)
  | .cut b => .error (.fault b.read)
  | .cons (.error f) _ _ _ => .error (.fault f)
  | .cons (.ok key) value next members =>
    if key = field then
      match tag? with
      | some _ => .error (.mismatch (.duplicateField field))
      | none => do
        let a ← d.read s value
        takeTag field d s (some a) members
    else do
      let _ ← liftFault value.toJson
      let (tag?, rest) ← takeTag field d s tag? members
      return (tag?, .cons (.ok key) value next rest)

/-- Reads to the end of an array. -/
def readThrough : Items → Except Failure Unit
  | .nil => .ok ()
  | .cut b => .error (.fault b.read)
  | .cons item items => do
    let _ ← liftFault item.toJson
    readThrough items

/-- A record whose member `field` names the kind of record that the other members make up. The
other members are read once the whole object is known. In an array the tag comes first. -/
def tagged (field wanted : String) (kinds : List (String × Decoder α)) : Decoder α where
  read
    | s, .object start depth members => do
      match ← takeTag field (tag kinds) s none members with
      | (some kind, rest) => kind.read .kept (.object start depth rest)
      | (none, _) => throw (.mismatch (.missingField field))
    | _, .array _ _ .nil => .error (.mismatch (.missingField field))
    | _, .array _ _ (.cut b) => .error (.fault b.read)
    | s, .array start depth (.cons item items) => do
      let kind ← (tag kinds).read s item
      readThrough items
      kind.read .kept (.array start depth items)
    | _, o => o.refuse wanted

end Decoder

/-! ### Texts and values -/

/-- Why a text gives no value of the wanted type. -/
inductive DecodeError where
  | text (e : TextError)
  | mismatch (m : Mismatch)
deriving DecidableEq, Repr

namespace DecodeError

def ofFailure (text : String) : Failure → DecodeError
  | .fault f => .text (.ofFault text f)
  | .mismatch m => .mismatch m

def message : DecodeError → String
  | text e => e.message
  | mismatch m => m.message

end DecodeError

namespace Decoder

variable {α : Type}

/-- The value that a text holds, with nothing after it. -/
def ofText (d : Decoder α) (text : String) : Except DecodeError α :=
  match Outline.ofText text with
  | (outline, leftover) =>
    match d.read .text outline, leftover with
    | .error e, _ => .error (.ofFailure text e)
    | .ok _, some start => .error (.text (.ofFault text ⟨.trailingCharacters, start + 1⟩))
    | .ok a, none => .ok a

/-- The value that a JSON value stands for. -/
def ofJson (d : Decoder α) (j : Json) : Except Failure α := d.read .value (.ofJson j)

end Decoder

end PolicyCanvas.Json
