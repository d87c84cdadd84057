import PolicyCanvas.Json.Token

/-!
# Outlines of texts

The outline of a text is what can be made out of it: values with the order and the repetitions of
the text, and at most one place where it breaks off. Nothing follows such a place, so a reader that
goes through the outline in order meets the faults of the text and its own complaints in the order
in which a reader of the text itself would meet them.

`Outline.ofTokens` builds the outline, `Outline.toJson` reads it as a JSON value, `Outline.skip`
passes over it, and `Outline.ofJson` is the outline of a value that has been read already.
-/

namespace PolicyCanvas.Json

mutual

inductive Outline where
  | null (start : Nat)
  | bool (start : Nat) (b : Bool)
  | number (start : Nat) (read : Except Fault Number)
  | string (start : Nat) (read : Except Fault String) (skip : Option Fault)
  /-- `depth` counts the brackets around the items. -/
  | array (start depth : Nat) (items : Items)
  | object (start depth : Nat) (members : Members)
  /-- No value can be read. `start` is where the attempt at one stands, if there is any. -/
  | broken (start : Option Nat) (b : Break)

inductive Items where
  | nil
  | cut (b : Break)
  | cons (item : Outline) (items : Items)

inductive Members where
  /-- `stop` is the place of the closing bracket. -/
  | nil (stop : Nat)
  | cut (b : Break)
  /-- `next` is the place of what follows the value. -/
  | cons (key : Except Fault String) (value : Outline) (next : Nat) (members : Members)

end

/-! ### From tokens -/

/-- An open bracket with what has been read since, the last first. -/
inductive Frame where
  | array (start depth : Nat) (done : List Outline)
  /-- `key` is the key whose value comes next. -/
  | object (start depth : Nat) (done : List (Except Fault String × Outline × Nat))
      (key : Except Fault String)

namespace Frame

/-- How many brackets there are around what the frame encloses. -/
def depth : Frame → Nat
  | array _ depth _ => depth
  | object _ depth _ _ => depth

/-- What closes the brackets: nothing follows it. -/
inductive Ending where
  | closed (stop : Nat)
  | cut (b : Break)
  | value (v : Outline)

def close (frame : Frame) (ending : Ending) : Outline :=
  match frame with
  | array start depth done =>
    let tail := match ending with
      | .closed _ => .nil
      | .cut b => .cut b
      | .value v => .cons v .nil
    .array start depth (done.foldl (fun items item => .cons item items) tail)
  | object start depth done key =>
    let tail := match ending with
      | .closed stop => .nil stop
      | .cut b => .cut b
      | .value v => .cons key v 0 (.nil 0)
    .object start depth
      (done.foldl (fun members (key, value, next) => .cons key value next members) tail)

/-- Takes in a value that was read to its end. -/
def add (frame : Frame) (v : Outline) (next : Nat) : Frame :=
  match frame with
  | array start depth done => array start depth (v :: done)
  | object start depth done key => object start depth ((key, v, next) :: done) key

end Frame

/-- What may come next inside the innermost brackets. -/
inductive Expected where
  | value
  /-- Just after the opening bracket. -/
  | first
  /-- After a comma. -/
  | further
  /-- After an item or a member. -/
  | separator
  /-- After a key. -/
  | colon
deriving DecidableEq

namespace Outline

/-- Closes all brackets around a value after which nothing can be read. -/
def enclose (v : Outline) (frames : List Frame) : Outline :=
  frames.foldl (fun v frame => frame.close (.value v)) v

/-- Closes the innermost brackets where the text breaks off between two values. -/
def breakOff (b : Break) : List Frame → Outline
  | [] => .broken none b
  | frame :: frames => enclose (frame.close (.cut b)) frames

/-- The text of `size` bytes ended. -/
def endOfText (size : Nat) (expected : Expected) (frames : List Frame) : Outline :=
  match expected, frames with
  | .value, _ => enclose (.broken none (.both .endInValue size)) frames
  | .colon, _ => enclose (.broken none (.both .endInObject size)) frames
  | .further, .array .. :: _ => breakOff (.both .endInValue size) frames
  | .further, _ => breakOff ⟨⟨.endInValue, size⟩, ⟨.endInObject, size⟩⟩ frames
  | _, .array .. :: _ => breakOff (.both .endInList size) frames
  | _, _ => breakOff (.both .endInObject size) frames

/-- Reads tokens of a text of `size` bytes, and tells where a token is left over. -/
def build (size : Nat) (expected : Expected) (frames : List Frame) :
    List Token → Outline × Option Nat
  | [] => (endOfText size expected frames, none)
  | t :: ts =>
    let after := ts.head?.map Token.start
    -- a value is complete
    let complete (v : Outline) (frames : List Frame) : Outline × Option Nat :=
      match frames with
      | [] => (v, after)
      | frame :: frames => build size .separator (frame.add v (after.getD size) :: frames) ts
    let value (frames : List Frame) : Outline × Option Nat :=
      let depth := frames.head?.elim 1 (·.depth + 1)
      match t.shape with
      | .null => complete (.null t.start) frames
      | .bool b => complete (.bool t.start b) frames
      | .number read => complete (.number t.start read) frames
      | .string read skip => complete (.string t.start read skip) frames
      | .openArray => build size .first (.array t.start depth [] :: frames) ts
      | .openObject => build size .first (.object t.start depth [] (.ok "") :: frames) ts
      | .broken b => (enclose (.broken (some t.start) b) frames, none)
      | _ => (enclose (.broken (some t.start) (.both .expectedValue (t.start + 1))) frames, none)
    let stop (b : Break) : Outline × Option Nat := (breakOff b frames, none)
    match expected, frames with
    | .colon, _ =>
      match t.shape with
      | .colon => build size .value frames ts
      | _ => (enclose (.broken none (.both .expectedColon (t.start + 1))) frames, none)
    | .first, frame@(.array ..) :: outer =>
      match t.shape with
      | .closeArray => complete (frame.close (.closed t.start)) outer
      | _ => value frames
    | .further, .array .. :: _ =>
      match t.shape with
      | .closeArray => stop ⟨⟨.trailingComma, t.start + 1⟩, ⟨.expectedValue, t.start + 1⟩⟩
      | _ => value frames
    | .separator, frame@(.array ..) :: frames =>
      match t.shape with
      | .closeArray => complete (frame.close (.closed t.start)) frames
      | .comma => build size .further (frame :: frames) ts
      | _ => stop (.both .expectedListEnd (t.start + 1))
    | .first, frame@(.object start depth done _) :: frames =>
      match t.shape with
      | .closeObject => complete (frame.close (.closed t.start)) frames
      | .string key none => build size .colon (.object start depth done key :: frames) ts
      | .string (.error read) (some skip) => stop ⟨read, skip⟩
      | _ => stop (.both .keyNotString (t.start + 1))
    | .further, .object start depth done _ :: frames =>
      match t.shape with
      | .closeObject => stop ⟨⟨.trailingComma, t.start + 1⟩, ⟨.keyNotString, t.start + 1⟩⟩
      | .string key none => build size .colon (.object start depth done key :: frames) ts
      | .string (.error read) (some skip) => stop ⟨read, skip⟩
      | _ => stop (.both .keyNotString (t.start + 1))
    | .separator, frame@(.object ..) :: frames =>
      match t.shape with
      | .closeObject => complete (frame.close (.closed t.start)) frames
      | .comma => build size .further (frame :: frames) ts
      | _ => stop (.both .expectedObjectEnd (t.start + 1))
    | _, _ => value frames

/-- The outline of a text, and the place of what is left over after the value. -/
def ofText (text : String) : Outline × Option Nat := build text.utf8ByteSize .value [] (tokens text)

/-! ### As a JSON value -/

/-- The brackets of a value may lie this deep in each other. -/
def maxDepth : Nat := 127

mutual

/-- The JSON value; of members with one key the last counts. -/
def toJson : Outline → Except Fault Json
  | .null _ => .ok .null
  | .bool _ b => .ok (.bool b)
  | .number _ read => read.map .number
  | .string _ read _ => read.map .string
  | .array start depth items =>
    if maxDepth < depth then .error ⟨.tooDeep, start + 1⟩ else (jsonItems items).map .array
  | .object start depth members =>
    if maxDepth < depth then .error ⟨.tooDeep, start + 1⟩ else (jsonMembers [] members).map .object
  | .broken _ b => .error b.read

def jsonItems : Items → Except Fault (List Json)
  | .nil => .ok []
  | .cut b => .error b.read
  | .cons item items => do
    let j ← item.toJson
    let js ← jsonItems items
    return j :: js

/-- Adds the members to those already read. -/
def jsonMembers (done : List (String × Json)) : Members → Except Fault (List (String × Json))
  | .nil _ => .ok done
  | .cut b => .error b.read
  | .cons key value _ members => do
    let k ← key
    let j ← value.toJson
    jsonMembers (insertMember k j done) members

end

mutual

/-- The fault met by passing over the value. -/
def skip : Outline → Option Fault
  | .string _ _ skip => skip
  | .array _ _ items => skipItems items
  | .object _ _ members => skipMembers members
  | .broken _ b => some b.skip
  | _ => none

def skipItems : Items → Option Fault
  | .nil => none
  | .cut b => some b.skip
  | .cons item items => item.skip <|> skipItems items

def skipMembers : Members → Option Fault
  | .nil _ => none
  | .cut b => some b.skip
  | .cons _ value _ members => value.skip <|> skipMembers members

end

mutual

def ofJson : Json → Outline
  | .null => .null 0
  | .bool b => .bool 0 b
  | .number n => .number 0 (.ok n)
  | .string s => .string 0 (.ok s) none
  | .array items => .array 0 0 (ofItems items)
  | .object members => .object 0 0 (ofMembers members)

def ofItems : List Json → Items
  | [] => .nil
  | j :: js => .cons (ofJson j) (ofItems js)

def ofMembers : List (String × Json) → Members
  | [] => .nil 0
  | (key, j) :: members => .cons (.ok key) (ofJson j) 0 (ofMembers members)

end

mutual

theorem canonical_of_toJson : ∀ {o : Outline} {j : Json}, o.toJson = .ok j → j.Canonical
  | .null _, _, h => by cases h; trivial
  | .bool .., _, h => by cases h; trivial
  | .number _ read, _, h => by cases read <;> cases h; trivial
  | .string _ read _, _, h => by cases read <;> cases h; trivial
  | .array _ _ items, _, h => by
    simp only [toJson] at h
    split at h
    · cases h
    · cases e : jsonItems items with
      | error => simp [e, Except.map] at h
      | ok js =>
        simp only [e, Except.map, Except.ok.injEq] at h
        subst h
        exact canonicalItems_of_jsonItems e
  | .object _ _ members, _, h => by
    simp only [toJson] at h
    split at h
    · cases h
    · cases e : jsonMembers [] members with
      | error => simp [e, Except.map] at h
      | ok ms =>
        simp only [e, Except.map, Except.ok.injEq] at h
        subst h
        exact canonical_of_jsonMembers e (by simp) trivial
  | .broken .., _, h => by cases h

theorem canonicalItems_of_jsonItems : ∀ {items : Items} {js : List Json},
    jsonItems items = .ok js → CanonicalItems js
  | .nil, _, h => by cases h; trivial
  | .cut _, _, h => by cases h
  | .cons item items, _, h => by
    simp only [jsonItems] at h
    cases e : item.toJson with
    | error => simp [e, bind, Except.bind] at h
    | ok j =>
      cases e' : jsonItems items with
      | error => simp [e, e', bind, Except.bind] at h
      | ok js =>
        simp only [e, e', bind, Except.bind, pure, Except.pure, Except.ok.injEq] at h
        subst h
        exact ⟨canonical_of_toJson e, canonicalItems_of_jsonItems e'⟩

theorem canonical_of_jsonMembers : ∀ {done ms : List (String × Json)} {members : Members},
    jsonMembers done members = .ok ms → (done.map Prod.fst).Pairwise (· < ·) →
      CanonicalMembers done → (Json.object ms).Canonical
  | _, _, .nil _, h, sorted, canonical => by cases h; exact ⟨sorted, canonical⟩
  | _, _, .cut _, h, _, _ => by cases h
  | done, _, .cons key value _ members, h, sorted, canonical => by
    simp only [jsonMembers] at h
    cases key with
    | error => simp [bind, Except.bind] at h
    | ok k =>
      cases e : value.toJson with
      | error => simp [e, bind, Except.bind] at h
      | ok j =>
        simp only [e, bind, Except.bind] at h
        exact canonical_of_jsonMembers h (pairwise_keys_insertMember sorted)
          (canonicalMembers_insertMember (canonical_of_toJson e) canonical)

end

/-- The free-form object that an outline of an object holds. -/
def toObject? (o : Outline) : Except Fault (Option Object) :=
  match h : o.toJson with
  | .ok (.object members) => .ok (some ⟨members, canonical_of_toJson h⟩)
  | .ok _ => .ok none
  | .error f => .error f

end Outline

/-- Why a text holds no JSON value, and where this shows. -/
structure TextError where
  cause : Cause
  location : Text.Location
deriving DecidableEq, Repr

namespace TextError

def ofFault (text : String) (f : Fault) : TextError := ⟨f.cause, .ofOffset text f.offset⟩

def message (e : TextError) : String :=
  e.cause.message ++ s!" at line {e.location.line} column {e.location.column}"

end TextError

/-- The value that a text holds. -/
def ofText (text : String) : Except TextError Json :=
  match Outline.ofText text with
  | (outline, leftover) =>
    match outline.toJson, leftover with
    | .error f, _ => .error (.ofFault text f)
    | .ok _, some start => .error (.ofFault text ⟨.trailingCharacters, start + 1⟩)
    | .ok j, none => .ok j

end PolicyCanvas.Json
