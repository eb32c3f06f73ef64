import Widgetry.Json.Printer
import Widgetry.Spelling
import Widgetry.Text.Quoted

/-!
Decoders: from JSON to typed values, with the path and the cause of the first failure.

Two rules of the format shape them. A record may also be written as the list of its fields, and a
word as an object with that word as its only key. And what belongs to one kind of node is decoded
apart from the text around it, so that a failure in it no longer knows its path; there the rules
for surplus fields and for the contents of a word are slightly different.
-/

namespace Widgetry

/-! ## Failures -/

/-- What was found in place of something else. -/
inductive Found where
  | null
  | bool (value : Bool)
  | integer (value : Int)
  | float (value : Float)
  | string (value : String)
  | sequence
  | map

def Found.ofJson : Json → Found
  | .null => .null
  | .bool value => .bool value
  | .number (.integer value) => .integer value
  | .number (.float value) => .float value
  | .string value => .string value
  | .array _ => .sequence
  | .object _ => .map

def Found.describe : Found → String
  | .null => "null"
  | .bool value => "boolean `" ++ (if value then "true" else "false") ++ "`"
  | .integer value => "integer `" ++ toString value ++ "`"
  | .float value => "floating point `" ++ Json.floatText value ++ "`"
  | .string value => "string " ++ Text.quote value
  | .sequence => "sequence"
  | .map => "map"

/-- Why a value could not be decoded. -/
inductive DecodeCause where
  | invalidType (found : Found) (expected : String)
  | invalidValue (found : Found) (expected : String)
  | invalidLength (length : Nat) (expected : String)
  | unknownVariant (word : String) (known : List String)
  | missingField (name : String)
  | duplicateField (name : String)
  | noVariant (name : String)

def ticked (word : String) : String := "`" ++ word ++ "`"

/-- The words that would have been right. -/
def expectedWords : List String → String
  | [] => "there are no variants"
  | [a] => "expected " ++ ticked a
  | [a, b] => "expected " ++ ticked a ++ " or " ++ ticked b
  | words => "expected one of " ++ ", ".intercalate (words.map ticked)

def DecodeCause.message : DecodeCause → String
  | .invalidType found expected =>
    "invalid type: " ++ found.describe ++ ", expected " ++ expected
  | .invalidValue found expected =>
    "invalid value: " ++ found.describe ++ ", expected " ++ expected
  | .invalidLength length expected =>
    "invalid length " ++ toString length ++ ", expected " ++ expected
  | .unknownVariant word known => "unknown variant " ++ ticked word ++ ", " ++ expectedWords known
  | .missingField name => "missing field " ++ ticked name
  | .duplicateField name => "duplicate field " ++ ticked name
  | .noVariant name => "data did not match any variant of untagged enum " ++ name

/-- A step into a value. -/
inductive PathStep where
  | field (name : String)
  | index (position : Nat)

structure DecodeFailure where
  path : List PathStep
  cause : DecodeCause

/-- Names joined by points, positions in brackets. -/
def pathText : List PathStep → String
  | [] => ""
  | .field name :: rest => name ++ pathRest rest
  | .index position :: rest => "[" ++ toString position ++ "]" ++ pathRest rest
where
  pathRest : List PathStep → String
    | [] => ""
    | .field name :: rest => "." ++ name ++ pathRest rest
    | .index position :: rest => "[" ++ toString position ++ "]" ++ pathRest rest

/-! ## Decoders -/

/-- Whether a value is decoded in place or apart from its surroundings. -/
inductive Setting where
  | inPlace
  | apart
deriving DecidableEq

abbrev Decoded (α : Type) := Except DecodeFailure α

abbrev Decoder (α : Type) := Setting → Json → Decoded α

namespace Decoder

variable {α β : Type}

def fail (cause : DecodeCause) : Decoded α := .error ⟨[], cause⟩

def wrongType (value : Json) (expected : String) : Decoded α :=
  fail (.invalidType (Found.ofJson value) expected)

/-- Adds a step to the path of a failure. -/
def within (step : PathStep) (result : Decoded α) : Decoded α :=
  result.mapError fun failure => { failure with path := step :: failure.path }

/-- Forgets the path of a failure. -/
def withoutPath (result : Decoded α) : Decoded α :=
  result.mapError fun failure => { failure with path := [] }

/-! ### Scalars -/

def string : Decoder String := fun _ value =>
  match value with
  | .string text => .ok text
  | other => wrongType other "a string"

def bool : Decoder Bool := fun _ value =>
  match value with
  | .bool b => .ok b
  | other => wrongType other "a boolean"

def ofInteger (n : Int) : Float :=
  if n < 0 then -(Float.ofScientific n.natAbs false 0) else Float.ofScientific n.natAbs false 0

def float? : Json → Option Float
  | .number (.float x) => some x
  | .number (.integer n) => some (ofInteger n)
  | _ => none

def float : Decoder Float := fun _ value =>
  match float? value with
  | some x => .ok x
  | none => wrongType value "f64"

/-- A whole number that fits into 32 bits. -/
def word32 : Decoder Nat := fun _ value =>
  match value with
  | .number (.integer n) =>
    if 0 ≤ n ∧ n < 0x100000000 then .ok n.toNat else fail (.invalidValue (.integer n) "u32")
  | other => wrongType other "u32"

/-- Any value, with its members in order. -/
def json : Decoder Json := fun _ value => .ok value.canonical

/-! ### Absent values, lists and maps -/

def optional (decode : Decoder α) : Decoder (Option α) := fun setting value =>
  match value with
  | .null => .ok none
  | other => (decode setting other).map some

def itemsFrom (decode : Json → Decoded α) : Nat → List Json → Decoded (List α)
  | _, [] => .ok []
  | position, item :: rest => do
    let first ← within (.index position) (decode item)
    let others ← itemsFrom decode (position + 1) rest
    return first :: others

def list (decode : Decoder α) : Decoder (List α) := fun setting value =>
  match value with
  | .array items => itemsFrom (decode setting) 0 items
  | other => wrongType other "a sequence"

def membersFrom (decode : Json → Decoded α) : List (String × Json) → Decoded (List (String × α))
  | [] => .ok []
  | (name, value) :: rest => do
    let first ← within (.field name) (decode value)
    let others ← membersFrom decode rest
    return (name, first) :: others

/-- Named values in order; of several with one name the last stays. -/
def bag (decode : Decoder α) : Decoder (Bag α) := fun setting value =>
  match value with
  | .object members => (membersFrom (decode setting) members).map Bag.ofPairs
  | other => wrongType other "a map"

/-! ### Words -/

/-- What may stand beside a word that is written as a key. -/
def unit : Decoder Unit := fun setting value =>
  match value with
  | .null => .ok ()
  | .object [] => if setting = .apart then .ok () else wrongType (.object []) "unit"
  | other => wrongType other "unit"

/-- The member of an enumeration that a word stands for. -/
def ofWord [Spelling α] (text : String) : Decoded α :=
  match Spelling.ofWord? text with
  | some member => .ok member
  | none => fail (.unknownVariant text (Spelling.words α))

def word [Spelling α] : Decoder α := fun setting value =>
  match value with
  | .string text => ofWord text
  | .object [(text, contents)] => do
    let member ← ofWord text
    within (.field text) (unit setting contents)
    return member
  | .object _ => fail (.invalidValue .map "map with a single key")
  | other => wrongType other "string or map"

/-! ### Records -/

/-- The fields of a record in order. A step takes the value of one field into what is known so
far. -/
structure Field (β : Type) where
  name : String
  /-- A field that may be missing from a list of fields or an object. -/
  isOptional : Bool
  read : Setting → Json → β → Decoded β

/-- The first of the required fields, in their order, that has no value. -/
def missing? (fields : List (Field β)) (seen : List String) : Option String :=
  (fields.find? fun field => !field.isOptional && !seen.contains field.name).map Field.name

/-- Takes the members of an object in their order; `seen` holds the fields met so far. -/
def fieldsFrom (fields : List (Field β)) (setting : Setting) :
    List String → List (String × Json) → β → Decoded (β × List String)
  | seen, [], known => .ok (known, seen)
  | seen, (name, value) :: rest, known =>
    match fields.find? fun field => field.name = name with
    | none => fieldsFrom fields setting seen rest known
    | some field =>
      if seen.contains name then fail (.duplicateField name)
      else do
        let known ← within (.field name) (field.read setting value known)
        fieldsFrom fields setting (name :: seen) rest known

/-- Takes the members of an object, and then looks for missing fields. -/
def fromMembers (fields : List (Field β)) (setting : Setting) (members : List (String × Json))
    (start : β) : Decoded β := do
  let (known, seen) ← fieldsFrom fields setting [] members start
  match missing? fields seen with
  | some name => fail (.missingField name)
  | none => .ok known

/-- Takes a list as the fields of a record in their order. -/
def positionsFrom (recordName : String) (count : Nat) (setting : Setting) :
    Nat → List (Field β) → List Json → β → Decoded (β × List Json)
  | _, [], rest, known => .ok (known, rest)
  | position, field :: fields, [], known =>
    if field.isOptional then positionsFrom recordName count setting (position + 1) fields [] known
    else
      fail (.invalidLength position
        ("struct " ++ recordName ++ " with " ++ toString count ++ " elements"))
  | position, field :: fields, value :: rest, known => do
    let known ← within (.index position) (field.read setting value known)
    positionsFrom recordName count setting (position + 1) fields rest known

/-- What is said about a list with more items than a record has fields. -/
def surplus (setting : Setting) (length count : Nat) : DecodeCause :=
  match setting with
  | .inPlace => .invalidLength length "fewer elements in array"
  | .apart => .invalidLength length (toString count ++ " elements in sequence")

def record (name : String) (fields : List (Field β)) (start : β) : Decoder β :=
  fun setting value =>
    match value with
    | .object members => fromMembers fields setting members start
    | .array items => do
      let (known, rest) ← positionsFrom name fields.length setting 0 fields items start
      if rest.isEmpty then .ok known else fail (surplus setting items.length fields.length)
    | other => wrongType other ("struct " ++ name)

/-- A field that has to be there. -/
def required (name : String) (decode : Decoder α) (set : α → β → β) : Field β :=
  ⟨name, false, fun setting value known => (decode setting value).map fun a => set a known⟩

/-- A field that may be missing or null. -/
def nullable (name : String) (decode : Decoder α) (set : Option α → β → β) : Field β :=
  ⟨name, true, fun setting value known =>
    (optional decode setting value).map fun a => set a known⟩

/-- A field that may be missing but not null. -/
def defaulted (name : String) (decode : Decoder α) (set : α → β → β) : Field β :=
  ⟨name, true, fun setting value known => (decode setting value).map fun a => set a known⟩

end Decoder

end Widgetry
