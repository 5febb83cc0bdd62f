import WorkWatch.Json.Reader

/-!
Feedback values: what an agent reports about a resource, by name. A value is a text, an integer, a
boolean or a JSON document.
-/

namespace WorkWatch

/-- Why a bundle cannot be read: a number in it is no integer, or a document is nested too deep. -/
inductive BundleProblem where
  | number (problem : Decimal.NoInteger)
  | tooDeep (container : Json.Container)
  deriving DecidableEq, Repr

inductive FeedbackValue where
  | text (value : String)
  | integer (value : Int)
  | boolean (value : Bool)
  | document (value : Json)

namespace FeedbackValue

def toJson : FeedbackValue → Json
  | .text value => .str value
  | .integer value => .int value
  | .boolean value => .bool value
  | .document value => value

/-- A document given as JSON text; text that is not JSON stands for itself. -/
def ofRaw (text : String) : Except BundleProblem FeedbackValue :=
  match Json.parse text with
  | .ok value => .ok (.document value)
  | .error (.tooDeep container) => .error (.tooDeep container)
  | .error _ => .ok (.text text)

/-- A number without its fraction. -/
def whole (value : Float) : Except BundleProblem Int :=
  (Decimal.truncated value).mapError .number

/-- Decodes a field value. The first of the variants `string`, `integer`, `boolean` and `jsonRaw`
that has the right type counts; the fraction of a number is dropped. -/
def ofField (field : Json) : Except BundleProblem (Option FeedbackValue) :=
  -- A variant of the wrong type is passed over and does not end the search.
  match field.get "string" with
  | .str value => .ok (some (.text value))
  | _ =>
    match field.get "integer" with
    | .int value => .ok (some (.integer value))
    | .float value => (whole value).map (some ∘ .integer)
    | _ =>
      match field.get "boolean" with
      | .bool value => .ok (some (.boolean value))
      | _ =>
        match field.get "jsonRaw" with
        | .str value => (ofRaw value).map some
        | _ => .ok none

/-- Stores an entry of a feedback list; an entry without a name or a decodable value is skipped. -/
def store (feedback : Fields FeedbackValue) (entry : Json) :
    Except BundleProblem (Fields FeedbackValue) :=
  match entry.get "name", entry.get "fieldValue" with
  | .str name, .obj members => do
    match ← ofField (.obj members) with
    | some value => return feedback.put name value
    | none => return feedback
  | _, _ => return feedback

/-- The feedback of a resource by name. -/
def ofStatus (status : Json) : Except BundleProblem (Fields FeedbackValue) :=
  ((status.get "values").itemsOrNone).foldlM store []

end FeedbackValue

end WorkWatch
