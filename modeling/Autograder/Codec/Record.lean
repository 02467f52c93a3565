import Autograder.Codec.Basic

/-!
# Records

The document form of a structure, put together from its fields. A record is written as an object
with its fields in order. It is read from an object, whose members may stand in any order, or from
an array of its fields in order.

Members that belong to no field are passed over, however often they occur; a field that occurs
twice does not fit. A field that is missing may have a value all the same, and for an array that
ends early that is decided apart from objects.
-/

namespace Autograder

/-- A field of a record. -/
structure RecordField (α : Type) where
  name : String
  codec : Codec α
  /-- The value when an object has no such member. -/
  absent : Option α
  /-- The value when an array ends before it. -/
  beyond : Option α
  /-- The field is not written when it has this value. -/
  isOmitted : α → Bool

namespace RecordField

/-- A field that must be there. -/
def required (name : String) (c : Codec α) : RecordField α :=
  ⟨name, c, none, none, fun _ => false⟩

/-- A field with a usual value. -/
def defaulted (name : String) (c : Codec α) (value : α) : RecordField α :=
  ⟨name, c, some value, some value, fun _ => false⟩

/-- A field that an object may leave out. -/
def optional (name : String) (c : Codec α) : RecordField (Option α) :=
  ⟨name, c.option, some none, none, fun _ => false⟩

/-- A field that an object may leave out, and that is left out when it has no value. -/
def sparse (name : String) (c : Codec α) : RecordField (Option α) :=
  ⟨name, c.option, some none, none, Option.isNone⟩

end RecordField

/-- The fields of a record whose values together are of type `α`. -/
structure Record (α : Type) where
  /-- The values of the fields met so far. -/
  Partial : Type
  /-- No field has been met. -/
  start : Partial
  /-- Takes a member in; none if it belongs to no field. -/
  take : Partial → String → Json → Option (Except DecodeError Partial)
  /-- All values, when no more members follow. -/
  finish : Partial → Except DecodeError α
  /-- All values from the items of an array that was closed or not. -/
  ofItems : List Json → Bool → Except DecodeError α
  /-- The members for given values. -/
  members : α → List (String × Json)

namespace Record

/-- The record without fields. -/
def nil : Record Unit where
  Partial := Unit
  start := ()
  take _ _ _ := none
  finish _ := .ok ()
  ofItems items closed := if items.isEmpty && closed then .ok () else .error .broken
  members _ := []

/-- One more field in front. -/
def cons (f : RecordField α) (r : Record β) : Record (α × β) where
  Partial := Option α × r.Partial
  start := (none, r.start)
  take p key value :=
    if key == f.name then
      some <|
        if p.1.isSome then .error .unfit
        else (f.codec.decode value).map fun a => (some a, p.2)
    else (r.take p.2 key value).map fun e => e.map fun q => (p.1, q)
  finish p :=
    match p.1 <|> f.absent with
    | some a => (r.finish p.2).map fun b => (a, b)
    | none => .error .unfit
  ofItems items closed :=
    match items with
    | item :: rest =>
      (f.codec.decode item).bind fun a => (r.ofItems rest closed).map fun b => (a, b)
    | [] =>
      if closed then
        match f.beyond with
        | some a => (r.ofItems [] closed).map fun b => (a, b)
        | none => .error .unfit
      else .error .broken
  members ab :=
    if f.isOmitted ab.1 then r.members ab.2
    else (f.name, f.codec.encode ab.1) :: r.members ab.2

/-- Takes members in, in order. -/
def takeAll (r : Record α) (p : r.Partial) :
    List (Option String × Json) → Except DecodeError r.Partial
  | [] => .ok p
  | (none, _) :: _ => .error .broken
  | (some key, value) :: rest =>
    match r.take p key value with
    | none => r.takeAll p rest
    | some (.ok q) => r.takeAll q rest
    | some (.error e) => .error e

/-- The codec of a structure whose fields are those of a record. -/
def codec (r : Record α) (make : α → β) (parts : β → α) : Codec β where
  encode b := Json.ofMembers (r.members (parts b))
  decode
    | .object members closed =>
      match r.takeAll r.start members with
      | .ok p => if closed then (r.finish p).map make else .error .broken
      | .error e => .error e
    | .array items closed => (r.ofItems items closed).map make
    | j => .error j.misfit

end Record

end Autograder
