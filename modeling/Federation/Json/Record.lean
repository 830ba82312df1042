import Federation.Json.Basic
import Federation.Double.Shortest
import Federation.Mismatch

namespace Federation.Json

def found : Json → Found
  | .null => .null
  | .bool b => .bool b
  | .integer n => .integer n
  | .double x => .float x.text
  | .string s => .string s
  | .array _ => .sequence
  | .object _ => .map

def readString : Json → Except Mismatch String
  | .string s => .ok s
  | v => .error (.invalidType v.found "a string")

def readBool : Json → Except Mismatch Bool
  | .bool b => .ok b
  | v => .error (.invalidType v.found "a boolean")

def readList {α : Type} (read : Json → Except Mismatch α) : Json → Except Mismatch (List α)
  | .array items => items.mapM read
  | v => .error (.invalidType v.found "a sequence")

def readOption {α : Type} (read : Json → Except Mismatch α) : Json → Except Mismatch (Option α)
  | .null => .ok none
  | v => (read v).map some

/-- A choice among names without data: the name itself, or an object whose only key is the name and
whose value is nothing. -/
def readName {α : Type} (choices : List (String × α)) (v : Json) : Except Mismatch α := do
  let (name, data) ← match v with
    | .string s => .ok (s, Json.null)
    | .object [(k, d)] => .ok (k, d)
    | .object _ => .error (.invalidValue .map "map with a single key")
    | v => .error (.invalidType v.found "string or map")
  match choices.lookup name with
  | none => .error (.unknownVariant name (choices.map (·.1)))
  | some a => if data = .null then .ok a else .error (.invalidType data.found "unit")

/-- One field of a record: its key, how its value is read, and what stands for it when its key is
absent or when an array of the fields ends before it. -/
structure Slot (α : Type) where
  key : String
  read : Json → Except Mismatch α
  absent : Option α
  cut : Option α

namespace Slot

variable {α : Type}

def required (key : String) (read : Json → Except Mismatch α) : Slot α := ⟨key, read, none, none⟩

def defaulted (key : String) (read : Json → Except Mismatch α) (value : α) : Slot α :=
  ⟨key, read, some value, some value⟩

def optional (key : String) (read : Json → Except Mismatch α) : Slot (Option α) :=
  ⟨key, readOption read, some none, none⟩

def check (s : Slot α) (f : String × Json) : Except Mismatch Unit :=
  if f.1 = s.key then (s.read f.2).map fun _ => () else .ok ()

end Slot

inductive Source
  | fields (fs : List (String × Json))
  | items (vs : List Json) (expected : String)

def Source.get {α : Type} (src : Source) (place : Nat) (s : Slot α) : Except Mismatch α :=
  match src with
  | .fields fs =>
    match get? s.key fs with
    | some v => s.read v
    | none => match s.absent with
      | some a => .ok a
      | none => .error (.missingField s.key)
  | .items vs expected =>
    match vs[place]? with
    | some v => s.read v
    | none => match s.cut with
      | some a => .ok a
      | none => .error (.invalidLength place expected)

def checkFields (checks : List (String × Json → Except Mismatch Unit))
    (fields : List (String × Json)) : Except Mismatch Unit :=
  fields.forM fun f => checks.forM fun check => check f

def elements (n : Nat) : String := toString n ++ (if n = 1 then " element" else " elements")

/-- Reads a record from an object, or from an array of its fields in the order of their
declaration. In an object every bad value is noticed before a missing field is. -/
def readRecord {α : Type} (label : String) (checks : List (String × Json → Except Mismatch Unit))
    (build : Source → Except Mismatch α) : Json → Except Mismatch α
  | .object fields => do
    checkFields checks fields
    build (.fields fields)
  | .array items => do
    let value ← build (.items items (label ++ " with " ++ elements checks.length))
    if checks.length < items.length then
      .error (.invalidLength items.length "fewer elements in array")
    else .ok value
  | v => .error (.invalidType v.found label)

def readOpenRecord {α : Type} (label : String)
    (checks : List (String × Json → Except Mismatch Unit))
    (build : List (String × Json) → Except Mismatch α) : Json → Except Mismatch α
  | .object fields => do
    checkFields checks fields
    build fields
  | v => .error (.invalidType v.found label)

def without (keys : List String) (fields : List (String × Json)) : List (String × Json) :=
  fields.filter fun f => !keys.contains f.1

def ofOption {α : Type} (write : α → Json) : Option α → Json
  | none => .null
  | some a => write a

def ofList {α : Type} (write : α → Json) (xs : List α) : Json := .array (xs.map write)

def ofStrings (xs : List String) : Json := ofList .string xs

end Federation.Json
