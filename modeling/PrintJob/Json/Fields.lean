import PrintJob.Json.Basic

/-! # Reading records

A record is written as an object with named fields or as an array of its fields in order. Unknown
names are passed over; a known name may be given only once. -/

namespace PrintJob.Json

/-- The fields of a record that were given. -/
abbrev Fields := List (String × Json)

/-- The members of an object by readable keys; there are none if a key denotes nothing. -/
def readableMembers : List (Option String × Json) → Option Fields
  | [] => some []
  | (some key, value) :: rest => (readableMembers rest).map ((key, value) :: ·)
  | (none, _) :: _ => none

/-- The given fields of a record with these names. An array has at least `least` items. -/
def fields? (names : List String) (least : Nat) : Json → Option Fields
  | .object members =>
    match readableMembers members with
    | none => none
    | some members =>
      let known := members.filter fun member => names.contains member.1
      if (known.map (·.1)).Nodup then some known else none
  | .array items =>
    if least ≤ items.length && items.length ≤ names.length then some (names.zip items) else none
  | _ => none

/-- Reads one field, which has the value `absent` where it is not given. -/
def Fields.read {α : Type} (fields : Fields) (name : String) (decode : Json → Option α)
    (absent : Option α) : Option α :=
  match fields.lookup name with
  | none => absent
  | some value => decode value

def toBool? : Json → Option Bool
  | .bool value => some value
  | _ => none

def toText? : Json → Option String
  | .text value => some value
  | _ => none

/-- An integer literal below a bound. -/
def toNatBelow? (bound : Nat) : Json → Option Nat
  | .int i => if 0 ≤ i && i.toNat < bound then some i.toNat else none
  | _ => none

def toUInt8? (value : Json) : Option UInt8 := (value.toNatBelow? UInt8.size).map UInt8.ofNat

def toUInt16? (value : Json) : Option UInt16 := (value.toNatBelow? UInt16.size).map UInt16.ofNat

def toUInt32? (value : Json) : Option UInt32 := (value.toNatBelow? UInt32.size).map UInt32.ofNat

def toUInt64? (value : Json) : Option UInt64 := (value.toNatBelow? UInt64.size).map UInt64.ofNat

/-- A number rounded to single precision. -/
def toSingle? : Json → Option Number.Single
  | .int i => some (.ofInt .single i)
  | .float x => some (x.convert .single)
  | _ => none

/-- A number of single precision, exactly. -/
def ofSingle (x : Number.Single) : Json := .float (x.convert .double)

def toOption? {α : Type} (decode : Json → Option α) : Json → Option (Option α)
  | .null => some none
  | value => (decode value).map some

def decodeAll {α : Type} (decode : Json → Option α) : List Json → Option (List α)
  | [] => some []
  | item :: rest =>
    match decode item, decodeAll decode rest with
    | some value, some values => some (value :: values)
    | _, _ => none

def toList? {α : Type} (decode : Json → Option α) : Json → Option (List α)
  | .array items => decodeAll decode items
  | _ => none

/-- One of a few named values: its name alone, or an object that gives the name null. -/
def toNamed? {α : Type} (table : List (String × α)) : Json → Option α
  | .text name => table.lookup name
  | .object [(some name, .null)] => table.lookup name
  | _ => none

/-- A sequence of bytes, as an array of numbers. -/
def toBytes? : Json → Option (List UInt8) := toList? toUInt8?

def ofBytes (bytes : List UInt8) : Json := ofList (fun byte => nat byte.toNat) bytes

end PrintJob.Json
