import PrintJob.Number.Binary

/-! # JSON values

Values as a reader of records sees them. Objects keep their members in order and with repetitions.
A literal can be well formed and still denote nothing: a string with half of a surrogate pair, or a
number beyond all floating-point numbers. Such a literal may be passed over but not read. -/

namespace PrintJob

inductive Json where
  | null
  | bool (value : Bool)
  | int (value : Int)
  | float (value : Number.Double)
  | text (value : String)
  /-- A well-formed literal that denotes nothing. -/
  | unreadable
  | array (items : List Json)
  /-- A key is missing where its literal denotes nothing. -/
  | object (members : List (Option String × Json))

namespace Json

instance : Inhabited Json := ⟨.null⟩

/-- The object with the members given, all with readable keys. -/
def record (members : List (String × Json)) : Json :=
  .object (members.map fun member => (some member.1, member.2))

def nat (n : Nat) : Json := .int n

def ofOption {α : Type} (encode : α → Json) : Option α → Json
  | none => .null
  | some value => encode value

def ofList {α : Type} (encode : α → Json) (values : List α) : Json :=
  .array (values.map encode)

end Json

end PrintJob
