/-! # Jobs

The name of a running job, and the choices that order its sheets. -/

namespace PrintJob

/-- The handle that a transport gives to a running job. -/
structure JobId where
  number : UInt32
  deriving DecidableEq, Repr

namespace JobId

def text (job : JobId) : String := "print-job-" ++ toString job.number.toNat

/-- The job numbered next; numbers start again at zero after the largest one. -/
def next (job : JobId) : JobId := ⟨job.number + 1⟩

end JobId

/-- How sheets land in the output tray. -/
inductive Stacking where
  /-- Printed side down: sheets go out in reading order. -/
  | faceDown
  /-- Printed side up: sheets go out in reverse, so that the first one ends on top. -/
  | faceUp
  deriving DecidableEq, Repr

namespace Stacking

/-- The stacking of a tray that receives sheets face down or not. -/
def ofFaceDown (faceDown : Bool) : Stacking := if faceDown then .faceDown else .faceUp

/-- Puts things in the order in which they are sent. -/
def order {α : Type} (stacking : Stacking) (things : List α) : List α :=
  match stacking with
  | .faceDown => things
  | .faceUp => things.reverse

def name : Stacking → String
  | .faceDown => "face-down"
  | .faceUp => "face-up"

/-- Ordering twice the same way gives the reading order back. -/
@[simp] theorem order_order {α : Type} (stacking : Stacking) (things : List α) :
    stacking.order (stacking.order things) = things := by
  cases stacking <;> simp [order]

/-- Ordering moves things and changes none of them. -/
theorem order_map {α β : Type} (stacking : Stacking) (f : α → β) (things : List α) :
    stacking.order (things.map f) = (stacking.order things).map f := by
  cases stacking <;> simp [order]

theorem order_perm {α : Type} (stacking : Stacking) (things : List α) :
    (stacking.order things).Perm things := by
  cases stacking with
  | faceDown => exact .refl things
  | faceUp => exact List.reverse_perm things

@[simp] theorem length_order {α : Type} (stacking : Stacking) (things : List α) :
    (stacking.order things).length = things.length :=
  (stacking.order_perm things).length_eq

@[simp] theorem mem_order {α : Type} {stacking : Stacking} {things : List α} {thing : α} :
    thing ∈ stacking.order things ↔ thing ∈ things := by
  cases stacking <;> simp [order]

end Stacking

inductive Duplex where
  | off
  | longEdge
  | shortEdge
  deriving DecidableEq, Repr

def Duplex.name : Duplex → String
  | .off => "off"
  | .longEdge => "long-edge"
  | .shortEdge => "short-edge"

end PrintJob
