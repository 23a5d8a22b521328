import PrintJob.Reason.Basic

/-! # Decoding status words

A status word is decoded through a table. For each set bit below the bound, from the lowest on, the
first entry of the table that meets the bits still pending gives a symbol, and then the bit is
pending no more. With a table in the order of the bits this is one symbol for each set bit. -/

namespace PrintJob

abbrev StatusWord := BitVec 64

def StatusWord.bit (index : Nat) : StatusWord := BitVec.twoPow 64 index

/-- A row of a reason table: the bits it answers to, and its symbol. -/
structure ReasonRow where
  mask : StatusWord
  symbol : String
  deriving DecidableEq, Repr

/-- The rows for reasons from a bit on. -/
def ReasonRow.ofReasons (index : Nat) : List Reason → List ReasonRow
  | [] => []
  | reason :: rest => ⟨StatusWord.bit index, reason.symbol⟩ :: ofReasons (index + 1) rest

/-- The table of a family, in the order of the bits. -/
def ReasonFamily.table (family : ReasonFamily) : List ReasonRow :=
  ReasonRow.ofReasons 0 family.reasons

/-- The symbols found in a status word, in order. -/
structure Symbols where
  toList : List String
  deriving DecidableEq, Repr

namespace Symbols

def empty : Symbols := ⟨[]⟩

def size (symbols : Symbols) : Nat := symbols.toList.length

def isEmpty (symbols : Symbols) : Bool := symbols.toList.isEmpty

def contains (symbols : Symbols) (symbol : String) : Bool := symbols.toList.contains symbol

/-- Adds a symbol at the end, unless the set has reached its size already. -/
def pushUpTo (size : Nat) (symbols : Symbols) (symbol : String) : Symbols :=
  if symbols.size < size then ⟨symbols.toList ++ [symbol]⟩ else symbols

/-- The symbols with a bar between them. -/
def joined (symbols : Symbols) : String := String.intercalate "|" symbols.toList

end Symbols

namespace StatusWord

/-- The word with every bit below the bound set. -/
def window (bound : Nat) : StatusWord :=
  if bound < 64 then bit bound - 1 else BitVec.allOnes 64

def popCount (word : StatusWord) : Nat := (List.range 64).countP word.getLsbD

/-- The number of set bits below the bound. -/
def countBelow (word : StatusWord) (bound : Nat) : Nat := popCount (word &&& window bound)

/-- Decodes the bits with the indices given, where `pending` holds the bits not yet decoded. At most
`size` symbols are kept. -/
def decodeBits (word : StatusWord) (table : List ReasonRow) (size : Nat) :
    List Nat → StatusWord → Symbols → Symbols
  | [], _, symbols => symbols
  | index :: rest, pending, symbols =>
    if word.getLsbD index then
      let found := table.find? fun row => pending &&& row.mask != 0
      let symbols :=
        match found with
        | some row => symbols.pushUpTo size row.symbol
        | none => symbols
      decodeBits word table size rest (pending &&& ~~~bit index) symbols
    else decodeBits word table size rest pending symbols

/-- Decodes the bits below the bound, from the lowest on. -/
def decode (word : StatusWord) (bound : Nat) (table : List ReasonRow) (size : Nat) : Symbols :=
  decodeBits word table size (List.range (min bound 64)) word .empty

/-- Decodes a word by the table of a family. -/
def decodeFamily (word : StatusWord) (family : ReasonFamily) : Symbols :=
  let count := countBelow word family.bound
  if count = 0 then .empty else decode word family.bound family.table count

end StatusWord

end PrintJob
