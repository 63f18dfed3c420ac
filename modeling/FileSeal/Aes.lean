import FileSeal.ByteField

namespace FileSeal.Aes

/-- Four parts in order. -/
structure Quad (α : Type) where
  (p0 p1 p2 p3 : α)
deriving DecidableEq

namespace Quad

variable {α β : Type}

def xor [XorOp α] (x y : Quad α) : Quad α :=
  ⟨x.p0 ^^^ y.p0, x.p1 ^^^ y.p1, x.p2 ^^^ y.p2, x.p3 ^^^ y.p3⟩

instance [XorOp α] : XorOp (Quad α) := ⟨xor⟩

def map (f : α → β) (x : Quad α) : Quad β :=
  ⟨f x.p0, f x.p1, f x.p2, f x.p3⟩

end Quad

/-- One column of the cipher state, or one word of the key schedule. -/
abbrev Column := Quad UInt8

namespace Column

def rotate (x : Column) : Column :=
  ⟨x.p1, x.p2, x.p3, x.p0⟩

/-- The product with the matrix whose rows are the rotations of 2, 3, 1, 1. -/
def mix (x : Column) : Column where
  p0 := double x.p0 ^^^ (double x.p1 ^^^ x.p1) ^^^ x.p2 ^^^ x.p3
  p1 := x.p0 ^^^ double x.p1 ^^^ (double x.p2 ^^^ x.p2) ^^^ x.p3
  p2 := x.p0 ^^^ x.p1 ^^^ double x.p2 ^^^ (double x.p3 ^^^ x.p3)
  p3 := (double x.p0 ^^^ x.p0) ^^^ x.p1 ^^^ x.p2 ^^^ double x.p3

/-- The sum of a row of the state with the coefficients 14, 11, 13, 9. -/
def unmixRow (a b c d : UInt8) : UInt8 :=
  double (double (double (a ^^^ b ^^^ c ^^^ d) ^^^ a ^^^ c) ^^^ a ^^^ b) ^^^ b ^^^ c ^^^ d

/-- The product with the inverse matrix, whose rows are the rotations of 14, 11, 13, 9. -/
def unmix (x : Column) : Column where
  p0 := unmixRow x.p0 x.p1 x.p2 x.p3
  p1 := unmixRow x.p1 x.p2 x.p3 x.p0
  p2 := unmixRow x.p2 x.p3 x.p0 x.p1
  p3 := unmixRow x.p3 x.p0 x.p1 x.p2

end Column

/-- The cipher state: sixteen bytes in four columns. -/
abbrev State := Quad Column

namespace State

/-- Turns row `i` of the state left by `i` places. -/
def shiftRows (x : State) : State where
  p0 := ⟨x.p0.p0, x.p1.p1, x.p2.p2, x.p3.p3⟩
  p1 := ⟨x.p1.p0, x.p2.p1, x.p3.p2, x.p0.p3⟩
  p2 := ⟨x.p2.p0, x.p3.p1, x.p0.p2, x.p1.p3⟩
  p3 := ⟨x.p3.p0, x.p0.p1, x.p1.p2, x.p2.p3⟩

/-- Turns row `i` of the state right by `i` places. -/
def unshiftRows (x : State) : State where
  p0 := ⟨x.p0.p0, x.p3.p1, x.p2.p2, x.p1.p3⟩
  p1 := ⟨x.p1.p0, x.p0.p1, x.p3.p2, x.p2.p3⟩
  p2 := ⟨x.p2.p0, x.p1.p1, x.p0.p2, x.p3.p3⟩
  p3 := ⟨x.p3.p0, x.p2.p1, x.p1.p2, x.p0.p3⟩

/-- The first half of every round: substitution of each byte, then the row shift. -/
def substitute (x : State) : State :=
  shiftRows (x.map (Quad.map subByte))

def unsubstitute (x : State) : State :=
  x.unshiftRows.map (Quad.map unsubByte)

def round (x key : State) : State :=
  x.substitute.map Column.mix ^^^ key

def unround (key x : State) : State :=
  unsubstitute ((x ^^^ key).map Column.unmix)

/-- The state that a block fills, column after column. -/
def ofBlock (b : Block) : State :=
  ⟨⟨b[0], b[1], b[2], b[3]⟩, ⟨b[4], b[5], b[6], b[7]⟩,
    ⟨b[8], b[9], b[10], b[11]⟩, ⟨b[12], b[13], b[14], b[15]⟩⟩

/-- The bytes of a state, column after column. -/
def toBlock (x : State) : Block :=
  ⟨[x.p0.p0, x.p0.p1, x.p0.p2, x.p0.p3, x.p1.p0, x.p1.p1, x.p1.p2, x.p1.p3,
    x.p2.p0, x.p2.p1, x.p2.p2, x.p2.p3, x.p3.p0, x.p3.p1, x.p3.p2, x.p3.p3], rfl⟩

end State

structure Schedule where
  first : State
  middle : List State
  last : State

namespace Schedule

/-- From eight words of the key schedule, the next eight. -/
def nextWords (constant : UInt8) (low high : State) : State × State :=
  let w0 := low.p0 ^^^ (high.p3.rotate.map subByte ^^^ ⟨constant, 0, 0, 0⟩)
  let w1 := low.p1 ^^^ w0
  let w2 := low.p2 ^^^ w1
  let w3 := low.p3 ^^^ w2
  let w4 := high.p0 ^^^ w3.map subByte
  let w5 := high.p1 ^^^ w4
  let w6 := high.p2 ^^^ w5
  let w7 := high.p3 ^^^ w6
  (⟨w0, w1, w2, w3⟩, ⟨w4, w5, w6, w7⟩)

/-- The round keys from two given ones on, two more for each round constant and one more for the
last constant. -/
def expand (constant : UInt8) : Nat → State → State → List State × State
  | 0, low, high => ([high], (nextWords constant low high).1)
  | n + 1, low, high =>
    let next := nextWords constant low high
    let rest := expand (double constant) n next.1 next.2
    (high :: next.1 :: rest.1, rest.2)

/-- The fifteen round keys of a 256-bit key. -/
def ofKey (key : Octets (16 + 16)) : Schedule :=
  let low := State.ofBlock key.take
  let rest := expand 1 6 low (State.ofBlock key.drop)
  ⟨low, rest.1, rest.2⟩

end Schedule

def encrypt (schedule : Schedule) (block : Block) : Block :=
  let start := State.ofBlock block ^^^ schedule.first
  ((schedule.middle.foldl State.round start).substitute ^^^ schedule.last).toBlock

def decrypt (schedule : Schedule) (block : Block) : Block :=
  let final := (State.ofBlock block ^^^ schedule.last).unsubstitute
  (schedule.middle.foldr State.unround final ^^^ schedule.first).toBlock

end FileSeal.Aes
