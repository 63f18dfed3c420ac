namespace FileSeal

/-- A string of bytes of any length. -/
abbrev Bytes := List UInt8

/-- A string of exactly `n` bytes. -/
@[ext] structure Octets (n : Nat) where
  toBytes : Bytes
  length_toBytes : toBytes.length = n
deriving DecidableEq

attribute [simp] Octets.length_toBytes

abbrev Block := Octets 16

namespace Octets

/-- Reads a byte string of the right length. -/
def ofBytes? (n : Nat) (bytes : Bytes) : Option (Octets n) :=
  if h : bytes.length = n then some ⟨bytes, h⟩ else none

@[simp] theorem ofBytes?_toBytes {n : Nat} (x : Octets n) : ofBytes? n x.toBytes = some x := by
  simp [ofBytes?]

def replicate (n : Nat) (byte : UInt8) : Octets n :=
  ⟨List.replicate n byte, List.length_replicate⟩

instance {n : Nat} : Inhabited (Octets n) := ⟨replicate n 0⟩

instance {n : Nat} : GetElem (Octets n) Nat UInt8 fun _ i => i < n where
  getElem x i h := x.toBytes.get ⟨i, x.length_toBytes.symm ▸ h⟩

def take {m n : Nat} (x : Octets (m + n)) : Octets m :=
  ⟨x.toBytes.take m, by simp⟩

def drop {m n : Nat} (x : Octets (m + n)) : Octets n :=
  ⟨x.toBytes.drop m, by simp⟩

/-- The exclusive or of two strings, byte by byte. -/
def xor {n : Nat} (x y : Octets n) : Octets n :=
  ⟨List.zipWith (· ^^^ ·) x.toBytes y.toBytes, by simp⟩

instance {n : Nat} : XorOp (Octets n) := ⟨xor⟩

@[simp] theorem toBytes_xor {n : Nat} (x y : Octets n) :
    (x ^^^ y).toBytes = List.zipWith (· ^^^ ·) x.toBytes y.toBytes := rfl

@[simp] theorem xor_xor_cancel {n : Nat} (x y : Octets n) : x ^^^ y ^^^ y = x := by
  ext1
  apply List.ext_getElem
  · simp
  · intro i h₁ h₂
    simp only [toBytes_xor, List.getElem_zipWith, UInt8.xor_assoc, UInt8.xor_self, UInt8.xor_zero]

end Octets

/-- The whole blocks of a byte string, in order; a shorter rest is left out. -/
def blocks : Bytes → List Block
  | b0 :: b1 :: b2 :: b3 :: b4 :: b5 :: b6 :: b7 ::
      b8 :: b9 :: b10 :: b11 :: b12 :: b13 :: b14 :: b15 :: rest =>
    ⟨[b0, b1, b2, b3, b4, b5, b6, b7, b8, b9, b10, b11, b12, b13, b14, b15], rfl⟩ :: blocks rest
  | _ => []

/-- The bytes of a sequence of blocks, one block after the other. -/
def joinBlocks (blocks : List Block) : Bytes :=
  blocks.flatMap Octets.toBytes

@[simp] theorem joinBlocks_nil : joinBlocks [] = [] := rfl

@[simp] theorem joinBlocks_cons (block : Block) (rest : List Block) :
    joinBlocks (block :: rest) = block.toBytes ++ joinBlocks rest := rfl

@[simp] theorem length_joinBlocks (blocks : List Block) :
    (joinBlocks blocks).length = 16 * blocks.length := by
  induction blocks with
  | nil => rfl
  | cons block rest ih =>
    simp [ih]
    omega

@[simp] theorem blocks_joinBlocks (bs : List Block) : blocks (joinBlocks bs) = bs := by
  induction bs with
  | nil => rfl
  | cons block rest ih =>
    obtain ⟨bytes, h⟩ := block
    match bytes, h with
    | [_, _, _, _, _, _, _, _, _, _, _, _, _, _, _, _], _ => simp [blocks, ih]

/-- Nothing is left out of a byte string of whole blocks. -/
theorem joinBlocks_blocks {bytes : Bytes} (h : bytes.length % 16 = 0) :
    joinBlocks (blocks bytes) = bytes := by
  fun_induction blocks bytes with
  | case1 b0 b1 b2 b3 b4 b5 b6 b7 b8 b9 b10 b11 b12 b13 b14 b15 rest ih =>
    simp only [List.length_cons] at h
    simp [ih (by omega)]
  | case2 bytes short =>
    match bytes, short, h with
    | [], _, _ => rfl
    | _ :: _ :: _ :: _ :: _ :: _ :: _ :: _ :: _ :: _ :: _ :: _ :: _ :: _ :: _ :: _ :: _, short, _ =>
      exact (short _ _ _ _ _ _ _ _ _ _ _ _ _ _ _ _ _ rfl).elim

end FileSeal
