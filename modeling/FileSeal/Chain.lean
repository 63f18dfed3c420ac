import FileSeal.Octets

namespace FileSeal

/-- Cipher block chaining: each block is combined with the ciphertext block before it and then
encrypted. The first argument after the block cipher stands for the block before the first. -/
def chain (encrypt : Block → Block) : Block → List Block → List Block
  | _, [] => []
  | previous, plain :: rest =>
    let cipher := encrypt (plain ^^^ previous)
    cipher :: chain encrypt cipher rest

@[simp] theorem length_chain (encrypt : Block → Block) (previous : Block) (message : List Block) :
    (chain encrypt previous message).length = message.length := by
  induction message generalizing previous with
  | nil => rfl
  | cons plain rest ih => simp [chain, ih]

def unchain (decrypt : Block → Block) : Block → List Block → List Block
  | _, [] => []
  | previous, cipher :: rest =>
    (decrypt cipher ^^^ previous) :: unchain decrypt cipher rest

@[simp] theorem length_unchain (decrypt : Block → Block) (previous : Block)
    (ciphertext : List Block) :
    (unchain decrypt previous ciphertext).length = ciphertext.length := by
  induction ciphertext generalizing previous with
  | nil => rfl
  | cons cipher rest ih => simp [unchain, ih]

theorem unchain_chain {encrypt decrypt : Block → Block}
    (inverse : ∀ block, decrypt (encrypt block) = block) (previous : Block)
    (message : List Block) :
    unchain decrypt previous (chain encrypt previous message) = message := by
  induction message generalizing previous with
  | nil => rfl
  | cons plain rest ih => simp [chain, unchain, inverse, ih]

theorem chain_unchain {encrypt decrypt : Block → Block}
    (inverse : ∀ block, encrypt (decrypt block) = block) (previous : Block)
    (ciphertext : List Block) :
    chain encrypt previous (unchain decrypt previous ciphertext) = ciphertext := by
  induction ciphertext generalizing previous with
  | nil => rfl
  | cons cipher rest ih => simp [chain, unchain, inverse, ih]

end FileSeal
