import Mathlib.Data.Fintype.EquivFin
import FileSeal.Aes

namespace FileSeal.Aes

attribute [ext] Quad

theorem xor_left_comm (a b c : UInt8) : a ^^^ (b ^^^ c) = b ^^^ (a ^^^ c) := by
  rw [← UInt8.xor_assoc, UInt8.xor_comm a b, UInt8.xor_assoc]

theorem xor_left_self (a b : UInt8) : a ^^^ (a ^^^ b) = b := by
  rw [← UInt8.xor_assoc, UInt8.xor_self, UInt8.zero_xor]

theorem unsubByte_subByte (b : UInt8) : unsubByte (subByte b) = b := by
  have table : ∀ i : Fin 256, unsubByte (subByte (UInt8.ofFin i)) = UInt8.ofFin i := by
    decide +kernel
  exact table b.toFin

theorem subByte_unsubByte (b : UInt8) : subByte (unsubByte b) = b := by
  -- There are as many bytes on both sides, so that the table need not be gone through again.
  have finite : Finite UInt8 := .of_injective UInt8.toFin fun _ _ same => UInt8.toFin_inj.mp same
  have onto : Function.Surjective unsubByte := Function.LeftInverse.surjective unsubByte_subByte
  have injective : Function.Injective unsubByte := Finite.injective_iff_surjective.mpr onto
  exact injective (unsubByte_subByte (unsubByte b))

theorem lt_0x80_iff (b : UInt8) : b < 0x80 ↔ b.toBitVec.msb = false := by
  rw [BitVec.msb_eq_false_iff_two_mul_lt, UInt8.lt_iff_toNat_lt, UInt8.toNat_toBitVec]
  have : (0x80 : UInt8).toNat = 128 := rfl
  omega

/-- Doubling is linear: the reduction polynomial comes in exactly when one top bit is set. -/
theorem double_xor (a b : UInt8) : double (a ^^^ b) = double a ^^^ double b := by
  have shift : (a ^^^ b) <<< 1 = a <<< 1 ^^^ b <<< 1 := UInt8.shiftLeft_xor
  simp only [double, shift, lt_0x80_iff, UInt8.toBitVec_xor, BitVec.msb_xor]
  cases a.toBitVec.msb <;> cases b.toBitVec.msb <;>
    simp [UInt8.xor_assoc, UInt8.xor_comm, xor_left_comm]

namespace Quad

variable {α β : Type}

theorem map_map_of_inverse {f : α → β} {g : β → α} (inverse : ∀ a, g (f a) = a) (x : Quad α) :
    (x.map f).map g = x := by
  simp only [map, inverse]

theorem xor_xor_cancel [XorOp α] (cancel : ∀ a b : α, a ^^^ b ^^^ b = a) (x y : Quad α) :
    x ^^^ y ^^^ y = x :=
  Quad.ext (cancel _ _) (cancel _ _) (cancel _ _) (cancel _ _)

end Quad

namespace Column

/-- The matrix of `mix` times itself, whose rows are the rotations of 5, 0, 4, 0. -/
def mixTwice (x : Column) : Column where
  p0 := double (double (x.p0 ^^^ x.p2)) ^^^ x.p0
  p1 := double (double (x.p1 ^^^ x.p3)) ^^^ x.p1
  p2 := double (double (x.p2 ^^^ x.p0)) ^^^ x.p2
  p3 := double (double (x.p3 ^^^ x.p1)) ^^^ x.p3

theorem mix_rotate (x : Column) : x.rotate.mix = x.mix.rotate := by
  ext <;> simp only [mix, rotate] <;> ac_rfl

theorem mixTwice_rotate (x : Column) : x.rotate.mixTwice = x.mixTwice.rotate := rfl

theorem unmix_rotate (x : Column) : x.rotate.unmix = x.unmix.rotate := rfl

/-- Maps of columns that commute with rotation are compared by their first rows. -/
theorem eq_of_p0 {f g : Column → Column} (hf : ∀ x, f x.rotate = (f x).rotate)
    (hg : ∀ x, g x.rotate = (g x).rotate) (first : ∀ x, (f x).p0 = (g x).p0) (x : Column) :
    f x = g x := by
  have second := first x.rotate
  have third := first x.rotate.rotate
  have fourth := first x.rotate.rotate.rotate
  simp only [hf, hg] at second third fourth
  exact Quad.ext (first x) second third fourth

theorem mix_mix (x : Column) : x.mix.mix = x.mixTwice := by
  apply eq_of_p0 (f := fun x => x.mix.mix) (fun x => by simp only [mix_rotate]) mixTwice_rotate
  intro x
  obtain ⟨a, b, c, d⟩ := x
  simp only [mix, mixTwice, double_xor]
  simp only [UInt8.xor_assoc, UInt8.xor_comm, xor_left_comm, xor_left_self]

theorem mixTwice_mixTwice (x : Column) : x.mixTwice.mixTwice = x := by
  apply eq_of_p0 (f := fun x => x.mixTwice.mixTwice) (g := id) (fun _ => rfl) (fun _ => rfl)
  intro x
  obtain ⟨a, b, c, d⟩ := x
  simp only [mixTwice, double_xor]
  simp [UInt8.xor_comm, xor_left_comm]

theorem mix_mixTwice (x : Column) : x.mixTwice.mix = x.unmix := by
  apply eq_of_p0 (f := fun x => x.mixTwice.mix)
    (fun x => by rw [mixTwice_rotate, mix_rotate]) unmix_rotate
  intro x
  obtain ⟨a, b, c, d⟩ := x
  simp only [mix, mixTwice, unmix, unmixRow, double_xor]
  simp only [UInt8.xor_assoc, UInt8.xor_comm, xor_left_comm, xor_left_self]

theorem unmix_mix (x : Column) : x.mix.unmix = x :=
  calc x.mix.unmix
    _ = x.mix.mixTwice.mix := (mix_mixTwice _).symm
    _ = x.mix.mix.mix.mix := by rw [← mix_mix x.mix]
    _ = x.mixTwice.mixTwice := by rw [mix_mix, mix_mix]
    _ = x := mixTwice_mixTwice x

theorem mix_unmix (x : Column) : x.unmix.mix = x :=
  calc x.unmix.mix
    _ = x.mixTwice.mix.mix := by rw [mix_mixTwice]
    _ = x.mixTwice.mixTwice := mix_mix _
    _ = x := mixTwice_mixTwice x

end Column

namespace State

@[simp] theorem xor_xor_cancel (x y : State) : x ^^^ y ^^^ y = x := by
  refine Quad.xor_xor_cancel (Quad.xor_xor_cancel fun a b => ?_) x y
  rw [UInt8.xor_assoc, UInt8.xor_self, UInt8.xor_zero]

@[simp] theorem unshiftRows_shiftRows (x : State) : x.shiftRows.unshiftRows = x := rfl

@[simp] theorem shiftRows_unshiftRows (x : State) : x.unshiftRows.shiftRows = x := rfl

@[simp] theorem unsubstitute_substitute (x : State) : x.substitute.unsubstitute = x := by
  rw [substitute, unsubstitute, unshiftRows_shiftRows]
  exact Quad.map_map_of_inverse (Quad.map_map_of_inverse unsubByte_subByte) x

@[simp] theorem substitute_unsubstitute (x : State) : x.unsubstitute.substitute = x := by
  rw [substitute, unsubstitute,
    Quad.map_map_of_inverse (Quad.map_map_of_inverse subByte_unsubByte), shiftRows_unshiftRows]

@[simp] theorem unround_round (key x : State) : unround key (round x key) = x := by
  rw [unround, round, xor_xor_cancel, Quad.map_map_of_inverse Column.unmix_mix,
    unsubstitute_substitute]

@[simp] theorem round_unround (key x : State) : round (unround key x) key = x := by
  rw [unround, round, substitute_unsubstitute, Quad.map_map_of_inverse Column.mix_unmix,
    xor_xor_cancel]

/-- The rounds are undone in the opposite order, the last one first. -/
theorem foldr_unround_foldl_round (keys : List State) (x : State) :
    keys.foldr unround (keys.foldl round x) = x := by
  induction keys generalizing x with
  | nil => rfl
  | cons key keys ih => rw [List.foldl_cons, List.foldr_cons, ih, unround_round]

theorem foldl_round_foldr_unround (keys : List State) (x : State) :
    keys.foldl round (keys.foldr unround x) = x := by
  induction keys with
  | nil => rfl
  | cons key keys ih => rw [List.foldr_cons, List.foldl_cons, round_unround, ih]

@[simp] theorem ofBlock_toBlock (x : State) : ofBlock x.toBlock = x := rfl

@[simp] theorem toBlock_ofBlock (block : Block) : (ofBlock block).toBlock = block := by
  obtain ⟨bytes, length⟩ := block
  match bytes, length with
  | [_, _, _, _, _, _, _, _, _, _, _, _, _, _, _, _], _ => rfl

end State

theorem decrypt_encrypt (schedule : Schedule) (block : Block) :
    decrypt schedule (encrypt schedule block) = block := by
  simp [decrypt, encrypt, State.foldr_unround_foldl_round]

-- The block that AES-256 is specified with. That it comes back is the theorem.
example :
    encrypt (Schedule.ofKey ⟨(List.range 32).map UInt8.ofNat, rfl⟩)
        ⟨(List.range 16).map fun i => UInt8.ofNat (0x11 * i), rfl⟩ =
      ⟨[0x8e, 0xa2, 0xb7, 0xca, 0x51, 0x67, 0x45, 0xbf,
        0xea, 0xfc, 0x49, 0x90, 0x4b, 0x49, 0x60, 0x89], rfl⟩ := by
  decide +kernel

theorem encrypt_decrypt (schedule : Schedule) (block : Block) :
    encrypt schedule (decrypt schedule block) = block := by
  simp [decrypt, encrypt, State.foldl_round_foldr_unround]

end FileSeal.Aes
