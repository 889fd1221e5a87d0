import CardOcr.Error

/-! # Texture memory

A `TextureArena` lends texture memory under a fixed budget.  A request for `len` texels of
`size` bytes each needs `len · size` bytes; it is granted when that product and the bytes
in use plus it fit 64 bits and stay within the budget, else it fails with the bytes
requested, in use and available.  A granted request of more bytes than the largest signed
64-bit word cannot be addressed and faults.  A granted texture gives its bytes back when it
is released.

The arena's view is `bytesInUse`, the sum of the sizes of the live textures.
-/

namespace CardOcr

/-- Element types of textures, by size. -/
inductive TexelKind where
  | u8
  | u16
  | f32
  | f64
  deriving Repr, BEq, Inhabited

/-- Bytes per texel. -/
def TexelKind.size : TexelKind → Nat
  | .u8 => 1
  | .u16 => 2
  | .f32 => 4
  | .f64 => 8

/-- Texture memory with a budget and the sizes of the live textures by id. -/
structure TextureArena where
  budget : Nat
  /-- Live textures: id and size in bytes. -/
  live : List (Nat × Nat) := []
  /-- Id of the next texture. -/
  nextId : Nat := 0
  deriving Repr, Inhabited

namespace TextureArena

/-- Bytes held by live textures. -/
def bytesInUse (a : TextureArena) : Nat := (a.live.map Prod.snd).foldr (· + ·) 0

/-- Lends a texture of `len` texels of `kind`: its id and the arena after the loan. -/
def allocate (a : TextureArena) (kind : TexelKind) (len : Nat) :
    Except FrameFailure (Nat × TextureArena) := do
  let bytes ← (checkedMul 64 len kind.size).liftFault
  let inUse := a.bytesInUse
  if inUse + bytes < Nat.pow 2 64 && inUse + bytes ≤ a.budget then
    if Nat.pow 2 63 ≤ bytes then throw (.fault .capacityOverflow)
    return (a.nextId, { a with live := a.live ++ [(a.nextId, bytes)], nextId := a.nextId + 1 })
  else throw (.error (.resourceExhausted bytes inUse a.budget))

/-- Gives back the texture `id`; whether it was live. -/
def release (a : TextureArena) (id : Nat) : Bool × TextureArena :=
  if a.live.any (·.1 == id) then (true, { a with live := a.live.filter (·.1 != id) })
  else (false, a)

end TextureArena

end CardOcr
