import RestKit.Digest.Sha256
/-!
# Keyed digests

The authentication code of a message under a key: two nested digests, each behind a block made of
the key.
-/
namespace RestKit.Digest

def blockSize : Nat := 64

/-- The key as one block: a long key by its digest, a short one with zeros behind it. -/
def keyBlock (key : List UInt8) : List UInt8 :=
  let k := if key.length > blockSize then Sha256.hash key else key
  k ++ List.replicate (blockSize - k.length) 0

/-- The code of a message under a key. -/
def hmac (key message : List UInt8) : List UInt8 :=
  let block := keyBlock key
  Sha256.hash (block.map (· ^^^ 0x5c) ++ Sha256.hash (block.map (· ^^^ 0x36) ++ message))

end RestKit.Digest
