import SourceAtlas.Text.Utf8

/-!
Content fingerprints: the 64-bit xxHash of the UTF-8 bytes with seed 0, in sixteen hexadecimal digits. A
fingerprint detects change and is no security boundary.
-/

namespace SourceAtlas.Fingerprint

/-! ## The hash -/

def prime1 : UInt64 := 0x9E3779B185EBCA87
def prime2 : UInt64 := 0xC2B2AE3D27D4EB4F
def prime3 : UInt64 := 0x165667B19E3779F9
def prime4 : UInt64 := 0x85EBCA77C2B2AE63
def prime5 : UInt64 := 0x27D4EB2F165667C5

/-- Rotation to the left. -/
def rotate (x by_ : UInt64) : UInt64 := (x <<< by_) ||| (x >>> (64 - by_))

/-- The number that bytes spell, the lowest first. -/
def littleEndian : Bytes → UInt64
  | [] => 0
  | b :: bs => b.toUInt64 ||| (littleEndian bs <<< 8)

/-- Mixes one word into an accumulator. -/
def round (acc word : UInt64) : UInt64 := rotate (acc + word * prime2) 31 * prime1

/-- Merges an accumulator into the hash. -/
def merge (hash acc : UInt64) : UInt64 := (hash ^^^ round 0 acc) * prime1 + prime4

/-- The four accumulators that long inputs run through. -/
structure Lanes where
  a : UInt64
  b : UInt64
  c : UInt64
  d : UInt64

/-- The accumulators before the first stripe. -/
def Lanes.start : Lanes := ⟨prime1 + prime2, prime2, 0, 0 - prime1⟩

/-- Takes in one stripe of 32 bytes. -/
def Lanes.step (l : Lanes) (stripe : Bytes) : Lanes :=
  let word (i : Nat) : UInt64 := littleEndian ((stripe.drop (8 * i)).take 8)
  ⟨round l.a (word 0), round l.b (word 1), round l.c (word 2), round l.d (word 3)⟩

/-- The hash of the accumulators. -/
def Lanes.total (l : Lanes) : UInt64 :=
  let sum := rotate l.a 1 + rotate l.b 7 + rotate l.c 12 + rotate l.d 18
  merge (merge (merge (merge sum l.a) l.b) l.c) l.d

/-- Takes in as many whole stripes as `count` says and returns what is left of the bytes. -/
def stripes : (count : Nat) → Lanes → Bytes → Lanes × Bytes
  | 0, l, bytes => (l, bytes)
  | count + 1, l, bytes => stripes count (l.step (bytes.take 32)) (bytes.drop 32)

/-- Mixes in the words of eight bytes. -/
def words : (count : Nat) → UInt64 → Bytes → UInt64 × Bytes
  | 0, hash, bytes => (hash, bytes)
  | count + 1, hash, bytes =>
    let word := littleEndian (bytes.take 8)
    words count (rotate (hash ^^^ round 0 word) 27 * prime1 + prime4) (bytes.drop 8)

/-- Mixes in the last bytes: a half word if there is one, then byte by byte. -/
def tail (hash : UInt64) (bytes : Bytes) : UInt64 :=
  let (hash, rest) :=
    if bytes.length < 4 then (hash, bytes)
    else
      (rotate (hash ^^^ (littleEndian (bytes.take 4) * prime1)) 23 * prime2 + prime3, bytes.drop 4)
  rest.foldl (fun h b => rotate (h ^^^ (b.toUInt64 * prime5)) 11 * prime1) hash

/-- The final spreading of the bits. -/
def avalanche (hash : UInt64) : UInt64 :=
  let h := (hash ^^^ (hash >>> 33)) * prime2
  let h := (h ^^^ (h >>> 29)) * prime3
  h ^^^ (h >>> 32)

/-- The hash of a sequence of bytes. -/
def hash (bytes : Bytes) : UInt64 :=
  let (lanes, rest) := stripes (bytes.length / 32) Lanes.start bytes
  let start := if bytes.length < 32 then prime5 else lanes.total
  let (h, last) := words (rest.length / 8) (start + UInt64.ofNat bytes.length) rest
  avalanche (tail h last)

/-! ## Fingerprints -/

/-- The fingerprint of bytes. -/
def ofBytes (bytes : Bytes) : Text := Text.hex 16 (hash bytes).toNat

/-- The fingerprint of a text; a text with surrogates has no bytes and hence none. -/
def ofText (t : Text) : Except Utf8.EncodeError Text := (Utf8.encode t).map ofBytes

end SourceAtlas.Fingerprint
