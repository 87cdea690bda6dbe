import FabricHost.Bytes

/-!
# The SHA-1 digest

The digest as its standard defines it: padding to blocks of 64 bytes, an eighty-word schedule per block, and eighty
rounds over five words. It serves here as a stable hash for names, not for security.
-/

namespace FabricHost.Sha1

/-- The five chaining words. -/
structure Words where
  a : UInt32
  b : UInt32
  c : UInt32
  d : UInt32
  e : UInt32

def initial : Words := ⟨0x67452301, 0xEFCDAB89, 0x98BADCFE, 0x10325476, 0xC3D2E1F0⟩

/-- A word turned left by `n` places, for `0 < n < 32`. -/
def rotateLeft (n : UInt32) (word : UInt32) : UInt32 := (word <<< n) ||| (word >>> (32 - n))

/-- The message with its end mark, zeros to eight bytes short of a block, and its length in bits. -/
def pad (message : Bytes) : Bytes :=
  message ++ 0x80 :: Bytes.zeros ((119 - message.length % 64) % 64) ++ Bytes.ofNatBE 8 (8 * message.length)

/-- The byte string cut into pieces of `n + 1` bytes. The last piece may be shorter. -/
def pieces (n : Nat) : Bytes → List Bytes
  | [] => []
  | byte :: rest => (byte :: rest.take n) :: pieces n (rest.drop n)
termination_by bytes => bytes.length
decreasing_by simp only [List.length_drop, List.length_cons]; omega

/-- The eighty words that a block is mixed in as: its own sixteen, then each from four earlier ones. -/
def schedule (block : Bytes) : Array UInt32 :=
  let own := ((pieces 3 block).map fun word => UInt32.ofNat (Bytes.toNatBE word)).toArray
  (List.range 64).foldl
    (fun words i =>
      let word t := words.getD (i + t) 0
      words.push (rotateLeft 1 (word 13 ^^^ word 8 ^^^ word 2 ^^^ word 0)))
    own

/-- The mixing function and constant of a round. -/
def mixing (round : Nat) (b c d : UInt32) : UInt32 × UInt32 :=
  if round < 20 then ((b &&& c) ||| (~~~b &&& d), 0x5A827999)
  else if round < 40 then (b ^^^ c ^^^ d, 0x6ED9EBA1)
  else if round < 60 then ((b &&& c) ||| (b &&& d) ||| (c &&& d), 0x8F1BBCDC)
  else (b ^^^ c ^^^ d, 0xCA62C1D6)

/-- Mixes one block into the chaining words. -/
def compress (state : Words) (block : Bytes) : Words :=
  let words := schedule block
  let last := (List.range 80).foldl
    (fun (s : Words) round =>
      let (mixed, constant) := mixing round s.b s.c s.d
      let next := rotateLeft 5 s.a + mixed + s.e + constant + words.getD round 0
      ⟨next, s.a, rotateLeft 30 s.b, s.c, s.d⟩)
    state
  ⟨state.a + last.a, state.b + last.b, state.c + last.c, state.d + last.d, state.e + last.e⟩

def digest (message : Bytes) : Bytes :=
  let words := (pieces 63 (pad message)).foldl compress initial
  [words.a, words.b, words.c, words.d, words.e].flatMap fun word => Bytes.ofNatBE 4 word.toNat

@[simp] theorem length_digest (message : Bytes) : (digest message).length = 20 := by
  simp [digest]

end FabricHost.Sha1
