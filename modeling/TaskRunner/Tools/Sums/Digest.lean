/-!
# Digests

A digest is a few octets that stand for many: the octets are cut into blocks, and every block is mixed into words that
begin with fixed values. The fixed values of most of them are digits of roots of prime numbers.
-/

namespace TaskRunner.Tools.Sums

/-! ## Octets and words -/

/-- The number that octets are, the first one the highest. -/
def numberBig (bytes : ByteArray) (start count : Nat) : Nat :=
  (List.range count).foldl (fun n i => n * 256 + (bytes.get! (start + i)).toNat) 0

/-- The number that octets are, the first one the lowest. -/
def numberLittle (bytes : ByteArray) (start count : Nat) : Nat :=
  (List.range count).foldr (fun i n => n * 256 + (bytes.get! (start + i)).toNat) 0

/-- The octets of a number, the lowest first. -/
def octetsLittle : Nat → Nat → List UInt8
  | 0, _ => []
  | count + 1, n => n.toUInt8 :: octetsLittle count (n / 256)

/-- The octets of a number, the highest first. -/
def octetsBig (count n : Nat) : List UInt8 := (octetsLittle count n).reverse

/-- Octets up to a whole number of blocks: a bit, zeros, and at the end how many bits there are. -/
def padded (block lengthSize : Nat) (big : Bool) (bytes : ByteArray) : ByteArray :=
  let used := (bytes.size + 1 + lengthSize) % block
  let zeros := if used = 0 then 0 else block - used
  let length := if big then octetsBig lengthSize (8 * bytes.size) else octetsLittle lengthSize (8 * bytes.size)
  (length.foldl ByteArray.push ((List.replicate zeros (0 : UInt8)).foldl ByteArray.push (bytes.push 128)))

/-- Mixes every block into what there is. -/
def overBlocks {σ : Type} (block : Nat) (bytes : ByteArray) (mix : σ → Nat → σ) (s : σ) : σ :=
  (List.range (bytes.size / block)).foldl (fun s i => mix s (i * block)) s

/-! ## Roots of prime numbers -/

/-- Whether a number is prime. -/
def isPrime (n : Nat) : Bool := 1 < n && (List.range n).all fun d => d < 2 || n % d != 0

/-- The first prime numbers. -/
def primes : List Nat := (List.range 410).filter isPrime

/-- The greatest number of so many bits whose power is not above another number. -/
def rootBelow (power n : Nat) : Nat → Nat → Nat
  | 0, r => r
  | k + 1, r => if Nat.pow (r + Nat.pow 2 k) power ≤ n then rootBelow power n k (r + Nat.pow 2 k) else rootBelow power n k r

/-- The first 64 bits after the point of a root of a number. -/
def rootBits (power n : Nat) : Nat := rootBelow power (n * Nat.pow 2 (64 * power)) 70 0 % Nat.pow 2 64

/-! ## Digests of eight words -/

/-- Eight words. -/
structure Eight (α : Type) where
  a : α
  b : α
  c : α
  d : α
  e : α
  f : α
  g : α
  h : α

namespace Eight

/-- Eight words of a list. -/
def ofList {α : Type} [Inhabited α] (l : List α) : Eight α :=
  let at_ (i : Nat) : α := (l[i]?).getD default
  ⟨at_ 0, at_ 1, at_ 2, at_ 3, at_ 4, at_ 5, at_ 6, at_ 7⟩

/-- The words as a list. -/
def toList {α : Type} (w : Eight α) : List α := [w.a, w.b, w.c, w.d, w.e, w.f, w.g, w.h]

/-- Adds words one by one. -/
@[specialize]
def add {α : Type} [Add α] (v w : Eight α) : Eight α :=
  ⟨v.a + w.a, v.b + w.b, v.c + w.c, v.d + w.d, v.e + w.e, v.f + w.f, v.g + w.g, v.h + w.h⟩

end Eight

/-- What is different between digests of eight words. -/
structure Family (α : Type) where
  /-- How many octets a word has. -/
  octets : Nat
  ofNumber : Nat → α
  turned : α → Nat → α
  shifted : α → Nat → α
  /-- A word for every round. -/
  constants : Array α
  /-- How far words are turned when rounds are made. -/
  first : Nat × Nat × Nat
  fifth : Nat × Nat × Nat
  /-- How far words are turned, and at last shifted, when words are made for more rounds. -/
  near : Nat × Nat × Nat
  far : Nat × Nat × Nat

namespace Family

variable {α : Type} [Add α] [AndOp α] [XorOp α] [Complement α] [Inhabited α]

/-- The words for the rounds: those of the block first. -/
@[specialize]
def schedule (f : Family α) (bytes : ByteArray) (start : Nat) : Array α :=
  let given := (Array.range 16).map fun i => f.ofNumber (numberBig bytes (start + i * f.octets) f.octets)
  (List.range (f.constants.size - 16)).foldl (fun w i =>
    let t := i + 16
    let x := w[t - 15]!
    let y := w[t - 2]!
    let small := f.turned x f.near.1 ^^^ f.turned x f.near.2.1 ^^^ f.shifted x f.near.2.2
    let large := f.turned y f.far.1 ^^^ f.turned y f.far.2.1 ^^^ f.shifted y f.far.2.2
    w.push (w[t - 16]! + small + w[t - 7]! + large)) given

/-- A round. -/
@[specialize]
def round (f : Family α) (s : Eight α) (word constant : α) : Eight α :=
  let upper := f.turned s.e f.fifth.1 ^^^ f.turned s.e f.fifth.2.1 ^^^ f.turned s.e f.fifth.2.2
  let chosen := (s.e &&& s.f) ^^^ (~~~ s.e &&& s.g)
  let one := s.h + upper + chosen + constant + word
  let lower := f.turned s.a f.first.1 ^^^ f.turned s.a f.first.2.1 ^^^ f.turned s.a f.first.2.2
  let most := (s.a &&& s.b) ^^^ (s.a &&& s.c) ^^^ (s.b &&& s.c)
  ⟨one + lower + most, s.a, s.b, s.c, s.d + one, s.e, s.f, s.g⟩

/-- Mixes a block into words. -/
@[specialize]
def mix (f : Family α) (bytes : ByteArray) (s : Eight α) (start : Nat) : Eight α :=
  let words := f.schedule bytes start
  s.add ((List.range f.constants.size).foldl (fun s t => f.round s words[t]! f.constants[t]!) s)

/-- The words for octets, from fixed ones. -/
@[specialize]
def digest (f : Family α) (start : Eight α) (bytes : ByteArray) : Eight α :=
  let block := 16 * f.octets
  let bytes := padded block (2 * f.octets) true bytes
  overBlocks block bytes (f.mix bytes) start

end Family

/-- A word turned to the right. -/
def turn32 (w : UInt32) (n : Nat) : UInt32 := (w >>> n.toUInt32) ||| (w <<< (32 - n).toUInt32)

/-- A word turned to the right. -/
def turn64 (w : UInt64) (n : Nat) : UInt64 := (w >>> n.toUInt64) ||| (w <<< (64 - n).toUInt64)

/-- The digests of short words. -/
def short : Family UInt32 :=
  ⟨4, Nat.toUInt32, turn32, fun w n => w >>> n.toUInt32,
    ((primes.take 64).map fun p => (rootBits 3 p / Nat.pow 2 32).toUInt32).toArray,
    (2, 13, 22), (6, 11, 25), (7, 18, 3), (17, 19, 10)⟩

/-- The digests of long words. -/
def long : Family UInt64 :=
  ⟨8, Nat.toUInt64, turn64, fun w n => w >>> n.toUInt64, (primes.map fun p => (rootBits 3 p).toUInt64).toArray,
    (28, 34, 39), (14, 18, 41), (1, 8, 7), (19, 61, 6)⟩

/-- Octets of words, the highest first. -/
def octetsOf {α : Type} (count : Nat) (number : α → Nat) (w : Eight α) : List UInt8 :=
  w.toList.flatMap fun x => octetsBig count (number x)

/-- The digest of 256 bits. -/
def sha256 (bytes : ByteArray) : List UInt8 :=
  let start := Eight.ofList ((primes.take 8).map fun p => (rootBits 2 p / Nat.pow 2 32).toUInt32)
  octetsOf 4 UInt32.toNat (short.digest start bytes)

/-- The digest of 224 bits, which begins with other words. -/
def sha224 (bytes : ByteArray) : List UInt8 :=
  let start := Eight.ofList (((primes.drop 8).take 8).map fun p => (rootBits 2 p).toUInt32)
  (octetsOf 4 UInt32.toNat (short.digest start bytes)).take 28

/-- The words that the digest of 512 bits begins with. -/
def longStart : Eight UInt64 := Eight.ofList ((primes.take 8).map fun p => (rootBits 2 p).toUInt64)

/-- The digest of 512 bits. -/
def sha512 (bytes : ByteArray) : List UInt8 := octetsOf 8 UInt64.toNat (long.digest longStart bytes)

/-- The digest of 384 bits, which begins with other words. -/
def sha384 (bytes : ByteArray) : List UInt8 :=
  let start := Eight.ofList (((primes.drop 8).take 8).map fun p => (rootBits 2 p).toUInt64)
  (octetsOf 8 UInt64.toNat (long.digest start bytes)).take 48

/-! ## Older digests -/

/-- The words that older digests begin with. -/
def oldStart : UInt32 × UInt32 × UInt32 × UInt32 := (0x67452301, 0xefcdab89, 0x98badcfe, 0x10325476)

/-- A word turned to the left. -/
def turnLeft (w : UInt32) (n : Nat) : UInt32 := (w <<< n.toUInt32) ||| (w >>> (32 - n).toUInt32)

/-- Five words. -/
structure Five where
  a : UInt32
  b : UInt32
  c : UInt32
  d : UInt32
  e : UInt32

/-- Mixes a block into five words. -/
def mixFive (bytes : ByteArray) (s : Five) (start : Nat) : Five :=
  let given := (Array.range 16).map fun i => (numberBig bytes (start + 4 * i) 4).toUInt32
  let words := (List.range 64).foldl (fun w i =>
    w.push (turnLeft (w[i + 13]! ^^^ w[i + 8]! ^^^ w[i + 2]! ^^^ w[i]!) 1)) given
  let step (s : Five) (t : Nat) : Five :=
    let (mixed, constant) : UInt32 × UInt32 :=
      if t < 20 then ((s.b &&& s.c) ||| (~~~ s.b &&& s.d), 0x5a827999)
      else if t < 40 then (s.b ^^^ s.c ^^^ s.d, 0x6ed9eba1)
      else if t < 60 then ((s.b &&& s.c) ||| (s.b &&& s.d) ||| (s.c &&& s.d), 0x8f1bbcdc)
      else (s.b ^^^ s.c ^^^ s.d, 0xca62c1d6)
    ⟨turnLeft s.a 5 + mixed + s.e + constant + words[t]!, s.a, turnLeft s.b 30, s.c, s.d⟩
  let r := (List.range 80).foldl step s
  ⟨s.a + r.a, s.b + r.b, s.c + r.c, s.d + r.d, s.e + r.e⟩

/-- The digest of 160 bits. -/
def sha1 (bytes : ByteArray) : List UInt8 :=
  let bytes := padded 64 8 true bytes
  let (a, b, c, d) := oldStart
  let s := overBlocks 64 bytes (mixFive bytes) ⟨a, b, c, d, 0xc3d2e1f0⟩
  [s.a, s.b, s.c, s.d, s.e].flatMap fun w => octetsBig 4 w.toNat

/-- A word for every round of the digest of 128 bits: digits of sines. -/
def sines : Array UInt32 := [0xd76aa478, 0xe8c7b756, 0x242070db, 0xc1bdceee, 0xf57c0faf, 0x4787c62a, 0xa8304613, 0xfd469501,
  0x698098d8, 0x8b44f7af, 0xffff5bb1, 0x895cd7be, 0x6b901122, 0xfd987193, 0xa679438e, 0x49b40821,
  0xf61e2562, 0xc040b340, 0x265e5a51, 0xe9b6c7aa, 0xd62f105d, 0x02441453, 0xd8a1e681, 0xe7d3fbc8,
  0x21e1cde6, 0xc33707d6, 0xf4d50d87, 0x455a14ed, 0xa9e3e905, 0xfcefa3f8, 0x676f02d9, 0x8d2a4c8a,
  0xfffa3942, 0x8771f681, 0x6d9d6122, 0xfde5380c, 0xa4beea44, 0x4bdecfa9, 0xf6bb4b60, 0xbebfbc70,
  0x289b7ec6, 0xeaa127fa, 0xd4ef3085, 0x04881d05, 0xd9d4d039, 0xe6db99e5, 0x1fa27cf8, 0xc4ac5665,
  0xf4292244, 0x432aff97, 0xab9423a7, 0xfc93a039, 0x655b59c3, 0x8f0ccc92, 0xffeff47d, 0x85845dd1,
  0x6fa87e4f, 0xfe2ce6e0, 0xa3014314, 0x4e0811a1, 0xf7537e82, 0xbd3af235, 0x2ad7d2bb, 0xeb86d391].toArray

/-- How far words are turned in the rounds of the digest of 128 bits. -/
def turns : Nat → Nat → Nat
  | 0, i => (#[7, 12, 17, 22] : Array Nat)[i]!
  | 1, i => (#[5, 9, 14, 20] : Array Nat)[i]!
  | 2, i => (#[4, 11, 16, 23] : Array Nat)[i]!
  | _, i => (#[6, 10, 15, 21] : Array Nat)[i]!

/-- Mixes a block into four words. -/
def mixFour (bytes : ByteArray) (s : UInt32 × UInt32 × UInt32 × UInt32) (start : Nat) :
    UInt32 × UInt32 × UInt32 × UInt32 :=
  let words := (Array.range 16).map fun i => (numberLittle bytes (start + 4 * i) 4).toUInt32
  let step (s : UInt32 × UInt32 × UInt32 × UInt32) (t : Nat) : UInt32 × UInt32 × UInt32 × UInt32 :=
    let (a, b, c, d) := s
    let (mixed, place) : UInt32 × Nat := match t / 16 with
      | 0 => ((b &&& c) ||| (~~~ b &&& d), t)
      | 1 => ((d &&& b) ||| (~~~ d &&& c), 5 * t + 1)
      | 2 => (b ^^^ c ^^^ d, 3 * t + 5)
      | _ => (c ^^^ (b ||| ~~~ d), 7 * t)
    (d, b + turnLeft (a + mixed + sines[t]! + words[place % 16]!) (turns (t / 16) (t % 4)), b, c)
  let (a, b, c, d) := s
  let (a', b', c', d') := (List.range 64).foldl step s
  (a + a', b + b', c + c', d + d')

/-- The digest of 128 bits. -/
def md5 (bytes : ByteArray) : List UInt8 :=
  let bytes := padded 64 8 false bytes
  let (a, b, c, d) := overBlocks 64 bytes (mixFour bytes) oldStart
  [a, b, c, d].flatMap fun w => octetsLittle 4 w.toNat

/-! ## A digest of any size -/

/-- The order of the words of a block in every round. -/
def orders : Array (Array Nat) := Array.map List.toArray <| List.toArray
  [[0, 1, 2, 3, 4, 5, 6, 7, 8, 9, 10, 11, 12, 13, 14, 15], [14, 10, 4, 8, 9, 15, 13, 6, 1, 12, 0, 2, 11, 7, 5, 3],
    [11, 8, 12, 0, 5, 2, 15, 13, 10, 14, 3, 6, 7, 1, 9, 4], [7, 9, 3, 1, 13, 12, 11, 14, 2, 6, 5, 10, 4, 0, 15, 8],
    [9, 0, 5, 7, 2, 4, 10, 15, 14, 1, 11, 12, 6, 8, 3, 13], [2, 12, 6, 10, 0, 11, 8, 3, 4, 13, 7, 5, 15, 14, 1, 9],
    [12, 5, 1, 15, 14, 13, 4, 10, 0, 7, 6, 3, 9, 2, 8, 11], [13, 11, 7, 14, 12, 1, 3, 9, 5, 0, 15, 4, 8, 6, 2, 10],
    [6, 15, 14, 9, 11, 3, 0, 8, 12, 2, 13, 7, 1, 4, 10, 5], [10, 2, 8, 4, 7, 6, 1, 5, 15, 11, 9, 14, 3, 12, 13, 0]]

/-- The words that are mixed together: columns first, then diagonals. -/
def quarters : List (Nat × Nat × Nat × Nat) :=
  [(0, 4, 8, 12), (1, 5, 9, 13), (2, 6, 10, 14), (3, 7, 11, 15), (0, 5, 10, 15), (1, 6, 11, 12), (2, 7, 8, 13), (3, 4, 9, 14)]

/-- Mixes two words of a block into four words. -/
def mixQuarter (v : Array UInt64) (q : Nat × Nat × Nat × Nat) (x y : UInt64) : Array UInt64 :=
  let (i, j, k, l) := q
  let half (v : Array UInt64) (x : UInt64) (n m : Nat) : Array UInt64 :=
    let v := v.set! i (v[i]! + v[j]! + x)
    let v := v.set! l (turn64 (v[l]! ^^^ v[i]!) n)
    let v := v.set! k (v[k]! + v[l]!)
    v.set! j (turn64 (v[j]! ^^^ v[k]!) m)
  half (half v x 32 24) y 16 63

/-- Mixes a block into eight words, given how many octets there are up to its end. -/
def mixLong (bytes : ByteArray) (h : Array UInt64) (start count : Nat) (last : Bool) : Array UInt64 :=
  let words := (Array.range 16).map fun i => (numberLittle bytes (start + 8 * i) 8).toUInt64
  let v := h ++ longStart.toList.toArray
  let v := v.set! 12 (v[12]! ^^^ count.toUInt64)
  let v := if last then v.set! 14 (~~~ v[14]!) else v
  let v := (List.range 12).foldl (fun v r =>
    let order := orders[r % 10]!
    quarters.zipIdx.foldl (fun v (q, i) => mixQuarter v q words[order[2 * i]!]! words[order[2 * i + 1]!]!) v) v
  (Array.range 8).map fun i => h[i]! ^^^ v[i]! ^^^ v[i + 8]!

/-- The digest of so many octets. -/
def blake2b (size : Nat) (bytes : ByteArray) : List UInt8 :=
  let blocks := max 1 ((bytes.size + 127) / 128)
  let filled := (List.replicate (128 * blocks - bytes.size) (0 : UInt8)).foldl ByteArray.push bytes
  let h := longStart.toList.toArray
  let h := h.set! 0 (h[0]! ^^^ (0x01010000 + size).toUInt64)
  let h := (List.range blocks).foldl (fun h i =>
    mixLong filled h (128 * i) (min bytes.size (128 * (i + 1))) (i + 1 = blocks)) h
  (h.toList.flatMap fun w => octetsLittle 8 w.toNat).take size

/-! ## Sums -/

/-- The remainder of a division of octets as polynomials, how many there are after them. -/
def remainder (bytes : ByteArray) : Nat :=
  let step (crc : UInt32) (b : UInt8) : UInt32 :=
    (List.range 8).foldl (fun crc _ => if crc &&& 0x80000000 != 0 then (crc <<< 1) ^^^ 0x04c11db7 else crc <<< 1)
      (crc ^^^ (b.toUInt32 <<< 24))
  let rec octetsOfLength : Nat → Nat → List UInt8
    | 0, _ => []
    | fuel + 1, n => if n = 0 then [] else n.toUInt8 :: octetsOfLength fuel (n / 256)
  (~~~ ((octetsOfLength 10 bytes.size).foldl step (bytes.foldl step 0))).toNat

/-- A sum that is turned for every octet. -/
def turningSum (bytes : ByteArray) : Nat :=
  bytes.foldl (fun s b => (s / 2 + s % 2 * 32768 + b.toNat) % 65536) 0

/-- A sum of all octets, its two halves added. -/
def plainSum (bytes : ByteArray) : Nat :=
  let s := bytes.foldl (fun s b => s + b.toNat) 0
  let r := s % 65536 + s % 4294967296 / 65536
  r % 65536 + r / 65536

end TaskRunner.Tools.Sums
