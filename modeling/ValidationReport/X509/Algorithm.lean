import ValidationReport.X509.Name

/-!
# Algorithms

An algorithm is an object identifier with parameters.  Some identifiers settle what the parameters
are, and those are read as strictly as everything else; an algorithm that is not known here may
have any one element for its parameters, or none.

## Main definitions

* `Parameters` — what an algorithm takes for its parameters.
* `AlgorithmFamily`, `algorithmFamilies`, `parametersOf` — the parameters that an object identifier
  settles.
* `admits` — the parameters that fit.
* `isAlgorithm` — the content of an algorithm: an object identifier, and parameters that fit it.
-/

namespace ValidationReport.X509

open Der

/-! ### Kinds of parameters -/

/-- What an algorithm takes for its parameters. -/
inductive Parameters where
  /-- Any one element, or none. -/
  | any
  /-- None. -/
  | absent
  /-- None, or null. -/
  | nullable
  /-- The curve of a key. -/
  | curve
  /-- A hash, a mask and a length of salt, each with a default, or nothing at all. -/
  | maskedHash
  /-- A prime, the order of a subgroup and a generator. -/
  | signingGroup
  /-- A prime, a generator, and perhaps a length. -/
  | exchangeGroup
  /-- A prime, a generator, the order of a subgroup, and perhaps how they were made. -/
  | exchangeSubgroup
  /-- The block that a chain of blocks begins with. -/
  | firstBlock (length : Nat)
  /-- The first block of eight octets, perhaps after a mark of the length of the key. -/
  | markedBlock
  /-- A salt, perhaps of a fixed length, and how often it is mixed in. -/
  | salted (length : Option Nat)
  /-- The same with perhaps a length and the algorithm that mixes. -/
  | stretched
  /-- A salt with three measures of cost, and perhaps a length. -/
  | costly
  /-- Two algorithms: one makes the key, the other uses it. -/
  | paired
  deriving DecidableEq, Repr

/-- Algorithms whose object identifiers differ in the last arc alone. -/
structure AlgorithmFamily where
  stem : Oid
  lastArcs : List Nat
  parameters : Parameters

/-- The object identifiers that settle parameters. -/
def algorithmFamilies : List AlgorithmFamily := [
  -- SHA-1, alone and with RSA
  ⟨[0x2B, 0x0E, 0x03, 0x02], [26, 29], .nullable⟩,
  -- SHA-2 and SHA-3
  ⟨[0x60, 0x86, 0x48, 0x01, 0x65, 0x03, 0x04, 0x02], [1, 2, 3, 4, 7, 8, 9, 10], .nullable⟩,
  -- SHA-3, as first numbered
  ⟨[0x2B, 0x06, 0x01, 0x04, 0x01, 0x82, 0xA4, 0x64, 0x03, 0x02, 0x01, 0x63, 0x07],
    [224, 256, 384, 512], .nullable⟩,
  -- hashes with a key
  ⟨[0x2A, 0x86, 0x48, 0x86, 0xF7, 0x0D, 0x02], [7, 8, 9, 10, 11], .nullable⟩,
  -- RSA, alone and with a hash
  ⟨[0x2A, 0x86, 0x48, 0x86, 0xF7, 0x0D, 0x01, 0x01], [1, 5, 11, 12, 13, 14], .nullable⟩,
  ⟨[0x60, 0x86, 0x48, 0x01, 0x65, 0x03, 0x04, 0x03], [13, 14, 15, 16], .nullable⟩,
  -- RSA with a masked hash
  ⟨[0x2A, 0x86, 0x48, 0x86, 0xF7, 0x0D, 0x01, 0x01], [10], .maskedHash⟩,
  -- DSA, alone and with SHA-2
  ⟨[0x2A, 0x86, 0x48, 0xCE, 0x38, 0x04], [1], .signingGroup⟩,
  ⟨[0x60, 0x86, 0x48, 0x01, 0x65, 0x03, 0x04, 0x03], [1, 2, 3, 4], .absent⟩,
  -- elliptic curves, alone, with SHA-2 and with SHA-3
  ⟨[0x2A, 0x86, 0x48, 0xCE, 0x3D, 0x02], [1], .curve⟩,
  ⟨[0x2A, 0x86, 0x48, 0xCE, 0x3D, 0x04, 0x03], [1, 2, 3, 4], .absent⟩,
  ⟨[0x60, 0x86, 0x48, 0x01, 0x65, 0x03, 0x04, 0x03], [9, 10, 11, 12], .absent⟩,
  -- no signature at all
  ⟨[0x2B, 0x06, 0x01, 0x05, 0x05, 0x07, 0x06], [36], .absent⟩,
  -- the Edwards curves and the key agreements on them
  ⟨[0x2B, 0x65], [110, 111, 112, 113], .absent⟩,
  -- lattices, for signatures and for keys
  ⟨[0x60, 0x86, 0x48, 0x01, 0x65, 0x03, 0x04, 0x03], [17, 18, 19], .absent⟩,
  ⟨[0x60, 0x86, 0x48, 0x01, 0x65, 0x03, 0x04, 0x04], [2, 3], .absent⟩,
  -- key agreements in groups
  ⟨[0x2A, 0x86, 0x48, 0xCE, 0x3E, 0x02], [1], .exchangeSubgroup⟩,
  ⟨[0x2A, 0x86, 0x48, 0x86, 0xF7, 0x0D, 0x01, 0x03], [1], .exchangeGroup⟩,
  -- AES, triple DES and RC2 in chains of blocks
  ⟨[0x60, 0x86, 0x48, 0x01, 0x65, 0x03, 0x04, 0x01], [2, 22, 42], .firstBlock 16⟩,
  ⟨[0x2A, 0x86, 0x48, 0x86, 0xF7, 0x0D, 0x03], [7], .firstBlock 8⟩,
  ⟨[0x2A, 0x86, 0x48, 0x86, 0xF7, 0x0D, 0x03], [2], .markedBlock⟩,
  -- keys from passwords
  ⟨[0x2A, 0x86, 0x48, 0x86, 0xF7, 0x0D, 0x01, 0x05], [3], .salted (some 8)⟩,
  ⟨[0x2A, 0x86, 0x48, 0x86, 0xF7, 0x0D, 0x01, 0x0C, 0x01], [1, 3, 6], .salted none⟩,
  ⟨[0x2A, 0x86, 0x48, 0x86, 0xF7, 0x0D, 0x01, 0x05], [12], .stretched⟩,
  ⟨[0x2B, 0x06, 0x01, 0x04, 0x01, 0xDA, 0x47, 0x04], [11], .costly⟩,
  ⟨[0x2A, 0x86, 0x48, 0x86, 0xF7, 0x0D, 0x01, 0x05], [13], .paired⟩]

/-- The parameters that an object identifier settles. -/
def parametersOf (oid : Oid) : Parameters :=
  match algorithmFamilies.find? fun f => f.lastArcs.any fun n => f.stem ++ Oid.arc n == oid with
  | some family => family.parameters
  | none => .any

/-! ### Fields of parameters -/

def isNull (e : Element) : Bool := e.tag == Tag.null && e.content.isEmpty

/-- A number that is not negative in the content of an integer. -/
def isNatural (content : Bytes) : Bool := (natural? content).isSome

/-- A number of at most some bits that is not negative. -/
def isWord (bits : Nat) (content : Bytes) : Bool := (natural? content).any (· < Nat.pow 2 bits)

/-- An element that is a sequence of the fields that a reader takes. -/
def isRecord (fields : Fields Unit) (e : Element) : Bool :=
  e.tag == Tag.sequence && (fields.of? e.content).isSome

/-- Takes a content that satisfies a test, after a tag. -/
def tested (tag : Tag) (test : Bytes → Bool) : Fields Unit := do
  let content ← Fields.take tag
  Fields.require (test content)

/-- The same if the tag comes next. -/
def testedIfAny (tag : Tag) (test : Bytes → Bool) : Fields Unit := do
  let content ← Fields.optional tag
  Fields.require (content.all test)

/-- Takes an element that satisfies a test inside an explicit context tag, if that comes next. -/
def testedInside (number : Nat) (test : Element → Bool) : Fields Unit := do
  let element ← Fields.explicit number
  Fields.require (element.all test)

def Oid.primeField : Oid := [0x2A, 0x86, 0x48, 0xCE, 0x3D, 0x01, 0x01]

def Oid.binaryField : Oid := [0x2A, 0x86, 0x48, 0xCE, 0x3D, 0x01, 0x02]

/-- The fields that tell the field of a curve.  A field of prime order is told by its prime, and
what tells a field of characteristic two is not read; there are no others. -/
def baseFieldFields : Fields Unit := do
  let oid ← Fields.take Tag.oid
  if oid = Oid.primeField then tested Tag.integer isNatural
  else do
    Fields.require (oid = Oid.binaryField)
    tested Tag.sequence fun _ => true

/-- The fields of the two coefficients of a curve, perhaps with the seed they come from. -/
def coefficientFields : Fields Unit := do
  tested Tag.octetString fun _ => true
  tested Tag.octetString fun _ => true
  testedIfAny Tag.bitString isBitString

/-- The fields of a curve that is written out: a version, the field, the coefficients, a point, its
order, and perhaps the cofactor, of one octet like the version. -/
def curveFields : Fields Unit := do
  tested Tag.integer (isWord 8)
  tested Tag.sequence fun c => (baseFieldFields.of? c).isSome
  tested Tag.sequence fun c => (coefficientFields.of? c).isSome
  tested Tag.octetString fun _ => true
  tested Tag.integer isNatural
  testedIfAny Tag.integer (isWord 8)

/-- A curve: by name, written out, or null where it is known from elsewhere. -/
def isCurve (e : Element) : Bool :=
  isNull e || (e.tag == Tag.oid && isOid e.content) || isRecord curveFields e

/-- The content of the algorithm SHA-1 with null. -/
def sha1WithNull : Bytes := [0x06, 0x05, 0x2B, 0x0E, 0x03, 0x02, 0x1A, 0x05, 0x00]

/-- The content of the mask that SHA-1 generates. -/
def sha1Mask : Bytes :=
  [0x06, 0x09, 0x2A, 0x86, 0x48, 0x86, 0xF7, 0x0D, 0x01, 0x01, 0x08, 0x30, 0x09] ++ sha1WithNull

/-- The content of the algorithm of SHA-1 with a key, with null. -/
def sha1WithKey : Bytes :=
  [0x06, 0x08, 0x2A, 0x86, 0x48, 0x86, 0xF7, 0x0D, 0x02, 0x07, 0x05, 0x00]

/-- The fields of a mask: an object identifier, and the algorithm of its hash. -/
def maskFields (nested : Bytes → Bool) : Fields Unit := do
  tested Tag.oid isOid
  tested Tag.sequence nested

/-- The fields of a masked hash.  A default is never written out, except that of the trailer. -/
def maskedHashFields (nested : Bytes → Bool) : Fields Unit := do
  testedInside 0 fun e => e.tag == Tag.sequence && nested e.content && e.content != sha1WithNull
  testedInside 1 fun e => isRecord (maskFields nested) e && e.content != sha1Mask
  testedInside 2 fun e => e.tag == Tag.integer && isWord 16 e.content && e.content != [20]
  testedInside 3 fun e => e.tag == Tag.integer && isWord 8 e.content

/-- The fields of a prime, the order of a subgroup and a generator. -/
def signingGroupFields : Fields Unit := do
  tested Tag.integer isNatural
  tested Tag.integer isNatural
  tested Tag.integer isNatural

/-- The fields of a prime and a generator, and perhaps the length of a private number. -/
def exchangeGroupFields : Fields Unit := do
  tested Tag.integer isNatural
  tested Tag.integer isNatural
  testedIfAny Tag.integer (isWord 32)

/-- The fields of a prime, a generator and the order of a subgroup, perhaps with the cofactor and
with what shows how the numbers were made. -/
def exchangeSubgroupFields : Fields Unit := do
  signingGroupFields
  testedIfAny Tag.integer isNatural
  testedIfAny Tag.sequence fun _ => true

/-- The fields of a first block of eight octets, perhaps after a mark of the length of the key. -/
def markedBlockFields : Fields Unit := do
  testedIfAny Tag.integer (isWord 32)
  tested Tag.octetString (·.length == 8)

/-- The fields of a salt and of how often it is mixed in. -/
def saltedFields (length : Option Nat) : Fields Unit := do
  tested Tag.octetString fun salt => length.all (salt.length == ·)
  tested Tag.integer (isWord 64)

/-- The same with perhaps the length of the key and the algorithm that mixes, which is never
written out when it is SHA-1 with a key. -/
def stretchedFields (nested : Bytes → Bool) : Fields Unit := do
  saltedFields none
  testedIfAny Tag.integer (isWord 64)
  testedIfAny Tag.sequence fun c => nested c && c != sha1WithKey

/-- The fields of a salt with three measures of cost, and perhaps the length of the key. -/
def costlyFields : Fields Unit := do
  saltedFields none
  tested Tag.integer (isWord 64)
  tested Tag.integer (isWord 64)
  testedIfAny Tag.integer (isWord 32)

/-- The fields of two algorithms. -/
def pairedFields (nested : Bytes → Bool) : Fields Unit := do
  tested Tag.sequence nested
  tested Tag.sequence nested

/-! ### Algorithms -/

/-- Whether parameters are of a kind, given a test of the algorithms among them. -/
def admits (nested : Bytes → Bool) : Parameters → Option Element → Bool
  | .any, _ => true
  | .absent, e => e.isNone
  | .nullable, e => e.all isNull
  | .maskedHash, e => e.all (isRecord (maskedHashFields nested))
  | _, none => false
  | .curve, some e => isCurve e
  | .signingGroup, some e => isRecord signingGroupFields e
  | .exchangeGroup, some e => isRecord exchangeGroupFields e
  | .exchangeSubgroup, some e => isRecord exchangeSubgroupFields e
  | .firstBlock length, some e => e.tag == Tag.octetString && e.content.length == length
  | .markedBlock, some e => isRecord markedBlockFields e
  | .salted length, some e => isRecord (saltedFields length) e
  | .stretched, some e => isRecord (stretchedFields nested) e
  | .costly, some e => isRecord costlyFields e
  | .paired, some e => isRecord (pairedFields nested) e

/-- The content of an algorithm with a number of algorithms inside each other at most. -/
def isAlgorithmUpTo : Nat → Bytes → Bool
  | 0, _ => false
  | depth + 1, content =>
    match elements? content with
    | some (oid :: parameters) =>
      oid.tag == Tag.oid && isOid oid.content && parameters.length ≤ 1 &&
        admits (isAlgorithmUpTo depth) (parametersOf oid.content) parameters.head?
    | _ => false

/-- The content of an algorithm: its object identifier, and parameters that fit it.  The content of
an algorithm inside it is shorter. -/
def isAlgorithm (content : Bytes) : Bool := isAlgorithmUpTo (content.length + 1) content

end ValidationReport.X509
