import ObjectCourier.Digest.XxHash
import ObjectCourier.Wire.Compression

/-!
Frames. A frame is a header of 23 bytes and a body: the magic bytes, the version, the compression
id, the hash of the uncompressed body and the length of the compressed one, all little-endian. The
header makes a frame end by itself; bytes behind it are not looked at.
-/

namespace ObjectCourier

namespace Frame

/-- The bytes every frame begins with, "GPW1". -/
def magic : Bytes := [0x47, 0x50, 0x57, 0x31]

def version : Nat := 1

def headerSize : Nat := 23

/-- What a frame tells about its body. -/
structure Header where
  compression : UInt8
  checksum : UInt64
  bodyLength : UInt64
  deriving DecidableEq, Repr, Inhabited

namespace Header

def toBytes (header : Header) : Bytes :=
  magic ++ Bytes.little 2 version ++ [header.compression]
    ++ Bytes.little 8 header.checksum.toNat ++ Bytes.little 8 header.bodyLength.toNat

def ofBytes (bytes : Bytes) : Except Fault Header :=
  let field (start width : Nat) : Nat := Bytes.value ((bytes.drop start).take width)
  if bytes.length < headerSize then .error .shortHeader
  else if bytes.take 4 ≠ magic then .error .wrongMagic
  else if field 4 2 ≠ version then .error (.wrongVersion (field 4 2))
  else .ok
    { compression := UInt8.ofNat (field 6 1)
      checksum := UInt64.ofNat (field 7 8)
      bodyLength := UInt64.ofNat (field 15 8) }

end Header

def wrap (body : Bytes) (compressor : Compressor) : Except Fault Bytes := do
  if Bytes.limit ≤ body.length then throw .oversized
  let compressed ← compressor.compress body
  if Varint.bound ≤ headerSize + compressed.length then throw .oversized
  let header : Header :=
    { compression := compressor.id
      checksum := XxHash.hash body
      bodyLength := UInt64.ofNat compressed.length }
  return header.toBytes ++ compressed

def unwrap (bytes : Bytes) (compressors : Compressors) : Except Fault Bytes := do
  let header ← Header.ofBytes bytes
  let length := header.bodyLength.toNat
  if Varint.bound ≤ headerSize + length then throw .overflowingBody
  if bytes.length < headerSize + length then throw .truncatedBody
  let compressor ← compressors.get header.compression
  let body ← compressor.decompress ((bytes.drop headerSize).take length)
  if XxHash.hash body ≠ header.checksum then throw .wrongChecksum
  return body

def encode {α : Type} (codec : Codec α) (value : α) (compressor : Compressor) :
    Except Fault Bytes :=
  wrap (codec.encode value) compressor

def decode {α : Type} (codec : Codec α) (bytes : Bytes) (compressors : Compressors) :
    Except Fault α := do
  let body ← unwrap bytes compressors
  match codec.decode body with
  | .ok (value, _) => return value
  | .error cause => throw (.malformed cause)

end Frame

end ObjectCourier
