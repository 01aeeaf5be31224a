import Kestrel.Base.Table
import Kestrel.Storage.CarFormat

/-!
# Building and reading CAR v1 archives

A builder keeps each block once, in the order in which the blocks were first added. A reader keeps
the blocks of an archive under their CIDs.
-/

namespace Kestrel.Car

section Builder

variable {Other : Type} (sha256 : Sha256) (cbor2 : Cbor2 Other)

structure CARBuilder where
  blocks : List (List UInt8 × List UInt8)
  rootCidBytes : Option (List UInt8)
  cidIndex : Table String ℕ

namespace CARBuilder

def empty : CARBuilder := ⟨[], none, .empty⟩

variable (builder : CARBuilder)

def addBlock (codec : ℕ) (data : List UInt8) : Except CarError (CARBuilder × String) := do
  let cidBytes ← buildCidBytes sha256 codec data
  let cid := cidBytesToString cidBytes
  if (builder.cidIndex.row cid).isNone then
    pure ({ builder with
      cidIndex := builder.cidIndex.insert cid builder.blocks.length
      blocks := builder.blocks ++ [(cidBytes, data)] }, cid)
  else pure (builder, cid)

def addRawBlock (data : List UInt8) : Except CarError (CARBuilder × String) :=
  builder.addBlock sha256 codecRaw data

def addDagCborBlock (object : Value Other) : Except CarError (CARBuilder × String) := do
  let cborData ← cbor2.dumps object
  builder.addBlock sha256 codecDagCbor cborData

def externalLink (externalCid refType : String) : Except CarError (Value Other) := do
  let linkCidBytes ← cidStringToBytes externalCid
  pure (.map [(.text "link", makeCidLink linkCidBytes), (.text "type", .text refType)])

def addExternalRef (externalCid refType : String) : Except CarError (CARBuilder × String) := do
  let link ← externalLink externalCid refType
  builder.addDagCborBlock sha256 cbor2 link

def setRoot (cid : String) : Except CarError CARBuilder :=
  if (builder.cidIndex.row cid).isNone then .error (.value ("CID not found in builder: " ++ cid))
  else do
    let root ← cidStringToBytes cid
    pure { builder with rootCidBytes := some root }

def blockBytes (block : List UInt8 × List UInt8) : List UInt8 :=
  carBlockPrefix block.1 block.2.length ++ block.2

def build : Except CarError (List UInt8) :=
  match builder.rootCidBytes with
  | none => .error (.value "Root CID must be set before building")
  | some root =>
    if builder.blocks = [] then .error (.value "No blocks to write")
    else do
      let header ← carHeader cbor2 root
      pure (header ++ builder.blocks.flatMap blockBytes)

end CARBuilder

end Builder

section Reader

variable {Other : Type} (sha256 : Sha256) (cbor2 : Cbor2 Other)

structure CARReader where
  blocks : Table String (List UInt8)
  cidBytesMap : Table String (List UInt8)
  rootCid : String

namespace CARReader

def keepBlock (reader : CARReader) (cidBytes data : List UInt8) : CARReader :=
  { reader with
    blocks := reader.blocks.insert (cidBytesToString cidBytes) data
    cidBytesMap := reader.cidBytesMap.insert (cidBytesToString cidBytes) cidBytes }

/-- The blocks of `_parse`, from an offset on. -/
def readBlocks (carBytes : List UInt8) (offset : ℕ) (reader : CARReader) :
    Except CarError CARReader :=
  if _inside : offset < carBytes.length then
    match _decoded : decodeVarint carBytes offset with
    | .error error => .error error
    | .ok (blockLength, start) =>
      let blockData := slice carBytes start (start + blockLength)
      match parseCidFromBytes blockData 0 with
      | .error error => .error error
      | .ok (cidBytes, cidEnd) =>
        readBlocks carBytes (start + blockLength)
          (reader.keepBlock cidBytes (blockData.drop cidEnd))
  else .ok reader
termination_by carBytes.length - offset
decreasing_by
  have advances := decodeVarint_lt _decoded
  omega

def parse (carBytes : List UInt8) : Except CarError CARReader := do
  let (headerLength, offset) ← decodeVarint carBytes 0
  let header ← cbor2.loads (slice carBytes offset (offset + headerLength))
  let root ← headerRoot cbor2 header
  readBlocks carBytes (offset + headerLength) ⟨.empty, .empty, cidBytesToString root⟩

variable (reader : CARReader)

def getBlock (cid : String) : Option (List UInt8) := reader.blocks.row cid

def listCids : List String := reader.blocks.keys

/-- The check of `verify` on one block. -/
def verifyBlock (cidBytes data : List UInt8) : Except CarError Bool := do
  let (_, offset) ← decodeVarint cidBytes 0
  let (_, offset) ← decodeVarint cidBytes offset
  verifyMultihash sha256 (cidBytes.drop offset) data

/-- `verify` on some of the blocks. -/
def verifyBlocks : List (String × List UInt8) → Except CarError Bool
  | [] => .ok true
  | (cid, data) :: blocks =>
    match reader.cidBytesMap.row cid with
    | none => .error .key
    | some cidBytes => do
      let verified ← verifyBlock sha256 cidBytes data
      if verified then verifyBlocks blocks else pure false

def verify : Except CarError Bool := reader.verifyBlocks sha256 reader.blocks.rows

end CARReader

end Reader

end Kestrel.Car
