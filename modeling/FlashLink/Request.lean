/-
The payloads of requests.

Opening a partition names it, in a field of thirty-six 16-bit units
padded with zeros, and gives a size: seventy-six bytes, little-endian.
Reading a window gives size and offset, little-endian. Loading an image
to an address gives address and size, big-endian: it is the boot ROM's
older form.

Each layout has `toBytes` and `ofBytes`. Reading ignores what follows
the layout, and a name ends at its first zero unit.
-/
import FlashLink.Failure
import FlashLink.Text.Utf16
import FlashLink.Word

namespace FlashLink

-- ==================================================== naming a partition

/-- Opens a partition: its name, and the size to expect. -/
structure PartitionRequest where
  name : String
  size : UInt32
  deriving DecidableEq, Repr

namespace PartitionRequest

/-- The units a name field holds. -/
def nameUnits : Nat := 36

/-- The bytes of the layout. -/
def byteSize : Nat := 2 * nameUnits + 4

/-- The request, unless the name is empty or does not fit its field. -/
def make (name : String) (size : UInt32) : Except RequestFailure PartitionRequest :=
  if name.toList = [] then .error .emptyName
  else if nameUnits < (Utf16.units name.toList).length then
    .error (.nameTooLong name nameUnits)
  else .ok { name, size }

/-- The name field: the units of a name, cut off or padded with zeros to
the size of the field. No name that `make` admits is cut off. -/
def nameField (name : String) : Bytes :=
  (((Utf16.units name.toList).flatMap Word.le16).take (2 * nameUnits)).rightpad (2 * nameUnits) 0

/-- The layout of a request. -/
def toBytes (r : PartitionRequest) : Bytes :=
  nameField r.name ++ Word.le32 r.size

/-- The little-endian units of a byte list. -/
def unitsOf : Bytes → List UInt16
  | lo :: hi :: rest => Word.ofBytes16 hi lo :: unitsOf rest
  | _ => []

/-- The request a payload begins with. -/
def ofBytes (data : Bytes) : Except RequestFailure PartitionRequest :=
  match data.drop (2 * nameUnits) with
  | a :: b :: c :: d :: _ =>
    let units := (unitsOf (data.take (2 * nameUnits))).takeWhile (· != 0)
    .ok { name := String.ofList (Utf16.lossy units), size := Word.ofBytes32 d c b a }
  | _ => .error (.bufferTooSmall byteSize data.length)

end PartitionRequest

-- ====================================================== reading a window

/-- Asks for `size` bytes at `offset` of the open partition. -/
structure ReadRequest where
  size : UInt32
  offset : UInt32
  deriving DecidableEq, Repr, Inhabited

namespace ReadRequest

/-- The bytes of the layout. -/
def byteSize : Nat := 8

/-- The layout of a request. -/
def toBytes (r : ReadRequest) : Bytes := Word.le32 r.size ++ Word.le32 r.offset

/-- The request a payload begins with. -/
def ofBytes : Bytes → Except RequestFailure ReadRequest
  | a :: b :: c :: d :: e :: f :: g :: h :: _ =>
    .ok { size := Word.ofBytes32 d c b a, offset := Word.ofBytes32 h g f e }
  | data => .error (.bufferTooSmall byteSize data.length)

end ReadRequest

-- ====================================================== loading an image

/-- Announces `size` bytes for the memory at `address`. -/
structure LoadRequest where
  address : UInt32
  size : UInt32
  deriving DecidableEq, Repr, Inhabited

namespace LoadRequest

/-- The bytes of the layout. -/
def byteSize : Nat := 8

/-- The layout of a request. -/
def toBytes (r : LoadRequest) : Bytes := Word.be32 r.address ++ Word.be32 r.size

/-- The request a payload begins with. -/
def ofBytes : Bytes → Except RequestFailure LoadRequest
  | a :: b :: c :: d :: e :: f :: g :: h :: _ =>
    .ok { address := Word.ofBytes32 a b c d, size := Word.ofBytes32 e f g h }
  | data => .error (.bufferTooSmall byteSize data.length)

end LoadRequest

end FlashLink
