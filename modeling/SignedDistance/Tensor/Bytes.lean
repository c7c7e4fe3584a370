import SignedDistance.Tensor.Basic

/-!
# Array files

The bytes of an array in a file: a mark, the version of the format, a header that names the kind of
numbers and the shape, and the numbers in order, each with its lowest byte first. The header is
filled up so that the numbers start at a multiple of 64 bytes.
-/

namespace SignedDistance.Tensor

/-- The lowest bytes of a number, lowest first. -/
def lowBytes : Nat → Nat → List UInt8
  | 0, _ => []
  | count + 1, n => UInt8.ofNat (n % 256) :: lowBytes count (n / 256)

/-- A shape in the header, outermost axis first. -/
def shapeText : List Nat → String
  | [n] => "(" ++ toString n ++ ",)"
  | ns => "(" ++ ", ".intercalate (ns.map toString) ++ ")"

/-- The header without its filling. -/
def headerText (axes : Axes) : String :=
  "\x7b'descr': '<f8', 'fortran_order': False, 'shape': " ++ shapeText axes.reverse ++ ", \x7d"

/-- The mark at the start of a file and the version of the format. -/
def fileMark : List UInt8 :=
  [0x93, 0x4e, 0x55, 0x4d, 0x50, 0x59, 1, 0]

/-- The bytes before the numbers. -/
def headerBytes (axes : Axes) : List UInt8 :=
  let header := headerText axes
  let used := fileMark.length + 2 + header.length + 1
  let filling := (64 - used % 64) % 64
  let padded := header ++ "".pushn ' ' filling ++ "\n"
  fileMark ++ lowBytes 2 padded.length ++ padded.toUTF8.toList

/-- The bytes of an array file. -/
def toBytes (t : Tensor Float) : ByteArray :=
  ByteArray.mk
    (headerBytes t.axes ++ t.toList.flatMap fun x => lowBytes 8 x.toBits.toNat).toArray

end SignedDistance.Tensor
