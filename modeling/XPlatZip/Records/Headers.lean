import XPlatZip.Meta

/-!
# file ごとの header

`ZipStream.cpp` の `LocalFileHeader`、`DataDescriptor`、`CentralFileHeader`。
field の並びと validator は source の初期化子の並びそのままで、番号は source の
コメントの番号（`// 9 - file name length` など）に合わせてある。

長さの field（file name length など）の validator は、後ろの可変長 field をその長さに
resize する。`GetFileNameLength() > std::numeric_limits<std::uint16_t>::max()` の検査は
`uint16_t` の値には決して成り立たないが、source の通りに残す。

setter と getter の多くは `StructuredObject.setNat` / `getU16` などの同じ形である。
形の違うものは自分の本体を持つ。

* `CentralFileHeader.setCrc` は 4 byte の field に `uint16_t` を受ける。
* `CentralFileHeader.getExternalFileAttributes` / `setExternalFileAttributes` も 4 byte の
  field を `uint16_t` で読み書きする。`SetValue<std::uint16_t>` が 4 byte の field に書くのは
  下位 2 byte だけで、上位 2 byte は残るとする（`CentralFileHeader.setLow16`）。

この三つの record の constructor は field を一つも書かないので、`new` は作ったばかりの
object そのものである。残っていた値は 0 とする（`StructuredObject.fresh`）。読み出しは前の
状態によらない（`Properties/PriorState.lean`）ので、`new` は読み込む先と、試しに書く header に
だけ使う。
* `CentralFileHeader.setComment` は comment の長さではなく extra field の長さを書く。
* `LocalFileHeader.setFileName` は buffer の写し（`auto data = *...`）を書き換えるので、
  object に残るのは長さだけである。
-/

namespace XPlat

/-! ## `MagicNumbers` と `Signatures` -/

namespace MagicNumbers

def zip64MinimumVersion : Nat := 45

end MagicNumbers

namespace Signatures

def localFileHeader : Nat := 0x04034b50
def centralFileHeader : Nat := 0x02014b50
def zip64EndOfCD : Nat := 0x06064b50
def zip64EndOfCDLocator : Nat := 0x07064b50
def endOfCentralDirectory : Nat := 0x06054b50

end Signatures

/-- `if (v != sig) throw ZipException(message, error);` -/
def Validator.signature (sig : Nat) (message : String) (error : ZipError) : Validator :=
  .check (fun v _ => v.toNat != sig) ⟨message, error⟩

/-! ## LocalFileHeader -/

def LocalFileHeader.layout : List FieldKind :=
  [.bytes4, .bytes2, .bytes2, .bytes2, .bytes2, .bytes2, .bytes4, .bytes4, .bytes4,
    .bytes2, .bytes2, .bytesN, .bytesN]

/-- `class LocalFileHeader`。 -/
structure LocalFileHeader extends StructuredObject LocalFileHeader.layout

namespace LocalFileHeader

def validators : List Validator :=
  [.signature Signatures.localFileHeader "file header does not match signature" .invalidHeader,
    .none, .none, .none, .none, .none, .none, .none, .none,
    .resizes 11 ⟨"file name field exceeds max size", .fieldOutOfRange⟩,
    .resizes 12 ⟨"extra field exceeds max size", .fieldOutOfRange⟩,
    .none, .none]

/-- `LocalFileHeader(StreamBase* stream)`。 -/
def new : LocalFileHeader := ⟨.fresh layout⟩

/-- `Read()`。 -/
def read (h : LocalFileHeader) (s : StreamBase) : Except Exception (LocalFileHeader × StreamBase) :=
  (h.toStructuredObject.read validators s).map fun (o, s) => (⟨o⟩, s)

def getFileNameLength (h : LocalFileHeader) : UInt16 := h.getU16 9
def setFileNameLength (h : LocalFileHeader) (value : UInt16) : LocalFileHeader :=
  ⟨h.setNat 9 value.toNat⟩

def getExtraFieldLength (h : LocalFileHeader) : UInt16 := h.getU16 10
def setExtraFieldLength (h : LocalFileHeader) (value : UInt16) : LocalFileHeader :=
  ⟨h.setNat 10 value.toNat⟩

def getCompressedSize (h : LocalFileHeader) : UInt32 := h.getU32 7
def setCompressedSize (h : LocalFileHeader) (value : UInt32) : LocalFileHeader :=
  ⟨h.setNat 7 value.toNat⟩

def getUncompressedSize (h : LocalFileHeader) : UInt32 := h.getU32 8
def setUncompressedSize (h : LocalFileHeader) (value : UInt32) : LocalFileHeader :=
  ⟨h.setNat 8 value.toNat⟩

def getFileName (h : LocalFileHeader) : List UInt8 := h.getBytes 11

/-- `SetFileName`。resize と assign は写しに対して行われ、捨てられる。 -/
def setFileName (h : LocalFileHeader) (name : List UInt8) : LocalFileHeader :=
  h.setFileNameLength (UInt16.ofNat name.length)

end LocalFileHeader

/-! ## DataDescriptor -/

def DataDescriptor.layout : List FieldKind := [.bytes4, .bytes4, .bytes4]

/-- `class DataDescriptor`。signature は持たない。 -/
structure DataDescriptor extends StructuredObject DataDescriptor.layout

namespace DataDescriptor

def validators : List Validator := [.none, .none, .none]

/-- `DataDescriptor(StreamBase* stream)`。 -/
def new : DataDescriptor := ⟨.fresh layout⟩

/-- `Read()`。 -/
def read (h : DataDescriptor) (s : StreamBase) : Except Exception (DataDescriptor × StreamBase) :=
  (h.toStructuredObject.read validators s).map fun (o, s) => (⟨o⟩, s)

def getCrc32 (h : DataDescriptor) : UInt32 := h.getU32 0
def setCrc32 (h : DataDescriptor) (value : UInt32) : DataDescriptor := ⟨h.setNat 0 value.toNat⟩

def getCompressedSize (h : DataDescriptor) : UInt32 := h.getU32 1
def setCompressedSize (h : DataDescriptor) (value : UInt32) : DataDescriptor :=
  ⟨h.setNat 1 value.toNat⟩

def getUncompressedSize (h : DataDescriptor) : UInt32 := h.getU32 2
def setUncompressedSize (h : DataDescriptor) (value : UInt32) : DataDescriptor :=
  ⟨h.setNat 2 value.toNat⟩

end DataDescriptor

/-! ## CentralFileHeader -/

def CentralFileHeader.layout : List FieldKind :=
  [.bytes4, .bytes2, .bytes2, .bytes2, .bytes2, .bytes2, .bytes2, .bytes4, .bytes4, .bytes4,
    .bytes2, .bytes2, .bytes2, .bytes2, .bytes2, .bytes4, .bytes4, .bytesN, .bytesN, .bytesN]

/-- `class CentralFileHeader`。 -/
structure CentralFileHeader extends StructuredObject CentralFileHeader.layout

namespace CentralFileHeader

def validators : List Validator :=
  [.signature Signatures.centralFileHeader "central file header does not match signature"
      .invalidHeader,
    .none, .none, .none, .none, .none, .none, .none, .none, .none,
    .resizes 17 ⟨"file name exceeds max size", .fieldOutOfRange⟩,
    .resizes 18 ⟨"file name exceeds max size", .fieldOutOfRange⟩,
    .resizes 19 ⟨"file comment exceeds max size", .fieldOutOfRange⟩,
    .none, .none, .none, .none, .none, .none, .none]

/-- `CentralFileHeader(StreamBase* stream)`。 -/
def new : CentralFileHeader := ⟨.fresh layout⟩

/-- `Read()`。 -/
def read (h : CentralFileHeader) (s : StreamBase) :
    Except Exception (CentralFileHeader × StreamBase) :=
  (h.toStructuredObject.read validators s).map fun (o, s) => (⟨o⟩, s)

/--
`SetValue(Field(i), value)` に `std::uint16_t` を渡して 4 byte の field に書く。`ObjectBase.hpp`
は src/ に無く、spec もこの場合を書かない。値の置き場所に `uint16_t` として書くと、little-endian
の先頭 2 byte、つまり下位 16 bit だけが書き換わり、上位 16 bit は前の値のまま残る。そう置く。
-/
def setLow16 (h : CentralFileHeader) (i : Nat) (value : UInt16) : CentralFileHeader :=
  ⟨h.setNat i ((h.field i).toNat / 2 ^ 16 * 2 ^ 16 + value.toNat)⟩

def getSignature (h : CentralFileHeader) : UInt32 := h.getU32 0
def setSignature (h : CentralFileHeader) (value : UInt32) : CentralFileHeader :=
  ⟨h.setNat 0 value.toNat⟩

def getVersionMadeBy (h : CentralFileHeader) : UInt16 := h.getU16 1
def setVersionMadeBy (h : CentralFileHeader) (value : UInt16) : CentralFileHeader :=
  ⟨h.setNat 1 value.toNat⟩

def getVersionNeededToExtract (h : CentralFileHeader) : UInt16 := h.getU16 2
def setVersionNeededToExtract (h : CentralFileHeader) (value : UInt16) : CentralFileHeader :=
  ⟨h.setNat 2 value.toNat⟩

def getGeneralPurposeBitFlag (h : CentralFileHeader) : UInt16 := h.getU16 3
def setGeneralPurposeBitFlag (h : CentralFileHeader) (value : UInt16) : CentralFileHeader :=
  ⟨h.setNat 3 value.toNat⟩

def getCompressionMethod (h : CentralFileHeader) : UInt16 := h.getU16 4
def setCompressionMethod (h : CentralFileHeader) (value : UInt16) : CentralFileHeader :=
  ⟨h.setNat 4 value.toNat⟩

def getLastModFileTime (h : CentralFileHeader) : UInt16 := h.getU16 5
def setLastModFileTime (h : CentralFileHeader) (value : UInt16) : CentralFileHeader :=
  ⟨h.setNat 5 value.toNat⟩

def getLastModFileDate (h : CentralFileHeader) : UInt16 := h.getU16 6
def setLastModFileDate (h : CentralFileHeader) (value : UInt16) : CentralFileHeader :=
  ⟨h.setNat 6 value.toNat⟩

def getCrc32 (h : CentralFileHeader) : UInt32 := h.getU32 7
/-- `SetCrc(std::uint16_t value)`：4 byte の crc-32 の下位 16 bit だけを書く。 -/
def setCrc (h : CentralFileHeader) (value : UInt16) : CentralFileHeader := h.setLow16 7 value

def getCompressedSize (h : CentralFileHeader) : UInt32 := h.getU32 8
def setCompressedSize (h : CentralFileHeader) (value : UInt32) : CentralFileHeader :=
  ⟨h.setNat 8 value.toNat⟩

def getUncompressedSize (h : CentralFileHeader) : UInt32 := h.getU32 9
def setUncompressedSize (h : CentralFileHeader) (value : UInt32) : CentralFileHeader :=
  ⟨h.setNat 9 value.toNat⟩

def getFileNameLength (h : CentralFileHeader) : UInt16 := h.getU16 10
def setFileNameLength (h : CentralFileHeader) (value : UInt16) : CentralFileHeader :=
  ⟨h.setNat 10 value.toNat⟩

def getExtraFieldLength (h : CentralFileHeader) : UInt16 := h.getU16 11
def setExtraFieldLength (h : CentralFileHeader) (value : UInt16) : CentralFileHeader :=
  ⟨h.setNat 11 value.toNat⟩

def getFileCommentLength (h : CentralFileHeader) : UInt16 := h.getU16 12
def setFileCommentLength (h : CentralFileHeader) (value : UInt16) : CentralFileHeader :=
  ⟨h.setNat 12 value.toNat⟩

def getDiskNumberStart (h : CentralFileHeader) : UInt16 := h.getU16 13
def setDiskNumberStart (h : CentralFileHeader) (value : UInt16) : CentralFileHeader :=
  ⟨h.setNat 13 value.toNat⟩

def getInternalFileAttributes (h : CentralFileHeader) : UInt16 := h.getU16 14
def setInternalFileAttributes (h : CentralFileHeader) (value : UInt16) : CentralFileHeader :=
  ⟨h.setNat 14 value.toNat⟩

/-- `GetExternalFileAttributes()`：4 byte の field を `uint16_t` として読む（下位 16 bit）。 -/
def getExternalFileAttributes (h : CentralFileHeader) : UInt16 := h.getU16 15
/-- `SetExternalFileAttributes(std::uint16_t value)`：4 byte の field の下位 16 bit だけを書く。 -/
def setExternalFileAttributes (h : CentralFileHeader) (value : UInt16) : CentralFileHeader :=
  h.setLow16 15 value

def getRelativeOffsetOfLocalHeader (h : CentralFileHeader) : UInt32 := h.getU32 16
def setRelativeOffsetOfLocalHeader (h : CentralFileHeader) (value : UInt32) :
    CentralFileHeader :=
  ⟨h.setNat 16 value.toNat⟩

def getFileName (h : CentralFileHeader) : List UInt8 := h.getBytes 17

/-- `SetFileName`：buffer を `name` にし、file name length を書く。 -/
def setFileName (h : CentralFileHeader) (name : List UInt8) : CentralFileHeader :=
  (⟨h.setBytes 17 name⟩ : CentralFileHeader).setFileNameLength (UInt16.ofNat name.length)

def getExtraField (h : CentralFileHeader) : List UInt8 := h.getBytes 18

/-- `SetExtraField`：buffer を `extra` にし、extra field length を書く。 -/
def setExtraField (h : CentralFileHeader) (extra : List UInt8) : CentralFileHeader :=
  (⟨h.setBytes 18 extra⟩ : CentralFileHeader).setExtraFieldLength (UInt16.ofNat extra.length)

def getComment (h : CentralFileHeader) : List UInt8 := h.getBytes 19

/-- `SetComment`：buffer を `comment` にし、長さを **extra field length** に書く。 -/
def setComment (h : CentralFileHeader) (comment : List UInt8) : CentralFileHeader :=
  (⟨h.setBytes 19 comment⟩ : CentralFileHeader).setExtraFieldLength (UInt16.ofNat comment.length)

end CentralFileHeader

end XPlat
