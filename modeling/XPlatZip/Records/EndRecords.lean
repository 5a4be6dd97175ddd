import XPlatZip.Records.Headers

/-!
# archive の終わりの三つの record

`Zip64EndOfCentralDirectoryRecord`、`Zip64EndOfCentralDirectoryLocator`、
`EndCentralDirectoryRecord`。前の二つは作るときに `maxOffset` を受け取り、offset と大きさの
field をそれと比べる。

Zip64 end of central directory record の size の validator は `this->Size() - 12` と比べる。
`Size()` は読んでいる最中の object の幅の和で、extensible data sector は空のままなので
56 である。constructor も同じ式で 44 を書く。

constructor（`construct`）は、作ったばかりの field object（`StructuredObject.initial`、残って
いた値 `stale`）に setter を呼ぶ。Zip64 record の constructor は 5 番（central directory の
始まりの disk）、8 番、9 番を書かず、locator の constructor は 2 番（relative offset）を
書かないので、そこには `stale` が残る。end of central directory record の constructor は
固定幅の field をすべて書く。`new` は `stale` をすべて 0 とした constructor で、
`ZipStream::Read` が読み込む先に使う。読み出しは残っていた値によらない
（`Properties/PriorState.lean` の `read_construct`）。
-/

namespace XPlat

/-! ## Zip64EndOfCentralDirectoryRecord -/

def Zip64EndOfCentralDirectoryRecord.layout : List FieldKind :=
  [.bytes4, .bytes8, .bytes2, .bytes2, .bytes4, .bytes4, .bytes8, .bytes8, .bytes8, .bytes8,
    .bytesN]

/-- `class Zip64EndOfCentralDirectoryRecord`。 -/
structure Zip64EndOfCentralDirectoryRecord
    extends StructuredObject Zip64EndOfCentralDirectoryRecord.layout where
  maxOffset : UInt64

namespace Zip64EndOfCentralDirectoryRecord

def validators (maxOffset : UInt64) : List Validator :=
  [.signature Signatures.zip64EndOfCD "end of zip64 central directory does not match signature"
      .invalidHeader,
    .check (fun v fs => v.toNat != (UInt64.ofNat (fs.map Field.size).sum - 12).toNat)
      ⟨"invalid size of zip64 EOCD", .invalidZip64CentralDirectoryRecord⟩,
    .check (fun v _ => v.toNat != MagicNumbers.zip64MinimumVersion)
      ⟨"invalid zip64 EOCD version made by", .invalidZip64CentralDirectoryRecord⟩,
    .check (fun v _ => v.toNat != MagicNumbers.zip64MinimumVersion)
      ⟨"invalid zip64 EOCD version to extract", .invalidZip64CentralDirectoryRecord⟩,
    .check (fun v _ => v.toNat != 0)
      ⟨"invalid disk number", .invalidZip64CentralDirectoryRecord⟩,
    .check (fun v _ => v.toNat != 0)
      ⟨"invalid disk index", .invalidZip64CentralDirectoryRecord⟩,
    .check (fun v _ => v.toNat == 0)
      ⟨"invalid number of entries", .invalidZip64CentralDirectoryRecord⟩,
    .check (fun v fs => v.toNat != (fs.getD 6 default).toNat)
      ⟨"invalid total number of entries", .invalidZip64CentralDirectoryRecord⟩,
    .check (fun v _ => v.toNat == 0 || v.toNat > maxOffset.toNat)
      ⟨"invalid size of central directory", .invalidZip64CentralDirectoryRecord⟩,
    .check (fun v _ => v.toNat == 0 || v.toNat > maxOffset.toNat)
      ⟨"invalid start of central directory", .invalidZip64CentralDirectoryRecord⟩,
    .check (fun v _ => v.size != 0)
      ⟨"unsupported extensible data", .invalidZip64CentralDirectoryRecord⟩]

def getTotalNumberOfEntries (h : Zip64EndOfCentralDirectoryRecord) : UInt64 := h.getU64 6

/-- `SetTotalNumberOfEntries`：この disk の数と全体の数の両方に書く。 -/
def setTotalNumberOfEntries (h : Zip64EndOfCentralDirectoryRecord) (value : UInt64) :
    Zip64EndOfCentralDirectoryRecord :=
  { h with toStructuredObject := (h.setNat 6 value.toNat).setNat 7 value.toNat }

def getSizeOfCD (h : Zip64EndOfCentralDirectoryRecord) : UInt64 := h.getU64 8
def setSizeOfCD (h : Zip64EndOfCentralDirectoryRecord) (value : UInt64) :
    Zip64EndOfCentralDirectoryRecord :=
  { h with toStructuredObject := h.setNat 8 value.toNat }

def getOffsetfStartOfCD (h : Zip64EndOfCentralDirectoryRecord) : UInt64 := h.getU64 9
def setOffsetfStartOfCD (h : Zip64EndOfCentralDirectoryRecord) (value : UInt64) :
    Zip64EndOfCentralDirectoryRecord :=
  { h with toStructuredObject := h.setNat 9 value.toNat }

def setSignature (h : Zip64EndOfCentralDirectoryRecord) (value : UInt32) :
    Zip64EndOfCentralDirectoryRecord :=
  { h with toStructuredObject := h.setNat 0 value.toNat }

def setGetSizeOfZip64CDRecord (h : Zip64EndOfCentralDirectoryRecord) (value : UInt64) :
    Zip64EndOfCentralDirectoryRecord :=
  { h with toStructuredObject := h.setNat 1 value.toNat }

def setVersionMadeBy (h : Zip64EndOfCentralDirectoryRecord) (value : UInt16) :
    Zip64EndOfCentralDirectoryRecord :=
  { h with toStructuredObject := h.setNat 2 value.toNat }

def setVersionNeededToExtract (h : Zip64EndOfCentralDirectoryRecord) (value : UInt16) :
    Zip64EndOfCentralDirectoryRecord :=
  { h with toStructuredObject := h.setNat 3 value.toNat }

def setNumberOfThisDisk (h : Zip64EndOfCentralDirectoryRecord) (value : UInt32) :
    Zip64EndOfCentralDirectoryRecord :=
  { h with toStructuredObject := h.setNat 4 value.toNat }

/--
`Zip64EndOfCentralDirectoryRecord(StreamBase* stream, std::uint64_t maxOffset)`。5 番、8 番、
9 番の field には、作る前の値 `stale` が残る。
-/
def construct (stale : Nat → Nat) (maxOffset : UInt64) : Zip64EndOfCentralDirectoryRecord :=
  let h : Zip64EndOfCentralDirectoryRecord :=
    { toStructuredObject := .initial layout stale, maxOffset }
  let h := h.setSignature (UInt32.ofNat Signatures.zip64EndOfCD)
  let h := h.setGetSizeOfZip64CDRecord (UInt64.ofNat h.size - 12)
  let h := h.setVersionMadeBy (UInt16.ofNat MagicNumbers.zip64MinimumVersion)
  let h := h.setVersionNeededToExtract (UInt16.ofNat MagicNumbers.zip64MinimumVersion)
  let h := h.setNumberOfThisDisk 0
  let h := h.setTotalNumberOfEntries 0
  { h with toStructuredObject := h.resize 10 0 }

/-- 残っていた値をすべて 0 とした constructor。 -/
def new (maxOffset : UInt64) : Zip64EndOfCentralDirectoryRecord := construct (fun _ => 0) maxOffset

/-- `Read()`。 -/
def read (h : Zip64EndOfCentralDirectoryRecord) (s : StreamBase) :
    Except Exception (Zip64EndOfCentralDirectoryRecord × StreamBase) :=
  (h.toStructuredObject.read (validators h.maxOffset) s).map
    fun (o, s) => ({ h with toStructuredObject := o }, s)

end Zip64EndOfCentralDirectoryRecord

/-! ## Zip64EndOfCentralDirectoryLocator -/

def Zip64EndOfCentralDirectoryLocator.layout : List FieldKind := [.bytes4, .bytes4, .bytes8, .bytes4]

/-- `class Zip64EndOfCentralDirectoryLocator`。 -/
structure Zip64EndOfCentralDirectoryLocator
    extends StructuredObject Zip64EndOfCentralDirectoryLocator.layout where
  maxOffset : UInt64

namespace Zip64EndOfCentralDirectoryLocator

def validators (maxOffset : UInt64) : List Validator :=
  [.signature Signatures.zip64EndOfCDLocator
      "end of central directory locator does not match signature" .invalidHeader,
    .check (fun v _ => v.toNat != 0)
      ⟨"Invalid disk number", .invalidZip64CentralDirectoryLocator⟩,
    .check (fun v _ => v.toNat > maxOffset.toNat)
      ⟨"Invalid relative offset", .invalidZip64CentralDirectoryLocator⟩,
    .check (fun v _ => v.toNat != 1)
      ⟨"Invalid total number of disks", .invalidZip64CentralDirectoryLocator⟩]

def getRelativeOffset (h : Zip64EndOfCentralDirectoryLocator) : UInt64 := h.getU64 2
def setRelativeOffset (h : Zip64EndOfCentralDirectoryLocator) (value : UInt64) :
    Zip64EndOfCentralDirectoryLocator :=
  { h with toStructuredObject := h.setNat 2 value.toNat }

def setSignature (h : Zip64EndOfCentralDirectoryLocator) (value : UInt32) :
    Zip64EndOfCentralDirectoryLocator :=
  { h with toStructuredObject := h.setNat 0 value.toNat }

def setNumberOfDisk (h : Zip64EndOfCentralDirectoryLocator) (value : UInt32) :
    Zip64EndOfCentralDirectoryLocator :=
  { h with toStructuredObject := h.setNat 1 value.toNat }

def setTotalNumberOfDisks (h : Zip64EndOfCentralDirectoryLocator) (value : UInt32) :
    Zip64EndOfCentralDirectoryLocator :=
  { h with toStructuredObject := h.setNat 3 value.toNat }

/--
`Zip64EndOfCentralDirectoryLocator(StreamBase* stream, std::uint64_t maxOffset)`。2 番の
field（relative offset）には、作る前の値 `stale` が残る。
-/
def construct (stale : Nat → Nat) (maxOffset : UInt64) : Zip64EndOfCentralDirectoryLocator :=
  let h : Zip64EndOfCentralDirectoryLocator :=
    { toStructuredObject := .initial layout stale, maxOffset }
  let h := h.setSignature (UInt32.ofNat Signatures.zip64EndOfCDLocator)
  let h := h.setNumberOfDisk 0
  h.setTotalNumberOfDisks 1

/-- 残っていた値をすべて 0 とした constructor。 -/
def new (maxOffset : UInt64) : Zip64EndOfCentralDirectoryLocator := construct (fun _ => 0) maxOffset

/-- `Read()`。 -/
def read (h : Zip64EndOfCentralDirectoryLocator) (s : StreamBase) :
    Except Exception (Zip64EndOfCentralDirectoryLocator × StreamBase) :=
  (h.toStructuredObject.read (validators h.maxOffset) s).map
    fun (o, s) => ({ h with toStructuredObject := o }, s)

end Zip64EndOfCentralDirectoryLocator

/-! ## EndCentralDirectoryRecord -/

def EndCentralDirectoryRecord.layout : List FieldKind :=
  [.bytes4, .bytes2, .bytes2, .bytes2, .bytes2, .bytes4, .bytes4, .bytes2, .bytesN]

/-- `class EndCentralDirectoryRecord`。 -/
structure EndCentralDirectoryRecord extends StructuredObject EndCentralDirectoryRecord.layout

namespace EndCentralDirectoryRecord

def validators : List Validator :=
  [.signature Signatures.endOfCentralDirectory "invalid signiture"
      .invalidEndOfCentralDirectoryRecord,
    .check (fun v _ => v.toNat != 0)
      ⟨"unsupported disk number", .invalidEndOfCentralDirectoryRecord⟩,
    .check (fun v _ => v.toNat != 0)
      ⟨"unsupported EoCDR disk number", .invalidEndOfCentralDirectoryRecord⟩,
    .check (fun v _ => v.toNat != 0xFFFF)
      ⟨"unsupported total number of entries on this disk", .invalidEndOfCentralDirectoryRecord⟩,
    .check (fun v _ => v.toNat != 0xFFFF)
      ⟨"unsupported total number of entries", .invalidEndOfCentralDirectoryRecord⟩,
    .check (fun v _ => v.toNat != 0xFFFFFFFF)
      ⟨"unsupported size of central directory", .invalidEndOfCentralDirectoryRecord⟩,
    .check (fun v _ => v.toNat != 0xFFFFFFFF)
      ⟨"unsupported offset of start of central directory", .invalidEndOfCentralDirectoryRecord⟩,
    .check (fun v _ => v.toNat != 0)
      ⟨"Zip comment unsupported", .invalidEndOfCentralDirectoryRecord⟩,
    .check (fun v _ => v.size != 0)
      ⟨"Zip comment unsupported", .invalidEndOfCentralDirectoryRecord⟩]

def setSignature (h : EndCentralDirectoryRecord) (value : UInt32) : EndCentralDirectoryRecord :=
  ⟨h.setNat 0 value.toNat⟩
def setNumberOfDisk (h : EndCentralDirectoryRecord) (value : UInt16) : EndCentralDirectoryRecord :=
  ⟨h.setNat 1 value.toNat⟩
def setDiskStart (h : EndCentralDirectoryRecord) (value : UInt16) : EndCentralDirectoryRecord :=
  ⟨h.setNat 2 value.toNat⟩
def setTotalNumberOfEntries (h : EndCentralDirectoryRecord) (value : UInt16) :
    EndCentralDirectoryRecord :=
  ⟨h.setNat 3 value.toNat⟩
def setTotalEntriesInCentralDirectory (h : EndCentralDirectoryRecord) (value : UInt16) :
    EndCentralDirectoryRecord :=
  ⟨h.setNat 4 value.toNat⟩
def setSizeOfCentralDirectory (h : EndCentralDirectoryRecord) (value : UInt32) :
    EndCentralDirectoryRecord :=
  ⟨h.setNat 5 value.toNat⟩
def setOffsetOfCentralDirectory (h : EndCentralDirectoryRecord) (value : UInt32) :
    EndCentralDirectoryRecord :=
  ⟨h.setNat 6 value.toNat⟩
def setCommentLength (h : EndCentralDirectoryRecord) (value : UInt16) :
    EndCentralDirectoryRecord :=
  ⟨h.setNat 7 value.toNat⟩

/-- `EndCentralDirectoryRecord(StreamBase* stream)`。固定幅の field をすべて書く。 -/
def construct (stale : Nat → Nat) : EndCentralDirectoryRecord :=
  let h : EndCentralDirectoryRecord := ⟨.initial layout stale⟩
  let h := h.setSignature (UInt32.ofNat Signatures.endOfCentralDirectory)
  let h := h.setNumberOfDisk 0
  let h := h.setDiskStart 0
  let h := h.setTotalNumberOfEntries 0xFFFF
  let h := h.setTotalEntriesInCentralDirectory 0xFFFF
  let h := h.setSizeOfCentralDirectory 0xFFFFFFFF
  let h := h.setOffsetOfCentralDirectory 0xFFFFFFFF
  h.setCommentLength 0

/-- 残っていた値をすべて 0 とした constructor。 -/
def new : EndCentralDirectoryRecord := construct fun _ => 0

/-- `Read()`。 -/
def read (h : EndCentralDirectoryRecord) (s : StreamBase) :
    Except Exception (EndCentralDirectoryRecord × StreamBase) :=
  (h.toStructuredObject.read validators s).map fun (o, s) => (⟨o⟩, s)

end EndCentralDirectoryRecord

end XPlat
