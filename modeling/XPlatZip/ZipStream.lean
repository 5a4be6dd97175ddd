import XPlatZip.Records.EndRecords

/-!
# `ZipStream::Read`

archive の終わりから三つの record を読む。

1. `END` から `-1 * Size()` だけ戻り、end of central directory record を読む。
2. `END` から二つの record の分だけ戻り、Zip64 locator を読む。`maxOffset` は
   `Ftell() - Size()`、つまり end of central directory record の始まりである。
3. locator の relative offset へ `START` から seek し、Zip64 end of central directory record を
   読む。`maxOffset` は再び `Ftell() - Size()`、つまり locator の始まりである。

`Size()` は `size_t`、`Ftell()` は 64 bit なので、`-1 * Size()` も `Ftell() - Size()` も
`UInt64` の演算として書く。
-/

namespace XPlat

namespace ZipStream

/-- `ZipStream::Read()`。 -/
def read (stream : StreamBase) : Except Exception Unit := do
  let endCentralDirectoryRecord := EndCentralDirectoryRecord.new
  let stream ← stream.seek ((0 - 1) * UInt64.ofNat endCentralDirectoryRecord.size) .END
  let (endCentralDirectoryRecord, stream) ← endCentralDirectoryRecord.read stream
  let zip64Locator := Zip64EndOfCentralDirectoryLocator.new
    (stream.ftell - UInt64.ofNat endCentralDirectoryRecord.size)
  let stream ← stream.seek
    ((0 - 1) * (UInt64.ofNat endCentralDirectoryRecord.size + UInt64.ofNat zip64Locator.size)) .END
  let (zip64Locator, stream) ← zip64Locator.read stream
  let zip64EndOfCentralDirectory := Zip64EndOfCentralDirectoryRecord.new
    (stream.ftell - UInt64.ofNat zip64Locator.size)
  let stream ← stream.seek zip64Locator.getRelativeOffset .START
  let _ ← zip64EndOfCentralDirectory.read stream
  pure ()

end ZipStream

end XPlat
