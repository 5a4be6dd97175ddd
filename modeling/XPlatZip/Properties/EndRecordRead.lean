import XPlatZip.Records.EndRecords
import XPlatZip.Spec.Discovery
import XPlatZip.Properties.PriorState

/-!
# archive の終わりの三つの record の読み出し

作ったばかりの record を位置 `p` から読むと、`Spec/Discovery.lean` の規則の列の最初の失敗に
なる。validator はどれも pure なので `readFrom_pure` がそのまま使える。

Zip64 end of central directory record は 56 byte が file に収まるとは限らない。
最初の五つの field（20 byte）で区切り、

* 56 byte が収まれば、規則の列全体の最初の失敗になる（`read_new_of_le`）
* 最初の五つの規則のどれかが破れれば、その例外になる（`read_new_of_prefix_error`）

の二つを示す。五つの規則が通れば record は file に収まる、という議論は
`Properties/Discovery.lean` で行う。

`ZipStream::Read` は constructor が作った record に読み込む。constructor が書かずに残した値は
読み出しに残らない（`read_construct`）ので、ここでは残っていた値を 0 とした `new` から読む。
-/

namespace XPlat

open Discovery

theorem ite_lt_swap {α : Type} {x m : Nat} (e o : α) :
    (if m < x then e else o) = if x ≤ m then o else e := by
  split_ifs <;> first | rfl | omega

theorem ite_range_swap {α : Type} {x m : Nat} (e o : α) :
    (if x = 0 ∨ m < x then e else o) = if 1 ≤ x ∧ x ≤ m then o else e := by
  split_ifs <;> first | rfl | omega

/-! ## EndCentralDirectoryRecord -/

namespace EndCentralDirectoryRecord

theorem new_fields : new.fields =
    [.field4Bytes 0x06054b50, .field2Bytes 0, .field2Bytes 0, .field2Bytes 0xFFFF,
      .field2Bytes 0xFFFF, .field4Bytes 0xFFFFFFFF, .field4Bytes 0xFFFFFFFF, .field2Bytes 0,
      .fieldNBytes []] := rfl

theorem size_new : new.size = 22 := by
  rw [StructuredObject.size_eq, new_fields]; rfl

theorem construct_fields (stale : Nat → Nat) : (construct stale).fields =
    [.field4Bytes 0x06054b50, .field2Bytes 0, .field2Bytes 0, .field2Bytes 0xFFFF,
      .field2Bytes 0xFFFF, .field4Bytes 0xFFFFFFFF, .field4Bytes 0xFFFFFFFF, .field2Bytes 0,
      .fieldNBytes []] := by
  simp [construct, setSignature, setNumberOfDisk, setDiskStart, setTotalNumberOfEntries,
    setTotalEntriesInCentralDirectory, setSizeOfCentralDirectory, setOffsetOfCentralDirectory,
    setCommentLength, StructuredObject.setNat, StructuredObject.modify, StructuredObject.initial,
    FieldKind.initialFields, FieldKind.initial, layout, Field.setNat, Signatures.endOfCentralDirectory]
  decide

/-- constructor は固定幅の field をすべて書くので、残っていた値は record に残らない。 -/
theorem construct_eq_new (stale : Nat → Nat) : construct stale = new :=
  congrArg mk (StructuredObject.ext ((construct_fields stale).trans new_fields.symm))

theorem pureChecks_new (s : StreamBase) (p : Nat) :
    pureChecks s [] validators [] new.fields p = endRecordRules s p ++ [.ok ()] := by
  rw [new_fields]
  simp [pureChecks, validators, Validator.signature, endRecordRules, rule, require,
    Signatures.endOfCentralDirectory, Nat.add_assoc]

/-- 位置 `p` から 22 byte が収まれば、読み出しは `endRecordRules` の最初の失敗である。 -/
theorem read_new (s : StreamBase) (p : Nat) (h : p + 22 ≤ s.length) :
    ∃ h' : EndCentralDirectoryRecord, h'.size = 22 ∧
      new.read { s with position := p } =
        (firstError (endRecordRules s p)).map fun _ => (h', { s with position := p + 22 }) := by
  obtain ⟨o', ho', hread⟩ := StructuredObject.readFrom_pure s [] validators [] new.fields
    new.toStructuredObject p (by simp) rfl rfl (by simpa [new_fields] using h)
  refine ⟨⟨o'⟩, by simp [StructuredObject.size_eq, ho', map_size_decodeFields, new_fields], ?_⟩
  rw [List.length_nil, pureChecks_new, firstError_append_ok] at hread
  simp only [read, StructuredObject.read, hread]
  cases firstError (endRecordRules s p) <;> simp [Except.map, new_fields]

end EndCentralDirectoryRecord

/-! ## Zip64EndOfCentralDirectoryLocator -/

namespace Zip64EndOfCentralDirectoryLocator

@[simp] theorem maxOffset_new (M : UInt64) : (new M).maxOffset = M := rfl

theorem new_fields (M : UInt64) :
    (new M).fields = [.field4Bytes 0x07064b50, .field4Bytes 0, .field8Bytes 0, .field4Bytes 1] :=
  rfl

theorem size_new (M : UInt64) : (new M).size = 20 := by
  rw [StructuredObject.size_eq, new_fields]; rfl

/-- constructor は relative offset を書かないので、そこには残っていた値がある。 -/
theorem construct_fields (stale : Nat → Nat) (M : UInt64) : (construct stale M).fields =
    [.field4Bytes 0x07064b50, .field4Bytes 0, .field8Bytes (UInt64.ofNat (stale 2)),
      .field4Bytes 1] :=
  rfl

@[simp] theorem maxOffset_construct (stale : Nat → Nat) (M : UInt64) :
    (construct stale M).maxOffset = M := rfl

/-- constructor が残した値は、読み出しに残らない。 -/
theorem read_construct (stale : Nat → Nat) (M : UInt64) (s : StreamBase) :
    (construct stale M).read s = (new M).read s := by
  simp only [read, maxOffset_construct, maxOffset_new, StructuredObject.read_eq_of_local
    (validators M) rfl (by simp [validators, Validator.Local, Validator.signature]) []
    (by simp [ReadsAfterResize, validators, Validator.clears, Validator.signature]) (by decide) (construct stale M).toStructuredObject
    (new M).toStructuredObject s]

theorem pureChecks_new (s : StreamBase) (p : Nat) (M : UInt64) :
    pureChecks s [] (validators M) [] (new M).fields p = locatorRules s p M.toNat := by
  rw [new_fields]
  simp [pureChecks, validators, Validator.signature, locatorRules, rule, require,
    Signatures.zip64EndOfCDLocator, Nat.add_assoc, ite_lt_swap]

/--
位置 `p` から 20 byte が収まれば、読み出しは `locatorRules` の最初の失敗である。
読んだ record の relative offset は位置 `p + 8` の 8 byte。
-/
theorem read_new (s : StreamBase) (p : Nat) (M : UInt64) (h : p + 20 ≤ s.length) :
    ∃ h' : Zip64EndOfCentralDirectoryLocator, h'.size = 20 ∧
      h'.getRelativeOffset.toNat = s.uintAt (p + 8) 8 ∧
      (new M).read { s with position := p } =
        (firstError (locatorRules s p M.toNat)).map fun _ => (h', { s with position := p + 20 }) := by
  obtain ⟨o', ho', hread⟩ := StructuredObject.readFrom_pure s [] (validators M) [] (new M).fields
    (new M).toStructuredObject p (by simp) rfl rfl (by simpa [new_fields] using h)
  refine ⟨{ new M with toStructuredObject := o' }, ?_, ?_, ?_⟩
  · simp [StructuredObject.size_eq, ho', map_size_decodeFields, new_fields]
  · simp [getRelativeOffset, StructuredObject.getU64, StructuredObject.field, ho', new_fields,
      Nat.add_assoc, toNat_ofNat_uintAt]
  · rw [List.length_nil, pureChecks_new] at hread
    simp only [read, StructuredObject.read, maxOffset_new, hread]
    cases firstError (locatorRules s p M.toNat) <;> simp [Except.map, new_fields]

end Zip64EndOfCentralDirectoryLocator

/-! ## Zip64EndOfCentralDirectoryRecord -/

namespace Zip64EndOfCentralDirectoryRecord

@[simp] theorem maxOffset_new (M : UInt64) : (new M).maxOffset = M := rfl

/--
disk index `d`、entries `n`、central directory の大きさ `sz` と offset `o` を持つ record の
field 列。
-/
def zip64Fields (d : UInt32) (n sz o : UInt64) : List Field :=
  [.field4Bytes 0x06064b50, .field8Bytes 44, .field2Bytes 45, .field2Bytes 45, .field4Bytes 0,
    .field4Bytes d, .field8Bytes n, .field8Bytes n, .field8Bytes sz, .field8Bytes o,
    .fieldNBytes []]

/-- 書く byte 列は、値によらず 56 byte。 -/
@[simp] theorem size_zip64Fields (d : UInt32) (n sz o : UInt64) :
    ((zip64Fields d n sz o).map Field.size).sum = 56 := by
  simp [zip64Fields]

/--
constructor は size に `Size() - 12 = 44` を書き、5 番（central directory の始まりの disk）、
8 番、9 番には残っていた値がある。
-/
theorem construct_fields (stale : Nat → Nat) (M : UInt64) : (construct stale M).fields =
    zip64Fields (UInt32.ofNat (stale 5)) 0 (UInt64.ofNat (stale 8)) (UInt64.ofNat (stale 9)) := by
  simp [construct, setSignature, setGetSizeOfZip64CDRecord, setVersionMadeBy,
    setVersionNeededToExtract, setNumberOfThisDisk, setTotalNumberOfEntries, StructuredObject.setNat,
    StructuredObject.resize, StructuredObject.modify, StructuredObject.initial, StructuredObject.size,
    FieldKind.initialFields, FieldKind.initial, layout, Field.setNat, Field.resize, zip64Fields]
  decide

@[simp] theorem maxOffset_construct (stale : Nat → Nat) (M : UInt64) :
    (construct stale M).maxOffset = M := rfl

/-- size の validator は object 全体の幅を、entries の validator は読んだ 6 番を見る。 -/
theorem localFrom_validators (M : UInt64) : LocalFrom (validators M) 0 [] := by
  refine ⟨fun _ _ _ _ _ => rfl, fun _ _ _ _ h => by simp only [map_size_eq h],
    fun _ _ _ _ _ => rfl, fun _ _ _ _ _ => rfl, fun _ _ _ _ _ => rfl, fun _ _ _ _ _ => rfl,
    fun _ _ _ _ _ => rfl,
    fun _ _ _ h _ => by simp only [List.getD_eq_getElem?_getD, h 6 (by omega)],
    fun _ _ _ _ _ => rfl, fun _ _ _ _ _ => rfl, fun _ _ _ _ _ => rfl, trivial⟩

/--
constructor が残した値は、読み出しに残らない。作ったばかりの二つの record は、5 番、8 番、
9 番の値だけが違い、幅は揃っている。
-/
theorem read_construct (stale : Nat → Nat) (M : UInt64) (s : StreamBase) :
    (construct stale M).read s = (new M).read s := by
  have hag : StructuredObject.Agree 0 [] (construct stale M).toStructuredObject
      (new M).toStructuredObject :=
    StructuredObject.agree_zero_of_sizes (by rw [construct_fields, new, construct_fields]; rfl)
  simp only [read, maxOffset_construct, maxOffset_new, StructuredObject.read_eq_of_agree
    (validators M) rfl [] (localFrom_validators M) (by simp [ReadsAfterResize, validators, Validator.clears, Validator.signature]) hag s]

/-- constructor は size に `Size() - 12 = 44` を書く。 -/
theorem new_zero_fields : (new 0).fields =
    [.field4Bytes 0x06064b50, .field8Bytes 44, .field2Bytes 45, .field2Bytes 45, .field4Bytes 0,
      .field4Bytes 0, .field8Bytes 0, .field8Bytes 0, .field8Bytes 0, .field8Bytes 0,
      .fieldNBytes []] := by
  decide

theorem new_fields (M : UInt64) : (new M).fields =
    [.field4Bytes 0x06064b50, .field8Bytes 44, .field2Bytes 45, .field2Bytes 45, .field4Bytes 0,
      .field4Bytes 0, .field8Bytes 0, .field8Bytes 0, .field8Bytes 0, .field8Bytes 0,
      .fieldNBytes []] :=
  (rfl : (new M).fields = (new 0).fields).trans new_zero_fields

theorem validators_eq (M : UInt64) :
    validators M = (validators M).take 5 ++ (validators M).drop 5 :=
  (List.take_append_drop 5 _).symm

theorem pureChecks_prefix (s : StreamBase) (p : Nat) (M : UInt64) :
    pureChecks s ((new M).fields.drop 5) ((validators M).take 5) [] ((new M).fields.take 5) p =
      zip64PrefixRules s p := by
  rw [new_fields]
  simp [pureChecks, validators, Validator.signature, zip64PrefixRules, rule, require,
    Signatures.zip64EndOfCD, MagicNumbers.zip64MinimumVersion, Nat.add_assoc, UInt64.size]

theorem pureChecks_tail (s : StreamBase) (p : Nat) (M : UInt64) :
    pureChecks s [] ((validators M).drop 5) (decodeFields s ((new M).fields.take 5) p)
      ((new M).fields.drop 5) (p + 20) = zip64TailRules s p M.toNat ++ [.ok ()] := by
  rw [new_fields]
  simp [pureChecks, validators, zip64TailRules, rule, require, Nat.add_assoc, ite_range_swap]

/-- 最初の五つの field（20 byte）の読み出し。 -/
theorem readFrom_prefix (s : StreamBase) (p : Nat) (M : UInt64) (h : p + 20 ≤ s.length) :
    ∃ o : StructuredObject layout,
      o.fields = decodeFields s ((new M).fields.take 5) p ++ (new M).fields.drop 5 ∧
      StructuredObject.readFrom ((validators M).take 5) 0 (new M).toStructuredObject
          { s with position := p } =
        (firstError (zip64PrefixRules s p)).map fun _ => (o, { s with position := p + 20 }) := by
  obtain ⟨o, ho, hread⟩ := StructuredObject.readFrom_pure s ((new M).fields.drop 5)
    ((validators M).take 5) [] ((new M).fields.take 5) (new M).toStructuredObject p
    (by simp) rfl rfl (by simpa [new_fields] using h)
  refine ⟨o, by simpa using ho, ?_⟩
  rw [List.length_nil, pureChecks_prefix] at hread
  simpa [new_fields] using hread

/-- 最初の五つの規則のどれかが破れれば、読み出しはその例外で終わる。 -/
theorem read_new_of_prefix_error (s : StreamBase) (p : Nat) (M : UInt64) (e : Exception)
    (h : p + 20 ≤ s.length) (he : firstError (zip64PrefixRules s p) = .error e) :
    (new M).read { s with position := p } = .error e := by
  obtain ⟨o, -, hread⟩ := readFrom_prefix s p M h
  simp only [read, StructuredObject.read, maxOffset_new]
  rw [validators_eq, StructuredObject.readFrom_append, hread, he]
  rfl

/-- 位置 `p` から 56 byte が収まれば、読み出しは `zip64Rules` の最初の失敗である。 -/
theorem read_new_of_le (s : StreamBase) (p : Nat) (M : UInt64) (h : p + 56 ≤ s.length) :
    ∃ h' : Zip64EndOfCentralDirectoryRecord,
      (new M).read { s with position := p } =
        (firstError (zip64Rules s p M.toNat)).map fun _ => (h', { s with position := p + 56 }) := by
  obtain ⟨o, ho, hread⟩ := readFrom_prefix s p M (by omega)
  obtain ⟨o', -, hread'⟩ := StructuredObject.readFrom_pure s [] ((validators M).drop 5)
    (decodeFields s ((new M).fields.take 5) p) ((new M).fields.drop 5) o (p + 20)
    (by simpa using ho) rfl rfl (by simp [new_fields]; omega)
  refine ⟨{ new M with toStructuredObject := o' }, ?_⟩
  have hlen : (decodeFields s ((new M).fields.take 5) p).length = 5 := by simp [new_fields]
  rw [hlen, pureChecks_tail, firstError_append_ok] at hread'
  simp only [read, StructuredObject.read, maxOffset_new]
  rw [validators_eq, StructuredObject.readFrom_append, hread, zip64Rules, firstError_append]
  cases firstError (zip64PrefixRules s p)
  · rfl
  · have h5 : min 5 (validators M).length = 5 := rfl
    simp only [Except.map, Except.bind, List.length_take, h5, hread']
    cases firstError (zip64TailRules s p M.toNat) <;> simp [new_fields]

end Zip64EndOfCentralDirectoryRecord

end XPlat
