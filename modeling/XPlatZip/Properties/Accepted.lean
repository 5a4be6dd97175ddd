import XPlatZip.Properties.Archive

/-!
# `ZipStream::Read` が受け入れる archive と、record の書く byte 列

`ZipStream::Read` が受け入れるのは、`Read` が見る三つの場所に、record の `Write()` がその値で
書く byte 列がちょうど並んでいる stream である。

* 最後の 22 byte は、作ったばかりの end of central directory record が書く byte 列
* その前の 20 byte は、relative offset `r` を入れた locator が書く byte 列で、`r ≤ L - 22`
* 位置 `r` には、entries `n`、central directory の大きさ `sz` と offset `o` を setter で入れた
  Zip64 record が書く 56 byte があり、`1 ≤ n`、`sz` と `o` は `[1, L - 42]` にある

Zip64 record は、constructor が書かない field に残っていた値 `stale` で作る。disk index
（field 5）に残っていた値が 0 でなければ、書いた byte 列は `Read` の規則を通らない。

`Read` の規則は、field ごとの little-endian の値の比較である（`Spec/Discovery.lean`）。
field 列を書いた byte 列が stream に並ぶことも、同じ比較の並びに言い換えられる
（`holds_flatMap_write_iff`）。二つを record ごとに突き合わせる。

Zip64 record は、規則が通れば最初の 26 byte が locator より前にあるので、56 byte は file に
収まる（`Properties/Discovery.lean` の `zip64_before_locator_of_rules`）。
-/

namespace XPlat

/-! ## field 列を書いた byte 列 -/

namespace StreamBase

/-- 位置 `p` から、field 列 `fs` の値が順に little-endian で並んでいる。 -/
def FieldsAt (s : StreamBase) : List Field → Nat → Prop
  | [], _ => True
  | .field2Bytes v :: fs, p => s.uintAt p 2 = v.toNat ∧ s.FieldsAt fs (p + 2)
  | .field4Bytes v :: fs, p => s.uintAt p 4 = v.toNat ∧ s.FieldsAt fs (p + 4)
  | .field8Bytes v :: fs, p => s.uintAt p 8 = v.toNat ∧ s.FieldsAt fs (p + 8)
  | .fieldNBytes d :: fs, p => s.slice p d.length = d ∧ s.FieldsAt fs (p + d.length)

/-- `w` byte の little-endian の値が並ぶのは、その `w` byte の値がそれであるときである。 -/
theorem holds_encodeLE_iff (s : StreamBase) {p w n : Nat} (hn : n < 256 ^ w) :
    s.Holds p (encodeLE w n) ↔ p + w ≤ s.length ∧ s.uintAt p w = n := by
  rw [Holds, length_encodeLE]
  refine and_congr_right fun _ => ⟨fun h => ?_, fun h => slice_eq_encodeLE h hn⟩
  rw [uintAt, h, decodeLE_encodeLE, Nat.mod_eq_of_lt hn]

theorem fieldsAt_cons (s : StreamBase) (f : Field) (fs : List Field) (p : Nat) :
    s.FieldsAt (f :: fs) p ↔ s.FieldsAt [f] p ∧ s.FieldsAt fs (p + f.size) := by
  cases f <;> simp [FieldsAt, Field.size]

/-- field 一つを書いた byte 列が並ぶのは、file に収まり、その値が並ぶときである。 -/
theorem holds_write_iff (s : StreamBase) (f : Field) (p : Nat) :
    s.Holds p f.write ↔ p + f.size ≤ s.length ∧ s.FieldsAt [f] p := by
  cases f with
  | field2Bytes v =>
    simpa [FieldsAt] using s.holds_encodeLE_iff (p := p) (v.toNat_lt.trans_eq (by norm_num))
  | field4Bytes v =>
    simpa [FieldsAt] using s.holds_encodeLE_iff (p := p) (v.toNat_lt.trans_eq (by norm_num))
  | field8Bytes v =>
    simpa [FieldsAt] using s.holds_encodeLE_iff (p := p) (v.toNat_lt.trans_eq (by norm_num))
  | fieldNBytes d => simp [Holds, FieldsAt, Field.write, Field.size]

/-- field 列を書いた byte 列が並ぶのは、file に収まり、各 field の値が並ぶときである。 -/
theorem holds_flatMap_write_iff (s : StreamBase) :
    ∀ (fs : List Field) (p : Nat),
      s.Holds p (fs.flatMap Field.write) ↔
        p + (fs.map Field.size).sum ≤ s.length ∧ s.FieldsAt fs p
  | [], p => by simp [Holds, FieldsAt]
  | f :: fs, p => by
    rw [List.flatMap_cons, holds_append, Field.length_write, holds_write_iff,
      holds_flatMap_write_iff s fs, fieldsAt_cons s f fs p, List.map_cons, List.sum_cons]
    constructor
    · rintro ⟨⟨-, h₁⟩, h₂, h₃⟩
      exact ⟨by omega, h₁, h₃⟩
    · rintro ⟨h, h₁, h₃⟩
      exact ⟨⟨by omega, h₁⟩, by omega, h₃⟩

end StreamBase

namespace Discovery

open Zip64Call

/-! ## record ごとの突き合わせ -/

section Records

variable (s : StreamBase) (p : Nat)

/-- end of central directory record の規則が通るのは、作ったばかりの record が書く 22 byte が
並ぶときである。 -/
theorem holds_endRecord_iff :
    s.Holds p EndCentralDirectoryRecord.new.write ↔
      p + 22 ≤ s.length ∧ firstError (endRecordRules s p) = .ok () := by
  rw [StructuredObject.write, EndCentralDirectoryRecord.new_fields,
    StreamBase.holds_flatMap_write_iff]
  simp [StreamBase.FieldsAt, firstError_eq_ok_iff, endRecordRules, Nat.add_assoc, UInt32.size,
    -firstError_rule_cons]

/-- locator の規則が通るのは、そこの relative offset を入れた locator が書く 20 byte が並び、
relative offset が上限以下のときである。 -/
theorem holds_locator_iff (M : UInt64) (maxOffset : Nat) :
    s.Holds p ((Zip64EndOfCentralDirectoryLocator.new M).setRelativeOffset
        (UInt64.ofNat (s.uintAt (p + 8) 8))).write ∧ s.uintAt (p + 8) 8 ≤ maxOffset ↔
      p + 20 ≤ s.length ∧ firstError (locatorRules s p maxOffset) = .ok () := by
  rw [StructuredObject.write, Zip64EndOfCentralDirectoryLocator.setRelativeOffset_fields,
    StreamBase.holds_flatMap_write_iff]
  simp only [StreamBase.FieldsAt, firstError_eq_ok_iff, locatorRules, List.mem_cons,
    List.not_mem_nil, or_false, forall_eq_or_imp, forall_eq, rule_eq_ok, Nat.add_assoc,
    toNat_ofNat_uintAt, Nat.reduceAdd, and_true]
  exact ⟨fun ⟨⟨hL, h₀, h₁, _, h₃⟩, h₂⟩ => ⟨hL, h₀, h₁, h₂, h₃⟩,
    fun ⟨hL, h₀, h₁, h₂, h₃⟩ => ⟨⟨hL, h₀, h₁, trivial, h₃⟩, h₂⟩⟩

/--
残っていた値 `stale` で作り、entries `n`、central directory の大きさ `sz` と offset `o` を
setter で入れた Zip64 record。
-/
def zip64Written (stale : Nat → Nat) (n sz o : UInt64) : Zip64EndOfCentralDirectoryRecord :=
  (((Zip64EndOfCentralDirectoryRecord.construct stale 0).setTotalNumberOfEntries n).setSizeOfCD
    sz).setOffsetfStartOfCD o

theorem zip64Written_fields (stale : Nat → Nat) (n sz o : UInt64) :
    (zip64Written stale n sz o).fields =
      Zip64EndOfCentralDirectoryRecord.zip64Fields (UInt32.ofNat (stale 5)) n sz o :=
  Zip64EndOfCentralDirectoryRecord.applyAll_fields
    [⟨.totalNumberOfEntries, n⟩, ⟨.sizeOfCD, sz⟩, ⟨.offsetfStartOfCD, o⟩]
    (Zip64EndOfCentralDirectoryRecord.construct_fields stale 0)

/-- disk index に残っていた値が 0 なら、Zip64 record の規則が通り 56 byte が収まるのは、そこの値を
setter で入れた record が書く 56 byte が並び、entries が 1 以上、大きさと offset が `[1, M]` に
あるときである。 -/
theorem holds_zip64Written_iff {stale : Nat → Nat} (h5 : stale 5 % 2 ^ 32 = 0) (M : Nat) :
    (∃ n sz o : UInt64, 1 ≤ n.toNat ∧ (1 ≤ sz.toNat ∧ sz.toNat ≤ M) ∧
        (1 ≤ o.toNat ∧ o.toNat ≤ M) ∧ s.Holds p (zip64Written stale n sz o).write) ↔
      p + 56 ≤ s.length ∧ firstError (zip64Rules s p M) = .ok () := by
  replace h5 : (UInt32.ofNat (stale 5)).toNat = 0 := (UInt32.toNat_ofNat_eq _).trans h5
  simp only [StructuredObject.write, zip64Written_fields, StreamBase.holds_flatMap_write_iff,
    zip64Rules_eq_ok, Zip64EndOfCentralDirectoryRecord.zip64Fields, List.map_cons, List.map_nil,
    Field.size_field2Bytes, Field.size_field4Bytes, Field.size_field8Bytes, Field.size_fieldNBytes,
    List.length_nil, List.sum_cons, List.sum_nil, add_zero, Nat.reduceAdd, StreamBase.FieldsAt,
    UInt16.toNat_ofNat, UInt32.toNat_ofNat, UInt64.toNat_ofNat, UInt16.size, Nat.reduceMod,
    Nat.zero_mod, StreamBase.slice_zero, Nat.add_assoc, and_self, and_true, exists_and_left, ne_eq,
    h5]
  constructor
  · rintro ⟨n, hn, sz, hsz, o, ho, hL, h₀, h₁, h₂, h₃, h₄, h₅, h₆, h₇, h₈, h₉⟩
    exact ⟨hL, h₀, h₁, h₂, h₃, h₄, h₅, by omega, by omega, by omega, by omega⟩
  · rintro ⟨hL, h₀, h₁, h₂, h₃, h₄, h₅, h₆, h₇, h₈, h₉⟩
    refine ⟨_, ?_, _, ?_, _, ?_, hL, h₀, h₁, h₂, h₃, h₄, h₅, (toNat_ofNat_uintAt s _).symm,
      ?_, (toNat_ofNat_uintAt s _).symm, (toNat_ofNat_uintAt s _).symm⟩ <;>
      simp only [toNat_ofNat_uintAt] <;> omega

end Records

/-! ## 受け入れられる archive -/

/--
**受け入れられる archive。** disk index に残っていた値が 0 の Zip64 record について、
`ZipStream::Read` が成功するのは、file が 42 byte 以上で、

* 最後の 22 byte が、作ったばかりの end of central directory record の書く byte 列
* その前の 20 byte が、relative offset `r ≤ L - 22` を入れた locator の書く byte 列
* 位置 `r` の 56 byte が、entries `n ≥ 1` と、`[1, L - 42]` にある central directory の
  大きさ `sz` と offset `o` を setter で入れた Zip64 record の書く byte 列

であるときだけである。
-/
theorem read_iff_written (stale : Nat → Nat) (h5 : stale 5 % 2 ^ 32 = 0) (s : StreamBase) :
    ZipStream.read s = .ok () ↔
      42 ≤ s.length ∧ s.Holds (s.length - 22) EndCentralDirectoryRecord.new.write ∧
        s.Holds (s.length - 42) ((Zip64EndOfCentralDirectoryLocator.new 0).setRelativeOffset
          (UInt64.ofNat (relativeOffset s))).write ∧ relativeOffset s ≤ s.length - 22 ∧
        ∃ n sz o : UInt64, 1 ≤ n.toNat ∧ (1 ≤ sz.toNat ∧ sz.toNat ≤ s.length - 42) ∧
          (1 ≤ o.toNat ∧ o.toNat ≤ s.length - 42) ∧
          s.Holds (relativeOffset s) (zip64Written stale n sz o).write := by
  have hloc : 42 ≤ s.length → (s.Holds (s.length - 42) ((Zip64EndOfCentralDirectoryLocator.new 0).setRelativeOffset
        (UInt64.ofNat (relativeOffset s))).write ∧ relativeOffset s ≤ s.length - 22 ↔
      firstError (locatorRules s (s.length - 42) (s.length - 22)) = .ok ()) := fun h42 => by
    have := holds_locator_iff s (s.length - 42) 0 (s.length - 22)
    rw [show s.length - 42 + 8 = s.length - 34 by omega, ← relativeOffset] at this
    rw [this]
    exact ⟨fun h => h.2, fun h => ⟨by omega, h⟩⟩
  rw [read_eq_firstError, firstError_discoveryRules_eq_ok]
  constructor
  · rintro ⟨h22, hE, h42, hLoc, hZ⟩
    have hfit := zip64_before_locator_of_rules hE h42 hLoc hZ
    obtain ⟨hl, hrle⟩ := (hloc h42).mpr hLoc
    exact ⟨h42, (holds_endRecord_iff s _).mpr ⟨by omega, hE⟩, hl, hrle,
      (holds_zip64Written_iff s _ h5 _).mpr ⟨by omega, hZ⟩⟩
  · rintro ⟨h42, hE, hl, hrle, hZ⟩
    exact ⟨by omega, ((holds_endRecord_iff s _).mp hE).2, h42, (hloc h42).mp ⟨hl, hrle⟩,
      ((holds_zip64Written_iff s _ h5 _).mp hZ).2⟩

/-- disk index のほかの field に 7 が残っていた、Zip64 record の初めの値。 -/
def staleExceptDiskIndex : Nat → Nat := fun i => if i = 5 then 0 else 7

/-- `smallArchive` の Zip64 record は、7 が残っていた record に setter で値を入れて書いた byte 列である。 -/
theorem smallArchive_zip64Written :
    ∃ n sz o : UInt64, 1 ≤ n.toNat ∧
      smallArchive.Holds (relativeOffset smallArchive) (zip64Written staleExceptDiskIndex n sz o).write :=
  let ⟨_, _, _, _, n, sz, o, hn, _, _, h⟩ :=
    (read_iff_written staleExceptDiskIndex (by decide) smallArchive).mp read_smallArchive
  ⟨n, sz, o, hn, h⟩

end Discovery

end XPlat
