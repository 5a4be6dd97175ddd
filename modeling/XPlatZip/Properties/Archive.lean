import XPlatZip.Properties.Discovery
import XPlatZip.Properties.RoundTrip
import XPlatZip.Properties.HeaderWrite

/-!
# 書いた archive の読み出し

archive の終わりの三つの record を `Write()` で書いて並べた byte 列を、`ZipStream::Read` が
受け入れるかどうか。

`pre` の後に、公開 setter を呼んだ Zip64 end of central directory record、relative offset を
`pre` の長さにした locator、作ったばかりの end of central directory record を書く。`Read` の
三つの段は、それぞれ書いた record を読み戻す（`Properties/RoundTrip.lean`）。ただし
`maxOffset` は record を作ったときの値ではなく、`Read` が計算する `L - 22` と `L - 42` である。
書く byte は作ったときの `maxOffset` によらない。

Zip64 record は、constructor が書かない field に残っていた値 `stale` で作る。locator と end of
central directory record が書く byte は `stale` によらない（`setRelativeOffset_construct`、
`construct_eq_new`）ので、作ったばかりの record として書く。

* `writtenArchive_layout` — 三つの record は `pre.length`、`L - 42`、`L - 22` に並び、`Read` が
  見る relative offset、central directory の大きさと offset は書いた値である
* `read_writtenArchive` — 読み出しが成功するのは、Zip64 record の disk index に残っていた値が 0 で、
  entries が 1 以上、central directory の大きさと offset が `[1, L - 42]` にあるときだけである
-/

namespace XPlat

namespace Discovery

open Zip64Call

/-- 読み出しが規則の列の結果を写したものなら、成功するのは規則がすべて通るときである。 -/
theorem firstError_eq_ok_of_read {α : Type} {rs : List (Except Exception Unit)} {f : Unit → α}
    {x : Except Exception α} {P : Prop} (hx : x = (firstError rs).map f)
    (hP : (∃ r, x = .ok r) ↔ P) : firstError rs = .ok () ↔ P := by
  rw [← hP, hx]
  cases firstError rs <;> simp [Except.map]

/-! ## 書いた byte 列 -/

section Writes

variable (stale : Nat → Nat) (calls : List Zip64Call) (M : UInt64)

theorem write_applyAll_construct (M' : UInt64) :
    (applyAll calls (Zip64EndOfCentralDirectoryRecord.construct stale M)).write =
      (applyAll calls (Zip64EndOfCentralDirectoryRecord.construct stale M')).write := by
  simp only [StructuredObject.write, Zip64EndOfCentralDirectoryRecord.applyAll_fields calls
    (Zip64EndOfCentralDirectoryRecord.construct_fields stale _)]

theorem write_setRelativeOffset_new (r M' : UInt64) :
    ((Zip64EndOfCentralDirectoryLocator.new M).setRelativeOffset r).write =
      ((Zip64EndOfCentralDirectoryLocator.new M').setRelativeOffset r).write := by
  simp only [StructuredObject.write, Zip64EndOfCentralDirectoryLocator.setRelativeOffset_fields]

theorem length_write_applyAll_construct :
    (applyAll calls (Zip64EndOfCentralDirectoryRecord.construct stale M)).write.length = 56 := by
  rw [StructuredObject.length_write, StructuredObject.size_eq,
    Zip64EndOfCentralDirectoryRecord.applyAll_fields calls
      (Zip64EndOfCentralDirectoryRecord.construct_fields stale M),
    Zip64EndOfCentralDirectoryRecord.size_zip64Fields]

theorem length_write_setRelativeOffset_new (r : UInt64) :
    ((Zip64EndOfCentralDirectoryLocator.new M).setRelativeOffset r).write.length = 20 := by
  rw [StructuredObject.length_write, StructuredObject.size_eq,
    Zip64EndOfCentralDirectoryLocator.setRelativeOffset_fields]
  rfl

end Writes

/--
`pre` の後に、残っていた値 `stale` で作って `calls` を呼んだ Zip64 record、relative offset を
`pre` の長さにした locator、作ったばかりの end of central directory record を書いた byte 列。
record はどれも `maxOffset` `M` で作る。
-/
def writtenArchive (stale : Nat → Nat) (M : UInt64) (calls : List Zip64Call) (pre : List UInt8) :
    List UInt8 :=
  pre ++ (applyAll calls (Zip64EndOfCentralDirectoryRecord.construct stale M)).write ++
    ((Zip64EndOfCentralDirectoryLocator.new M).setRelativeOffset (UInt64.ofNat pre.length)).write ++
    EndCentralDirectoryRecord.new.write

theorem length_writtenArchive (stale : Nat → Nat) (M : UInt64) (calls : List Zip64Call)
    (pre : List UInt8) : (writtenArchive stale M calls pre).length = pre.length + 98 := by
  rw [writtenArchive, List.length_append, List.length_append, List.length_append,
    length_write_applyAll_construct, length_write_setRelativeOffset_new, StructuredObject.length_write,
    EndCentralDirectoryRecord.size_new]

/-! ## 三つの record の位置 -/

section Archive

variable {stale : Nat → Nat} {M : UInt64} {calls : List Zip64Call} {pre : List UInt8}
  (h : (writtenArchive stale M calls pre).length < 2 ^ 64)

/-- 三つの record は `pre.length`、`L - 42`、`L - 22` に並ぶ。 -/
theorem holds_writtenArchive :
    let s := StreamBase.ofBytes (writtenArchive stale M calls pre) h
    s.length = pre.length + 98 ∧
      s.Holds pre.length (applyAll calls (Zip64EndOfCentralDirectoryRecord.construct stale M)).write ∧
      s.Holds (s.length - 42)
        ((Zip64EndOfCentralDirectoryLocator.new M).setRelativeOffset (UInt64.ofNat pre.length)).write ∧
      s.Holds (s.length - 22) EndCentralDirectoryRecord.new.write := by
  intro s
  have hL : s.length = pre.length + 98 := length_writtenArchive stale M calls pre
  have hall := StreamBase.holds_ofBytes _ h
  simp only [writtenArchive, StreamBase.holds_append, List.length_append, Nat.zero_add,
    length_write_applyAll_construct, length_write_setRelativeOffset_new] at hall
  obtain ⟨⟨⟨-, hz⟩, hl⟩, he⟩ := hall
  exact ⟨hL, hz, by rwa [hL], by rwa [hL]⟩

variable {n sz o : UInt64}

/--
`Read` が見る relative offset は `pre` の長さ、central directory の大きさと offset は
`calls` の最後の引数である。
-/
theorem writtenArchive_layout (hsz : lastValue .sizeOfCD calls = some sz)
    (ho : lastValue .offsetfStartOfCD calls = some o) :
    let s := StreamBase.ofBytes (writtenArchive stale M calls pre) h
    relativeOffset s = pre.length ∧ sizeOfCD s = sz.toNat ∧ offsetOfCD s = o.toNat := by
  intro s
  obtain ⟨hL, hz, hl, -⟩ := holds_writtenArchive h
  have hlt : pre.length + 98 < 2 ^ 64 := hL ▸ s.length_lt
  have hf := Zip64EndOfCentralDirectoryRecord.applyAll_fields calls
    (Zip64EndOfCentralDirectoryRecord.construct_fields stale M)
  rw [hsz, ho] at hf
  have hr : relativeOffset s = pre.length := by
    have := StructuredObject.uintAt_of_holds _ hl (i := 2) (by decide) (by decide)
    rw [StructuredObject.field, Zip64EndOfCentralDirectoryLocator.setRelativeOffset_fields] at this
    change s.uintAt (s.length - 42 + 8) 8 = (UInt64.ofNat pre.length).toNat at this
    rw [relativeOffset, show s.length - 34 = s.length - 42 + 8 by rw [hL]; omega, this,
      UInt64.toNat_ofNat_eq, Nat.mod_eq_of_lt (by omega)]
  have h8 := StructuredObject.uintAt_of_holds _ hz (i := 8) (by decide) (by decide)
  have h9 := StructuredObject.uintAt_of_holds _ hz (i := 9) (by decide) (by decide)
  simp only [StructuredObject.field, hf, Zip64EndOfCentralDirectoryRecord.zip64Fields, List.take,
    List.map, List.sum_cons, List.sum_nil, List.getD_cons_succ, List.getD_cons_zero,
    Field.size_field8Bytes, Field.size_field4Bytes, Field.size_field2Bytes,
    Field.toNat_field8Bytes] at h8 h9
  exact ⟨hr, by rw [sizeOfCD, hr]; exact h8, by rw [offsetOfCD, hr]; exact h9⟩

/-! ## 読み出し -/

/--
**書いた archive の読み出し。** `pre` の後に三つの record を書いた archive を `Read` が受け入れる
のは、Zip64 record の disk index に残っていた値が 0 で、entries が 1 以上、central directory の
大きさと offset が `[1, L - 42]`（`L - 42 = pre.length + 56`）にあるときだけである。`Read` が見る relative offset は
`pre` の長さ、大きさと offset は書いた値である。
-/
theorem read_writtenArchive (hn : lastValue .totalNumberOfEntries calls = some n)
    (hsz : lastValue .sizeOfCD calls = some sz) (ho : lastValue .offsetfStartOfCD calls = some o) :
    let s := StreamBase.ofBytes (writtenArchive stale M calls pre) h
    (ZipStream.read s = .ok () ↔
      stale 5 % 2 ^ 32 = 0 ∧ 1 ≤ n.toNat ∧ (1 ≤ sz.toNat ∧ sz.toNat ≤ pre.length + 56) ∧
        (1 ≤ o.toNat ∧ o.toNat ≤ pre.length + 56)) ∧
      relativeOffset s = pre.length ∧ sizeOfCD s = sz.toNat ∧ offsetOfCD s = o.toNat := by
  intro s
  obtain ⟨hL, hz, hl, he⟩ : s.length = pre.length + 98 ∧ s.Holds pre.length _ ∧
    s.Holds (s.length - 42) _ ∧ s.Holds (s.length - 22) _ := holds_writtenArchive h
  obtain ⟨hr, hsize, hoff⟩ : relativeOffset s = pre.length ∧ _ := writtenArchive_layout h hsz ho
  have hlt := s.length_lt
  have hofNat : ∀ k, k ≤ s.length → (UInt64.ofNat k).toNat = k := fun k hk => by
    rw [UInt64.toNat_ofNat_eq, Nat.mod_eq_of_lt (by omega)]
  -- end of central directory record
  have hE : firstError (endRecordRules s (s.length - 22)) = .ok () := by
    obtain ⟨_, -, hread⟩ := EndCentralDirectoryRecord.read_new s (s.length - 22) (by omega)
    exact (firstError_eq_ok_of_read hread
      (iff_true_intro ⟨_, EndCentralDirectoryRecord.read_new_write he⟩)).mpr trivial
  -- locator
  have hLoc : firstError (locatorRules s (s.length - 42) (s.length - 22)) = .ok () := by
    obtain ⟨_, -, -, hread⟩ := Zip64EndOfCentralDirectoryLocator.read_new s (s.length - 42)
      (UInt64.ofNat (s.length - 22)) (by omega)
    rw [write_setRelativeOffset_new M _ (UInt64.ofNat (s.length - 22))] at hl
    have hiff := (Zip64EndOfCentralDirectoryLocator.read_setRelativeOffset _ _ hl).1
    rw [hofNat _ (Nat.sub_le _ _)] at hread hiff
    exact (firstError_eq_ok_of_read hread hiff).mpr (by rw [hofNat _ (by omega)]; omega)
  -- Zip64 end of central directory record
  have hZ : firstError (zip64Rules s (relativeOffset s) (s.length - 42)) = .ok () ↔
      stale 5 % 2 ^ 32 = 0 ∧ 1 ≤ n.toNat ∧ (1 ≤ sz.toNat ∧ sz.toNat ≤ pre.length + 56) ∧
        (1 ≤ o.toNat ∧ o.toNat ≤ pre.length + 56) := by
    obtain ⟨_, hread⟩ := Zip64EndOfCentralDirectoryRecord.read_new_of_le s pre.length
      (UInt64.ofNat (s.length - 42)) (by omega)
    rw [write_applyAll_construct stale calls M (UInt64.ofNat (s.length - 42))] at hz
    have hiff := (Zip64EndOfCentralDirectoryRecord.read_applyAll _ stale calls hn hsz ho hz).1
    rw [hofNat _ (Nat.sub_le _ _), show s.length - 42 = pre.length + 56 by omega] at hread hiff
    rw [hr, show s.length - 42 = pre.length + 56 by omega]
    exact firstError_eq_ok_of_read hread hiff
  refine ⟨?_, hr, hsize, hoff⟩
  rw [read_eq_firstError, firstError_discoveryRules_eq_ok, ← hZ]
  exact ⟨fun h => h.2.2.2.2, fun h => ⟨by omega, hE, by omega, hLoc, h⟩⟩

end Archive

/--
残っていた値が 0 の Zip64 record に entries、大きさ、offset を 1 と書いた、98 byte の archive
は読める。
-/
theorem sampleArchive_read :
    ZipStream.read (.ofBytes (writtenArchive (fun _ => 0) 0 sampleZip64Calls []) (by decide)) =
      .ok () :=
  (@read_writtenArchive (fun _ => 0) 0 sampleZip64Calls [] (by decide) 1 1 1 rfl rfl rfl).1.mpr
    (by decide)

end Discovery

end XPlat
