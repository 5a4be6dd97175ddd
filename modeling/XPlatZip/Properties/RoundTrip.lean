import XPlatZip.Properties.EndRecordRead

/-!
# 書いた record を読み戻す

record を `Write()` で書き、同じ種類の新しい record で読み戻す。validator がすべて pure なら、
読み戻しは「書いた値に validator を当てた検査の列」の最初の失敗で、通れば書いた record
そのものが戻る（`StructuredObject.read_of_holds`）。

* `Zip64EndOfCentralDirectoryRecord.read_applyAll` — 公開 setter をどの順に何回呼んでも、
  読み戻しは最後の引数と、constructor が書かずに残した 5 番（central directory の始まりの
  disk）の値だけで決まる。残っていた値が 0 でなければ、読み戻しは "invalid disk index" で
  失敗する
* `Zip64EndOfCentralDirectoryLocator.read_setRelativeOffset` — relative offset が `maxOffset`
  以下なら読み戻せる
* `EndCentralDirectoryRecord.read_new_write` — 作ったばかりの record は読み戻せる

constructor の残した値は、書く側では `stale`、読み戻す側では `stale'` として、どちらも動かす。
読み戻す側の値は読み出しに残らない（`read_construct`）。
-/

namespace XPlat

namespace StructuredObject

variable {layout : List FieldKind}

/--
**書いた byte 列の読み戻し。** validator がすべて pure で、`o'` の幅が `o` の幅と同じなら、
`o'.write` を `o` で読むと、`o'` の値に validator を当てた検査の最初の失敗で、通れば
`o'` そのものが戻る。
-/
theorem read_of_holds (vs : List Validator) (hvs : vs.length = layout.length)
    (hpure : vs.all Validator.isPure = true) (o o' : StructuredObject layout)
    (hsz : o.fields.map Field.size = o'.fields.map Field.size) {s : StreamBase} {p : Nat}
    (h : s.Holds p o'.write) :
    o.read vs { s with position := p } =
      (firstError (checks [] vs [] o.fields o'.fields)).map
        fun _ => (o', { s with position := p + o'.write.length }) := by
  have hw : o'.write.length = (o.fields.map Field.size).sum := by
    rw [length_write, size, hsz]
  have hlen : vs.length = o.fields.length := by
    rw [hvs, ← List.length_map o.fields Field.kind, o.kinds]
  obtain ⟨o'', ho'', hread⟩ := readFrom_pure s [] vs [] o.fields o p (by simp) hlen hpure
    (by rw [← hw]; exact h.1)
  have hdec : decodeFields s o.fields p = o'.fields :=
    decodeFields_of_slice s o.fields o'.fields p (by rw [o.kinds, o'.kinds]) hsz
      (by rw [← hsz, ← hw]; exact h.2)
  rw [List.nil_append, List.append_nil, hdec] at ho''
  rw [read, ← List.length_nil, hread, pureChecks_eq_checks, hdec, ext ho'', hw]

end StructuredObject

/-! ## Zip64EndOfCentralDirectoryRecord -/

/-- Zip64 record の公開 setter が書く値。 -/
inductive Zip64Field where
  | totalNumberOfEntries
  | sizeOfCD
  | offsetfStartOfCD
  deriving DecidableEq, Repr

/-- 公開 setter の呼び出し `Set...(value)`。 -/
structure Zip64Call where
  field : Zip64Field
  value : UInt64
  deriving DecidableEq, Repr

namespace Zip64Call

/-- 呼び出しを一つ行う。 -/
def apply (c : Zip64Call) (h : Zip64EndOfCentralDirectoryRecord) :
    Zip64EndOfCentralDirectoryRecord :=
  match c.field with
  | .totalNumberOfEntries => h.setTotalNumberOfEntries c.value
  | .sizeOfCD => h.setSizeOfCD c.value
  | .offsetfStartOfCD => h.setOffsetfStartOfCD c.value

/-- 呼び出しを順に行う。 -/
def applyAll (calls : List Zip64Call) (h : Zip64EndOfCentralDirectoryRecord) :
    Zip64EndOfCentralDirectoryRecord :=
  calls.foldl (fun h c => c.apply h) h

/-- `calls` のうち `field` への呼び出しの、最後の引数。 -/
def lastValue (field : Zip64Field) : List Zip64Call → Option UInt64
  | [] => none
  | c :: cs => (lastValue field cs).or (if c.field = field then some c.value else none)

theorem lastValue_cons_getD (field : Zip64Field) (c : Zip64Call) (cs : List Zip64Call)
    (d : UInt64) :
    (lastValue field (c :: cs)).getD d =
      (lastValue field cs).getD (if c.field = field then c.value else d) := by
  simp only [lastValue]
  cases lastValue field cs <;> split_ifs <;> rfl

end Zip64Call

namespace Zip64EndOfCentralDirectoryRecord

open Zip64Call

theorem new_fields_eq (M : UInt64) : (new M).fields = zip64Fields 0 0 0 0 := new_fields M

/-- 呼び出し一つで変わるのは、その setter の field だけである。 -/
theorem apply_fields (c : Zip64Call) {h : Zip64EndOfCentralDirectoryRecord} {d : UInt32}
    {n sz o : UInt64} (hf : h.fields = zip64Fields d n sz o) :
    (c.apply h).fields = zip64Fields d
      (if c.field = .totalNumberOfEntries then c.value else n)
      (if c.field = .sizeOfCD then c.value else sz)
      (if c.field = .offsetfStartOfCD then c.value else o) := by
  rcases c with ⟨_ | _ | _, v⟩ <;>
    simp [apply, setTotalNumberOfEntries, setSizeOfCD, setOffsetfStartOfCD,
      StructuredObject.setNat, hf, zip64Fields, Field.setNat]

theorem apply_maxOffset (c : Zip64Call) (h : Zip64EndOfCentralDirectoryRecord) :
    (c.apply h).maxOffset = h.maxOffset := by
  rcases c with ⟨_ | _ | _, v⟩ <;> rfl

/-- 呼び出しの列の後の field 列は、各 setter の最後の引数で決まる。 -/
theorem applyAll_fields (calls : List Zip64Call) :
    ∀ {h : Zip64EndOfCentralDirectoryRecord} {d : UInt32} {n sz o : UInt64},
      h.fields = zip64Fields d n sz o →
      (applyAll calls h).fields = zip64Fields d
        ((lastValue .totalNumberOfEntries calls).getD n) ((lastValue .sizeOfCD calls).getD sz)
        ((lastValue .offsetfStartOfCD calls).getD o) := by
  induction calls with
  | nil => exact fun hf => hf
  | cons c cs ih =>
    intro h d n sz o hf
    simp only [lastValue_cons_getD]
    exact ih (apply_fields c hf)

theorem applyAll_maxOffset (calls : List Zip64Call) :
    ∀ h : Zip64EndOfCentralDirectoryRecord, (applyAll calls h).maxOffset = h.maxOffset := by
  induction calls with
  | nil => exact fun _ => rfl
  | cons c cs ih => exact fun h => (ih (c.apply h)).trans (apply_maxOffset c h)

/--
書いた値に validator を当てた検査が通るのは、disk index が 0 で、entries と二つの値が範囲に
あるときである。
-/
theorem firstError_checks_zip64Fields (M : UInt64) (d : UInt32) (n sz o : UInt64) :
    firstError (checks [] (validators M) [] (new M).fields (zip64Fields d n sz o)) = .ok () ↔
      d.toNat = 0 ∧ 1 ≤ n.toNat ∧ (1 ≤ sz.toNat ∧ sz.toNat ≤ M.toNat) ∧
        (1 ≤ o.toNat ∧ o.toNat ≤ M.toNat) := by
  have h44 : (UInt64.ofNat 56 - 12).toNat = 44 := by decide
  rw [new_fields_eq]
  simp [firstError_eq_ok_iff, checks, validators, zip64Fields, Validator.signature,
    Signatures.zip64EndOfCD, MagicNumbers.zip64MinimumVersion, h44]
  omega

/-- disk index が 0 でなければ、検査はそこで "invalid disk index" で失敗する。 -/
theorem firstError_checks_zip64Fields_of_ne (M : UInt64) {d : UInt32} (hd : d.toNat ≠ 0)
    (n sz o : UInt64) :
    firstError (checks [] (validators M) [] (new M).fields (zip64Fields d n sz o)) =
      .error (.zip ⟨"invalid disk index", .invalidZip64CentralDirectoryRecord⟩) := by
  have h44 : (UInt64.ofNat 56 - 12).toNat = 44 := by decide
  rw [new_fields_eq]
  simp [firstError, checks, validators, zip64Fields, Validator.signature, Validator.test,
    Signatures.zip64EndOfCD, MagicNumbers.zip64MinimumVersion, h44, hd]

/--
**Zip64 record の読み戻し。** `maxOffset` `M` で作った record に公開 setter を何度呼んでも、
書いて、`M` で作った新しい record で読み戻すと、成功するのは、constructor が 5 番に残した値が
0 で、最後の entries が 1 以上、最後の大きさと offset が `[1, M]` にあるときだけである。
残した値が 0 でなければ "invalid disk index" で失敗する。成功すれば書いた 56 byte を読み、
size の field は `Size() - 12` で、getter は最後の引数を返す。
-/
theorem read_applyAll (M : UInt64) (stale : Nat → Nat) (calls : List Zip64Call) {n sz o : UInt64}
    (hn : lastValue .totalNumberOfEntries calls = some n)
    (hsz : lastValue .sizeOfCD calls = some sz) (ho : lastValue .offsetfStartOfCD calls = some o)
    {s : StreamBase} {p : Nat} (hs : s.Holds p (applyAll calls (construct stale M)).write) :
    ((∃ r, (new M).read { s with position := p } = .ok r) ↔
        stale 5 % 2 ^ 32 = 0 ∧ 1 ≤ n.toNat ∧ (1 ≤ sz.toNat ∧ sz.toNat ≤ M.toNat) ∧
          (1 ≤ o.toNat ∧ o.toNat ≤ M.toNat)) ∧
      (stale 5 % 2 ^ 32 ≠ 0 → (new M).read { s with position := p } =
        .error (.zip ⟨"invalid disk index", .invalidZip64CentralDirectoryRecord⟩)) ∧
      ∀ r, (new M).read { s with position := p } = .ok r →
        r.2 = { s with position := p + 56 } ∧ (r.1.field 1).toNat = r.1.size - 12 ∧
          r.1.getTotalNumberOfEntries = n ∧ r.1.getSizeOfCD = sz ∧ r.1.getOffsetfStartOfCD = o := by
  have hf : (applyAll calls (construct stale M)).fields =
      zip64Fields (UInt32.ofNat (stale 5)) n sz o := by
    rw [applyAll_fields calls (construct_fields stale M), hn, hsz, ho]; rfl
  have hM := applyAll_maxOffset calls (construct stale M)
  rw [← UInt32.toNat_ofNat_eq]
  generalize UInt32.ofNat (stale 5) = d at hf
  generalize applyAll calls (construct stale M) = h at hs hf hM
  have hlen : h.write.length = 56 := by
    rw [StructuredObject.length_write, StructuredObject.size_eq, hf, size_zip64Fields]
  have hread := StructuredObject.read_of_holds (validators M) rfl rfl (new M).toStructuredObject
    h.toStructuredObject (by rw [new_fields_eq, hf]; rfl) hs
  have hh : ({ new M with toStructuredObject := h.toStructuredObject } :
      Zip64EndOfCentralDirectoryRecord) = h := by
    cases h; cases hM; rfl
  simp only [read, maxOffset_new, hread, hlen, hf]
  refine ⟨?_, fun hd => by rw [firstError_checks_zip64Fields_of_ne M hd]; rfl, ?_⟩ <;>
    rcases hc : firstError (checks [] (validators M) [] (new M).fields (zip64Fields d n sz o))
      with e | ⟨⟩
  · have hnc := mt (firstError_checks_zip64Fields M d n sz o).mpr (by rw [hc]; exact nofun)
    simp [Except.map, hnc]
  · simpa [Except.map] using (firstError_checks_zip64Fields M d n sz o).mp hc
  · simp [Except.map]
  · rintro r hr
    simp only [Except.map, Except.ok.injEq, hh] at hr
    subst hr
    simp [StructuredObject.field, StructuredObject.size_eq, getTotalNumberOfEntries, getSizeOfCD,
      getOffsetfStartOfCD, StructuredObject.getU64, hf, zip64Fields]

end Zip64EndOfCentralDirectoryRecord

/-! ## Zip64EndOfCentralDirectoryLocator -/

namespace Zip64EndOfCentralDirectoryLocator

theorem setRelativeOffset_fields (M r : UInt64) :
    ((new M).setRelativeOffset r).fields =
      [.field4Bytes 0x07064b50, .field4Bytes 0, .field8Bytes r, .field4Bytes 1] := by
  simp [setRelativeOffset, StructuredObject.setNat, new_fields, Field.setNat]

/-- `SetRelativeOffset` は constructor が残した唯一の値を書くので、残っていた値は消える。 -/
theorem setRelativeOffset_construct (stale : Nat → Nat) (M r : UInt64) :
    (construct stale M).setRelativeOffset r = (new M).setRelativeOffset r :=
  rfl

/--
**locator の読み戻し。** `maxOffset` `M` で作った locator に `SetRelativeOffset(r)` を呼び、
書いて、`M` で作った新しい locator で読み戻すと、成功するのは `r ≤ M` のときだけである。
成功すれば書いた 20 byte を読み、`GetRelativeOffset()` は `r` を返す。
-/
theorem read_setRelativeOffset (M r : UInt64) {s : StreamBase} {p : Nat}
    (hs : s.Holds p ((new M).setRelativeOffset r).write) :
    ((∃ x, (new M).read { s with position := p } = .ok x) ↔ r.toNat ≤ M.toNat) ∧
      ∀ x, (new M).read { s with position := p } = .ok x →
        x.2 = { s with position := p + 20 } ∧ x.1.getRelativeOffset = r := by
  have hf := setRelativeOffset_fields M r
  have hlen : ((new M).setRelativeOffset r).write.length = 20 := by
    rw [StructuredObject.length_write, StructuredObject.size_eq, hf]; rfl
  have hread := StructuredObject.read_of_holds (validators M) rfl rfl (new M).toStructuredObject
    ((new M).setRelativeOffset r).toStructuredObject (by rw [new_fields, hf]; rfl) hs
  have hc : firstError (checks [] (validators M) [] (new M).fields
      ((new M).setRelativeOffset r).fields) = if r.toNat ≤ M.toNat then .ok () else
        .error (.zip ⟨"Invalid relative offset", .invalidZip64CentralDirectoryLocator⟩) := by
    rw [new_fields, hf]
    by_cases h : r.toNat ≤ M.toNat
    · simp [checks, validators, Validator.signature, Signatures.zip64EndOfCDLocator, h,
        Nat.not_lt.mpr h]
    · simp [checks, validators, Validator.signature, Signatures.zip64EndOfCDLocator, h,
        Nat.lt_of_not_le h]
  simp only [read, maxOffset_new, hread, hlen, hc]
  by_cases h : r.toNat ≤ M.toNat
  · rw [if_pos h]
    simp only [Except.map, Except.ok.injEq, exists_eq', h, iff_true, true_and]
    rintro x rfl
    exact ⟨rfl, by simp [getRelativeOffset, StructuredObject.getU64, StructuredObject.field, hf]⟩
  · simp [if_neg h, Except.map, h]

end Zip64EndOfCentralDirectoryLocator

/-! ## EndCentralDirectoryRecord -/

namespace EndCentralDirectoryRecord

/-- **end of central directory record の読み戻し。** 作ったばかりの record は 22 byte で読み戻せる。 -/
theorem read_new_write {s : StreamBase} {p : Nat} (hs : s.Holds p new.write) :
    new.read { s with position := p } = .ok (new, { s with position := p + 22 }) := by
  simp only [read, StructuredObject.read_of_holds validators rfl rfl new.toStructuredObject
    new.toStructuredObject rfl hs]
  rfl

end EndCentralDirectoryRecord

open Zip64Call in
/--
**archive の終わりの三つの record の読み戻し。** どの `maxOffset` `M` でも、書く側の constructor
が残した値 `stale`、読み戻す側の constructor が残した値 `stale'` がどうであっても、

* Zip64 record に公開 setter を呼んだ後の読み戻しは、最後の引数と、書く側の constructor が
  5 番（central directory の始まりの disk）に残した値で成否と値が決まる。その値が 0 で
  なければ、読み戻しは "invalid disk index" で失敗する
* locator に `SetRelativeOffset(r)` を呼んだ後の読み戻しは、`r ≤ M` のとき成功する
* 作ったばかりの end of central directory record は 22 byte で読み戻せる
-/
theorem endRecords_roundTrip (M : UInt64) (stale stale' : Nat → Nat) :
    (∀ (calls : List Zip64Call) (n sz o : UInt64),
      lastValue .totalNumberOfEntries calls = some n → lastValue .sizeOfCD calls = some sz →
      lastValue .offsetfStartOfCD calls = some o →
      ∀ (s : StreamBase) (p : Nat),
        s.Holds p (applyAll calls (Zip64EndOfCentralDirectoryRecord.construct stale M)).write →
        ((∃ r, (Zip64EndOfCentralDirectoryRecord.construct stale' M).read
            { s with position := p } = .ok r) ↔
          stale 5 % 2 ^ 32 = 0 ∧ 1 ≤ n.toNat ∧ (1 ≤ sz.toNat ∧ sz.toNat ≤ M.toNat) ∧
            (1 ≤ o.toNat ∧ o.toNat ≤ M.toNat)) ∧
        (stale 5 % 2 ^ 32 ≠ 0 →
          (Zip64EndOfCentralDirectoryRecord.construct stale' M).read { s with position := p } =
            .error (.zip ⟨"invalid disk index", .invalidZip64CentralDirectoryRecord⟩)) ∧
        ∀ r, (Zip64EndOfCentralDirectoryRecord.construct stale' M).read
            { s with position := p } = .ok r →
          r.2 = { s with position := p + 56 } ∧ (r.1.field 1).toNat = r.1.size - 12 ∧
            r.1.getTotalNumberOfEntries = n ∧ r.1.getSizeOfCD = sz ∧
            r.1.getOffsetfStartOfCD = o) ∧
    (∀ (r : UInt64) (s : StreamBase) (p : Nat),
      s.Holds p ((Zip64EndOfCentralDirectoryLocator.construct stale M).setRelativeOffset r).write →
      ((∃ x, (Zip64EndOfCentralDirectoryLocator.construct stale' M).read
          { s with position := p } = .ok x) ↔ r.toNat ≤ M.toNat) ∧
      ∀ x, (Zip64EndOfCentralDirectoryLocator.construct stale' M).read
          { s with position := p } = .ok x →
        x.2 = { s with position := p + 20 } ∧ x.1.getRelativeOffset = r) ∧
    (∀ (s : StreamBase) (p : Nat), s.Holds p (EndCentralDirectoryRecord.construct stale).write →
      (EndCentralDirectoryRecord.construct stale').read { s with position := p } =
        .ok (EndCentralDirectoryRecord.construct stale, { s with position := p + 22 })) := by
  simp only [Zip64EndOfCentralDirectoryRecord.read_construct,
    Zip64EndOfCentralDirectoryLocator.read_construct,
    Zip64EndOfCentralDirectoryLocator.setRelativeOffset_construct,
    EndCentralDirectoryRecord.construct_eq_new]
  exact ⟨fun calls _ _ _ hn hsz ho _ _ hs =>
      Zip64EndOfCentralDirectoryRecord.read_applyAll M stale calls hn hsz ho hs,
    fun r _ _ hs => Zip64EndOfCentralDirectoryLocator.read_setRelativeOffset M r hs,
    fun _ _ hs => EndCentralDirectoryRecord.read_new_write hs⟩

/-- entries、大きさ、offset を 1 にする呼び出し。 -/
def sampleZip64Calls : List Zip64Call :=
  [⟨.totalNumberOfEntries, 1⟩, ⟨.sizeOfCD, 1⟩, ⟨.offsetfStartOfCD, 1⟩]

/-- 5 番（central directory の始まりの disk）のメモリに 1 が残り、他は 0 だった field object。 -/
def staleDiskIndex : Nat → Nat := fun i => if i = 5 then 1 else 0

/-- `staleDiskIndex` から作った record に `sampleZip64Calls` を呼んで書いた 56 byte。 -/
def staleZip64Stream : StreamBase :=
  .ofBytes (Zip64Call.applyAll sampleZip64Calls
    (Zip64EndOfCentralDirectoryRecord.construct staleDiskIndex 100)).write (by decide)

theorem staleZip64Stream_roundTrip :
    (Zip64EndOfCentralDirectoryRecord.construct staleDiskIndex 100).read
        { staleZip64Stream with position := 0 } =
      .error (.zip ⟨"invalid disk index", .invalidZip64CentralDirectoryRecord⟩) :=
  ((endRecords_roundTrip 100 staleDiskIndex staleDiskIndex).1 sampleZip64Calls 1 1 1 rfl rfl rfl
    staleZip64Stream 0 ⟨by decide, rfl⟩).2.1 (by decide)

end XPlat
