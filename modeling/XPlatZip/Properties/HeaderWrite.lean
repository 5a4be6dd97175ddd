import XPlatZip.Properties.HeaderRead

/-!
# 書いた header を読み戻す

record を `Write()` で書き、その byte 列を読み戻す。長さの field が、それの resize する可変長
field の長さと合っていれば、読み出しの resize は何も変えず、record は自分の byte 列を
そのまま読む（`StructuredObject.readFrom_self`）。

* `CentralFileHeader.read_write_applyAll` — 読めた header に `SetComment` 以外の値の setter を
  どう呼んでも、書いた byte 列は、どの前の状態からでもその header に読み戻せる
* `CentralFileHeader.setComment_readBack_loses_comment` — `SetComment` は長さを extra field
  length に書くので、comment の無い header に入れた comment は読み戻すと消える
* `LocalFileHeader.read_write_applyAll_sizes` — 読めた local file header に二つの大きさの setter を
  どう呼んでも、書いた byte 列は、どの前の状態からでもその header に読み戻せる
* `LocalFileHeader.setFileName_readBack_fails` — `SetFileName` は名前の写しを変えて捨てるので、
  名前は変わらず、長くした名前の header は書いた byte 列から読み戻せない
* `DataDescriptor.read_write` — data descriptor は、どの値でも書いた 12 byte から読み戻せる
-/

namespace XPlat

namespace StructuredObject

variable {layout : List FieldKind}

theorem modify_eq_self (o : StructuredObject layout) (i : Nat) (g : Field → Field) (hg)
    (h : g (o.field i) = o.field i) : o.modify i g hg = o := by
  refine ext (List.ext_getElem? fun j => ?_)
  rw [fields_modify, List.getElem?_modify]
  by_cases hij : i = j
  · subst hij
    rcases hf : o.fields[i]? with _ | f
    · rfl
    · rw [field_eq_getD, hf] at h
      simpa using h
  · simp [hij]

theorem field_modify_of_ne (o : StructuredObject layout) {i j : Nat} (g : Field → Field) (hg)
    (hij : i ≠ j) : (o.modify i g hg).field j = o.field j := by
  simp only [field_eq_getD, fields_modify, List.getElem?_modify_ne _ _ hij]

theorem field_modify_self (o : StructuredObject layout) {i : Nat} (g : Field → Field) (hg)
    (hi : i < layout.length) : (o.modify i g hg).field i = g (o.field i) := by
  have hi' : i < o.fields.length := by rw [length_fields]; exact hi
  simp only [field_eq_getD, fields_modify, List.getElem?_modify_eq, List.getElem?_eq_getElem hi']
  rfl

/-- `g` が `φ` の値を変えなければ、書き換えの後も `φ` で見た field は同じ。 -/
theorem map_field_modify {β : Type} (o : StructuredObject layout) (i j : Nat) (g : Field → Field)
    (hg) (φ : Field → β) (hφ : ∀ f, φ (g f) = φ f) :
    φ ((o.modify i g hg).field j) = φ (o.field j) := by
  by_cases hij : i = j
  · subst hij
    simp only [field_eq_getD, fields_modify, List.getElem?_modify_eq]
    cases o.fields[i]? <;> simp [hφ]
  · rw [field_modify_of_ne o g hg hij]

/-- `o` を書いた byte 列の中で、`i` 番の field は、その前の field の幅の和の位置にある。 -/
theorem holds_field (o : StructuredObject layout) {s : StreamBase} {p : Nat}
    (hs : s.Holds p o.write) {i : Nat} (hi : i < layout.length) :
    s.Holds (p + ((o.fields.take i).map Field.size).sum) (o.field i).write := by
  have hi' : i < o.fields.length := by rw [length_fields]; exact hi
  have hfi : o.fields[i] = o.field i := by
    rw [field_eq_getD, List.getElem?_eq_getElem hi']; rfl
  rw [write, ← List.take_append_drop i o.fields, List.drop_eq_getElem_cons hi', hfi,
    List.flatMap_append, List.flatMap_cons, StreamBase.holds_append, StreamBase.holds_append] at hs
  simpa [List.length_flatMap, Function.comp_def] using hs.2.1

/-- 固定幅の field の値は、書いた byte 列のその位置から読める。 -/
theorem uintAt_of_holds (o : StructuredObject layout) {s : StreamBase} {p : Nat}
    (hs : s.Holds p o.write) {i : Nat} (hi : i < layout.length)
    (hk : layout.getD i .bytesN ≠ .bytesN) :
    s.uintAt (p + ((o.fields.take i).map Field.size).sum) (o.field i).size = (o.field i).toNat := by
  have h := (holds_field o hs hi).2
  rw [Field.length_write] at h
  rw [StreamBase.uintAt, h, Field.decodeLE_write ((kind_field o i).trans_ne hk)]

@[simp] theorem getBytes_setNat (o : StructuredObject layout) (i n t : Nat) :
    (o.setNat i n).getBytes t = o.getBytes t :=
  map_field_modify o i t _ _ Field.bytes (fun f => f.bytes_setNat n)

@[simp] theorem getU16_setBytes (o : StructuredObject layout) (i j : Nat) (d : List UInt8) :
    (o.setBytes i d).getU16 j = o.getU16 j :=
  congrArg UInt16.ofNat (map_field_modify o i j _ _ Field.toNat (fun f => f.toNat_setBytes d))

theorem getU16_setNat_of_ne (o : StructuredObject layout) {i j : Nat} (hij : i ≠ j) (n : Nat) :
    (o.setNat i n).getU16 j = o.getU16 j := by
  rw [getU16, getU16, setNat, field_modify_of_ne _ _ _ hij]

theorem getBytes_setBytes_of_ne (o : StructuredObject layout) {i j : Nat} (hij : i ≠ j)
    (d : List UInt8) : (o.setBytes i d).getBytes j = o.getBytes j := by
  rw [getBytes, getBytes, setBytes, field_modify_of_ne _ _ _ hij]

theorem getBytes_setBytes_self (o : StructuredObject layout) {i : Nat} (hil : i < layout.length)
    (hi : layout.getD i .bytesN = .bytesN) (d : List UInt8) : (o.setBytes i d).getBytes i = d := by
  rw [getBytes, setBytes, field_modify_self _ _ _ hil,
    Field.bytes_setBytes_of_bytesN ((kind_field o i).trans hi)]

theorem toNat_getU16_setNat_self (o : StructuredObject layout) {i : Nat} (hil : i < layout.length)
    (hi : layout.getD i .bytesN = .bytes2) (n : Nat) : ((o.setNat i n).getU16 i).toNat = n % 2 ^ 16 := by
  rw [getU16, setNat, field_modify_self _ _ _ hil, UInt16.toNat_ofNat_eq,
    Field.toNat_setNat_of_bytes2 ((kind_field o i).trans hi), Nat.mod_mod]

theorem toNat_getU16 (o : StructuredObject layout) (i : Nat)
    (hi : layout.getD i .bytesN = .bytes2) : (o.getU16 i).toNat = (o.field i).toNat := by
  rw [getU16, UInt16.toNat_ofNat_eq,
    Nat.mod_eq_of_lt (Field.toNat_lt_of_bytes2 ((kind_field o i).trans hi))]

theorem toNat_getU32 (o : StructuredObject layout) (i : Nat)
    (hi : layout.getD i .bytesN = .bytes4) : (o.getU32 i).toNat = (o.field i).toNat := by
  rw [getU32, UInt32.toNat_ofNat_eq,
    Nat.mod_eq_of_lt (Field.toNat_lt_of_bytes4 ((kind_field o i).trans hi))]

/-- 書いた byte 列の中の 2 byte の field は、その `getU16` の値を持つ。 -/
theorem uintAt_getU16_of_holds (o : StructuredObject layout) {s : StreamBase} {p : Nat}
    (hs : s.Holds p o.write) {i : Nat} (hi : i < layout.length)
    (hk : layout.getD i .bytesN = .bytes2) :
    s.uintAt (p + ((o.fields.take i).map Field.size).sum) 2 = (o.getU16 i).toNat := by
  have h := uintAt_of_holds o hs hi (by rw [hk]; decide)
  rwa [Field.size_of_bytes2 ((kind_field o i).trans hk), ← toNat_getU16 o i hk] at h

theorem length_getBytes (o : StructuredObject layout) (i : Nat)
    (hi : layout.getD i .bytesN = .bytesN) : (o.getBytes i).length = (o.field i).size :=
  (Field.size_eq_length_bytes ((kind_field o i).trans hi)).symm

/-- 長さの validator が指す可変長 field は、すでにその長さを持っている。 -/
def ResizesSettled (o : StructuredObject layout) : List Validator → Nat → Prop
  | [], _ => True
  | .resizes t _ :: vs, i =>
    ((o.field i).toNat ≤ 65535 ∧ (o.field t).resize (o.field i).toNat = o.field t) ∧
      ResizesSettled o vs (i + 1)
  | _ :: vs, i => ResizesSettled o vs (i + 1)

/-- 長さの field の値が可変長 field の長さと同じなら、その resize は何も変えない。 -/
theorem resize_settled (o : StructuredObject layout) (i t : Nat)
    (hi : layout.getD i .bytesN = .bytes2) (ht : layout.getD t .bytesN = .bytesN)
    (h : (o.getU16 i).toNat = (o.getBytes t).length) :
    (o.field i).toNat ≤ 65535 ∧ (o.field t).resize (o.field i).toNat = o.field t := by
  rw [toNat_getU16 o i hi, length_getBytes o t ht] at h
  have := Field.toNat_lt_of_bytes2 ((kind_field o i).trans hi)
  exact ⟨by omega, by rw [h, Field.resize_size]⟩

/-- `o` の値に、`i` 番から validator を当てた検査の列。 -/
def selfChecks (o : StructuredObject layout) : List Validator → Nat → List (Except Exception Unit)
  | [], _ => []
  | v :: vs, i => v.test (o.field i) o.fields :: selfChecks o vs (i + 1)

/--
**自分の byte 列の読み戻し。** stream が `o` の `i` 番から後ろの field を書いた byte 列を持ち、
長さの validator が指す可変長 field がすでにその長さなら、`o` のまま読んで、`o` の値に
validator を当てた検査の最初の失敗で止まる。
-/
theorem readFrom_self (o : StructuredObject layout) (s : StreamBase) :
    ∀ (vs : List Validator) (i p : Nat), i + vs.length = layout.length →
      ResizesSettled o vs i → s.Holds p ((o.fields.drop i).flatMap Field.write) →
      readFrom vs i o { s with position := p } =
        (firstError (selfChecks o vs i)).map
          fun _ => (o, { s with position := p + ((o.fields.drop i).map Field.size).sum })
  | [], i, p, hlen, _, _ => by
    have hd : o.fields.drop i = [] :=
      List.drop_eq_nil_of_le (by rw [length_fields]; simp at hlen; omega)
    simp [readFrom, selfChecks, hd, Except.map]
  | v :: vs, i, p, hlen, hset, hs => by
    have hi : i < o.fields.length := by rw [length_fields]; simp at hlen; omega
    have hfi : o.fields[i] = o.field i := by
      rw [field_eq_getD, List.getElem?_eq_getElem hi]; rfl
    rw [List.drop_eq_getElem_cons hi, hfi, List.flatMap_cons, StreamBase.holds_append,
      Field.length_write] at hs
    have hb : s.slice p (o.field i).size = (o.field i).write := by
      simpa using hs.1.2
    have hself : o.modify i (·.decode (o.field i).write) (fun f => f.kind_decode _) = o :=
      modify_eq_self o i _ _ (Field.decode_write _)
    rw [readFrom_cons, readField_of_le o i _ (by simpa using hs.1.1.trans' (by simp)),
      List.drop_eq_getElem_cons hi, hfi]
    simp only [StreamBase.slice_with_position, hself, hb, Field.decode_write]
    have ih := readFrom_self o s vs (i + 1) (p + (o.field i).size) (by simp at hlen; omega)
    cases v with
    | none => simp [Validator.run, selfChecks, ih hset hs.2, Nat.add_assoc]
    | check bad e =>
      by_cases hbad : bad (o.field i) o.fields
      · simp [Validator.run, selfChecks, hbad, Except.map]
      · simp [Validator.run, selfChecks, hbad, ih hset hs.2, Nat.add_assoc]
    | resizes t e =>
      obtain ⟨⟨hle, hres⟩, hset⟩ := hset
      have hro : o.resize t (o.field i).toNat = o := modify_eq_self o t _ _ hres
      simp [Validator.run, selfChecks, show ¬65535 < (o.field i).toNat by omega, hro,
        ih hset hs.2, Nat.add_assoc]

end StructuredObject

namespace CentralFileHeader

/-- 三つの長さの field が、それぞれの可変長 field の長さと合っている。 -/
structure Consistent (h : CentralFileHeader) : Prop where
  fileName : h.getFileNameLength.toNat = h.getFileName.length
  extraField : h.getExtraFieldLength.toNat = h.getExtraField.length
  comment : h.getFileCommentLength.toNat = h.getComment.length

theorem resizesSettled {h : CentralFileHeader} (hc : h.Consistent) :
    h.ResizesSettled validators 0 := by
  simp only [validators, StructuredObject.ResizesSettled]
  exact ⟨h.resize_settled 10 17 rfl rfl hc.fileName, h.resize_settled 11 18 rfl rfl hc.extraField,
    h.resize_settled 12 19 rfl rfl hc.comment, trivial⟩

/-- 長さの合った header を書いた byte 列は、どの前の状態からでも、signature が合えばその
header に読み戻せる。 -/
theorem read_write_of_consistent {h : CentralFileHeader} (hc : h.Consistent) {s : StreamBase} {p : Nat}
    (hs : s.Holds p h.write) (h₀ : CentralFileHeader) :
    h₀.read { s with position := p } =
      (rule (h.getSignature.toNat = Signatures.centralFileHeader)
        "central file header does not match signature" .invalidHeader).map
        fun _ => (h, { s with position := p + h.size }) := by
  rw [read_eq_read_new, ← read_eq_read_new h]
  simp only [read, StructuredObject.read]
  rw [StructuredObject.readFrom_self h.toStructuredObject s validators 0 p rfl (resizesSettled hc)
    (by simpa [StructuredObject.write] using hs)]
  rw [getSignature, StructuredObject.toNat_getU32 h.toStructuredObject 0 rfl]
  by_cases hsig : (h.field 0).toNat = Signatures.centralFileHeader <;>
    simp [StructuredObject.selfChecks, validators, Validator.signature, rule, require, hsig,
      Except.map, StructuredObject.size]

/-- 可変長 field より前の field の幅は、どの header でも同じ。 -/
theorem take_map_size (h : CentralFileHeader) {i : Nat} (hi : i ≤ 17) :
    (h.fields.take i).map Field.size = (new.fields.take i).map Field.size := by
  have ha := StructuredObject.agree_init h.toStructuredObject new.toStructuredObject [17, 18, 19]
    (by decide)
  refine List.ext_getElem? fun j => ?_
  simp only [List.getElem?_map, List.getElem?_take]
  split
  · exact ha.2 j (by simp; omega)
  · rfl

theorem fields_eq (h : CentralFileHeader) :
    h.fields = h.fields.take 17 ++ [h.field 17, h.field 18, h.field 19] := by
  have hl : h.fields.length = 20 := h.length_fields
  refine List.ext_getElem? fun j => ?_
  rcases (by omega : j < 17 ∨ j = 17 ∨ j = 18 ∨ j = 19 ∨ 20 ≤ j) with hj | rfl | rfl | rfl | hj
  · rw [List.getElem?_append_left (by simp; omega), List.getElem?_take, if_pos hj]
  rotate_left 3
  · rw [List.getElem?_eq_none (by omega), List.getElem?_eq_none (by simp [hl]; omega)]
  all_goals rw [List.getElem?_append_right (by simp [hl])]; simp [StructuredObject.field_eq_getD, hl]

/-- header の大きさは、固定部の 46 byte と三つの可変長 field の長さの和。 -/
theorem size_eq (h : CentralFileHeader) :
    h.size = 46 + h.getFileName.length + h.getExtraField.length + h.getComment.length := by
  rw [StructuredObject.size_eq, fields_eq h, List.map_append, List.sum_append, take_map_size h le_rfl,
    getFileName, getExtraField, getComment, h.length_getBytes 17 rfl, h.length_getBytes 18 rfl,
    h.length_getBytes 19 rfl]
  simp only [List.map_cons, List.map_nil, List.sum_cons, List.sum_nil]
  have : ((new.fields.take 17).map Field.size).sum = 46 := rfl
  omega

/-- 読めた header は、長さの field が可変長 field の長さと合っている。 -/
theorem consistent_of_read {h h' : CentralFileHeader} {s s' : StreamBase}
    (hr : h.read s = .ok (h', s')) : h'.Consistent := by
  rw [read_eq_read_new, show s = { s with position := s.position } from rfl] at hr
  obtain ⟨hfit, hfail⟩ := read_new s s.position
  by_cases hf : s.position + 46 + s.uintAt (s.position + 28) 2 + s.uintAt (s.position + 30) 2 +
      s.uintAt (s.position + 32) 2 ≤ s.length
  · obtain ⟨h'', hf'', hr'⟩ := hfit hf
    rw [hr', map_rule_eq_ok] at hr
    obtain ⟨-, hh⟩ := hr
    cases hh
    have hlen : (decodeFields s ((shape 0 0 0).take 17) s.position).length = 17 := by simp [shape]
    refine ⟨?_, ?_, ?_⟩ <;>
      simp [getFileNameLength, getFileName, getExtraFieldLength, getExtraField,
        getFileCommentLength, getComment, StructuredObject.getU16, StructuredObject.getBytes,
        StructuredObject.field, hf'', decodeFields_shape, List.getD_append_right _ _ _ _, hlen, shape,
        Nat.add_assoc, UInt16.toNat_ofNat_eq] <;>
      simpa using s.uintAt_lt _ 2
  · obtain ⟨e, he⟩ := hfail (by omega)
    rw [he] at hr
    cases hr

/-! ### 値の setter -/

/-- 長さの field 以外の `SetValue` は、長さの合った header を保つ。 -/
theorem setNat_consistent {h : CentralFileHeader} (hc : h.Consistent) {i : Nat}
    (hi : i ≠ 10 ∧ i ≠ 11 ∧ i ≠ 12) (n : Nat) : (⟨h.setNat i n⟩ : CentralFileHeader).Consistent := by
  obtain ⟨h10, h11, h12⟩ := hi
  exact ⟨by simpa [getFileNameLength, getFileName, h.getU16_setNat_of_ne h10] using hc.fileName,
    by simpa [getExtraFieldLength, getExtraField, h.getU16_setNat_of_ne h11] using hc.extraField,
    by simpa [getFileCommentLength, getComment, h.getU16_setNat_of_ne h12] using hc.comment⟩

/-- 65536 byte 未満の名前の `SetFileName` は、長さの合った header を保つ。 -/
theorem setFileName_consistent {h : CentralFileHeader} (hc : h.Consistent) {name : List UInt8}
    (hn : name.length < 2 ^ 16) : (h.setFileName name).Consistent := by
  refine ⟨?_, ?_, ?_⟩
  · simp [setFileName, setFileNameLength, getFileNameLength, getFileName,
      StructuredObject.toNat_getU16_setNat_self _ (show 10 < layout.length by decide) rfl,
      StructuredObject.getBytes_setBytes_self _ (show 17 < layout.length by decide) rfl,
      UInt16.toNat_ofNat_eq, Nat.mod_eq_of_lt hn]
    simpa using hn
  · simpa [setFileName, setFileNameLength, getExtraFieldLength, getExtraField,
      StructuredObject.getU16_setNat_of_ne _ (show 10 ≠ 11 by decide),
      StructuredObject.getBytes_setBytes_of_ne _ (show 17 ≠ 18 by decide)] using hc.extraField
  · simpa [setFileName, setFileNameLength, getFileCommentLength, getComment,
      StructuredObject.getU16_setNat_of_ne _ (show 10 ≠ 12 by decide),
      StructuredObject.getBytes_setBytes_of_ne _ (show 17 ≠ 19 by decide)] using hc.comment

/-- 65536 byte 未満の `SetExtraField` は、長さの合った header を保つ。 -/
theorem setExtraField_consistent {h : CentralFileHeader} (hc : h.Consistent) {extra : List UInt8}
    (hn : extra.length < 2 ^ 16) : (h.setExtraField extra).Consistent := by
  refine ⟨?_, ?_, ?_⟩
  · simpa [setExtraField, setExtraFieldLength, getFileNameLength, getFileName,
      StructuredObject.getU16_setNat_of_ne _ (show 11 ≠ 10 by decide),
      StructuredObject.getBytes_setBytes_of_ne _ (show 18 ≠ 17 by decide)] using hc.fileName
  · simp [setExtraField, setExtraFieldLength, getExtraFieldLength, getExtraField,
      StructuredObject.toNat_getU16_setNat_self _ (show 11 < layout.length by decide) rfl,
      StructuredObject.getBytes_setBytes_self _ (show 18 < layout.length by decide) rfl,
      UInt16.toNat_ofNat_eq, Nat.mod_eq_of_lt hn]
    simpa using hn
  · simpa [setExtraField, setExtraFieldLength, getFileCommentLength, getComment,
      StructuredObject.getU16_setNat_of_ne _ (show 11 ≠ 12 by decide),
      StructuredObject.getBytes_setBytes_of_ne _ (show 18 ≠ 19 by decide)] using hc.comment

/-- 値の setter の呼び出し。長さの field を直接書く三つの setter は入れない。 -/
inductive Call where
  | signature (value : UInt32)
  | versionMadeBy (value : UInt16)
  | versionNeededToExtract (value : UInt16)
  | generalPurposeBitFlag (value : UInt16)
  | compressionMethod (value : UInt16)
  | lastModFileTime (value : UInt16)
  | lastModFileDate (value : UInt16)
  | crc (value : UInt16)
  | compressedSize (value : UInt32)
  | uncompressedSize (value : UInt32)
  | diskNumberStart (value : UInt16)
  | internalFileAttributes (value : UInt16)
  | externalFileAttributes (value : UInt16)
  | relativeOffsetOfLocalHeader (value : UInt32)
  | fileName (name : List UInt8)
  | extraField (extra : List UInt8)
  | comment (comment : List UInt8)
  deriving DecidableEq, Repr

namespace Call

/-- 呼び出しを一つ行う。 -/
def apply : Call → CentralFileHeader → CentralFileHeader
  | signature v, h => h.setSignature v
  | versionMadeBy v, h => h.setVersionMadeBy v
  | versionNeededToExtract v, h => h.setVersionNeededToExtract v
  | generalPurposeBitFlag v, h => h.setGeneralPurposeBitFlag v
  | compressionMethod v, h => h.setCompressionMethod v
  | lastModFileTime v, h => h.setLastModFileTime v
  | lastModFileDate v, h => h.setLastModFileDate v
  | crc v, h => h.setCrc v
  | compressedSize v, h => h.setCompressedSize v
  | uncompressedSize v, h => h.setUncompressedSize v
  | diskNumberStart v, h => h.setDiskNumberStart v
  | internalFileAttributes v, h => h.setInternalFileAttributes v
  | externalFileAttributes v, h => h.setExternalFileAttributes v
  | relativeOffsetOfLocalHeader v, h => h.setRelativeOffsetOfLocalHeader v
  | fileName name, h => h.setFileName name
  | extraField extra, h => h.setExtraField extra
  | comment c, h => h.setComment c

/-- 呼び出しを順に行う。 -/
def applyAll (calls : List Call) (h : CentralFileHeader) : CentralFileHeader :=
  calls.foldl (fun h c => c.apply h) h

/-- 長さの合った header を保つ呼び出し：`SetComment` でなく、名前と extra field は
65536 byte 未満。 -/
def KeepsLengths : Call → Prop
  | fileName name => name.length < 2 ^ 16
  | extraField extra => extra.length < 2 ^ 16
  | comment _ => False
  | _ => True

end Call

/-- 呼び出し一つは、長さの合った header を保つ。 -/
theorem apply_consistent {h : CentralFileHeader} (hc : h.Consistent) {c : Call}
    (hk : c.KeepsLengths) : (c.apply h).Consistent := by
  cases c
  case fileName name => exact setFileName_consistent hc hk
  case extraField extra => exact setExtraField_consistent hc hk
  case comment => exact hk.elim
  all_goals exact setNat_consistent hc (by decide) _

/-- 呼び出しの列は、長さの合った header を保つ。 -/
theorem applyAll_consistent {h : CentralFileHeader} (hc : h.Consistent) {calls : List Call}
    (hk : ∀ c ∈ calls, c.KeepsLengths) : (Call.applyAll calls h).Consistent := by
  induction calls generalizing h with
  | nil => exact hc
  | cons c cs ih =>
    exact ih (apply_consistent hc (hk c (.head _))) fun c' hc' => hk c' (.tail _ hc')

/--
読めた header に `SetComment` 以外の値の setter をどの順に何回呼んでも（名前と extra field は
65536 byte 未満）、書いた byte 列は、どの前の状態からでもその header に読み戻せる。
signature を変えていれば、読み戻しは signature の検査で失敗する。
-/
theorem read_write_applyAll {h₁ h : CentralFileHeader} {s₁ s₁' : StreamBase}
    (hr : h₁.read s₁ = .ok (h, s₁')) {calls : List Call} (hk : ∀ c ∈ calls, c.KeepsLengths)
    {s : StreamBase} {p : Nat} (hs : s.Holds p (Call.applyAll calls h).write)
    (h₀ : CentralFileHeader) :
    h₀.read { s with position := p } =
      (rule ((Call.applyAll calls h).getSignature.toNat = Signatures.centralFileHeader)
        "central file header does not match signature" .invalidHeader).map
        fun _ => (Call.applyAll calls h, { s with position := p + (Call.applyAll calls h).size }) :=
  read_write_of_consistent (applyAll_consistent (consistent_of_read hr) hk) hs h₀

/-- signature だけを持ち、可変長 field がどれも空の header。 -/
def emptyHeader : CentralFileHeader := new.setSignature 0x02014b50

def emptyStream : StreamBase := .ofBytes emptyHeader.write (by decide)

/-- `emptyHeader` に名前 "a" と crc 7 を入れる呼び出し。 -/
def sampleCalls : List Call := [.fileName [0x61], .crc 7]

def sampleStream : StreamBase := .ofBytes (Call.applyAll sampleCalls emptyHeader).write (by decide)

theorem sampleStream_read_write_applyAll :
    new.read { sampleStream with position := 0 } =
      (rule ((Call.applyAll sampleCalls emptyHeader).getSignature.toNat =
          Signatures.centralFileHeader)
        "central file header does not match signature" .invalidHeader).map
        fun _ => (Call.applyAll sampleCalls emptyHeader,
          { sampleStream with position := 0 + (Call.applyAll sampleCalls emptyHeader).size }) :=
  read_write_applyAll
    (show new.read emptyStream = .ok (emptyHeader, { emptyStream with position := 46 }) from rfl)
    (show ∀ c ∈ sampleCalls, c.KeepsLengths by simp [sampleCalls, Call.KeepsLengths])
    (s := sampleStream) (p := 0) ⟨by decide, rfl⟩ new

/-! ### `SetComment` -/

/-- `SetComment(c)` の後の field：comment は `c`、extra field length は `c` の長さで、
comment length は変わらない。 -/
theorem setComment_fields (h : CentralFileHeader) (c : List UInt8) :
    (h.setComment c).getComment = c ∧ (h.setComment c).getFileName = h.getFileName ∧
      (h.setComment c).getExtraField = h.getExtraField ∧
      ((h.setComment c).field 11).toNat = c.length % 2 ^ 16 ∧
      ∀ i, i ≠ 11 → i ≠ 19 → (h.setComment c).field i = h.field i := by
  simp only [setComment, setExtraFieldLength, getComment, getFileName, getExtraField,
    StructuredObject.getBytes, StructuredObject.setNat, StructuredObject.setBytes]
  refine ⟨?_, ?_, ?_, ?_, fun i h11 h19 => ?_⟩
  · rw [StructuredObject.field_modify_of_ne _ _ _ (by decide),
      StructuredObject.field_modify_self _ _ _ (by decide),
      Field.bytes_setBytes_of_bytesN (h.kind_field 19)]
  iterate 2
    rw [StructuredObject.field_modify_of_ne _ _ _ (by decide),
      StructuredObject.field_modify_of_ne _ _ _ (by decide)]
  · rw [StructuredObject.field_modify_self _ _ _ (by decide), Field.toNat_setNat_of_bytes2
      (by rw [StructuredObject.kind_field]; rfl), UInt16.toNat_ofNat_eq,
      Nat.mod_mod]
  · rw [StructuredObject.field_modify_of_ne _ _ _ (Ne.symm h11),
      StructuredObject.field_modify_of_ne _ _ _ (Ne.symm h19)]

/-- `emptyHeader` に `SetComment("A")` をして書いた byte 列。 -/
def commentedStream : StreamBase := .ofBytes (emptyHeader.setComment [0x41]).write (by decide)

/--
`SetComment(c)` は長さを comment length ではなく extra field length に書く。comment の無い
header に空でない comment を入れて書き、どの前の状態から読み戻しても、読めて comment は空で、
`c` の長さの分は extra field として読まれる。
-/
theorem setComment_readBack_loses_comment {h : CentralFileHeader} (hc : h.Consistent)
    (hsig : h.getSignature.toNat = Signatures.centralFileHeader) (hk : h.getComment = [])
    {c : List UInt8} (hne : c ≠ []) (hlen : c.length < 2 ^ 16) {s : StreamBase} {p : Nat}
    (hs : s.Holds p (h.setComment c).write) (h₀ : CentralFileHeader) :
    ∃ r, h₀.read { s with position := p } = .ok r ∧ r.1.getComment = [] ∧ r.1.getComment ≠ c ∧
      r.1.getExtraField.length = c.length := by
  obtain ⟨hcom, hname, hextra, h11, hrest⟩ := setComment_fields h c
  set h' := h.setComment c
  have hu16 : ∀ i, i ≤ 17 → layout.getD i .bytesN = .bytes2 →
      s.uintAt (p + ((new.fields.take i).map Field.size).sum) 2 = (h'.getU16 i).toNat :=
    fun i hi hk => take_map_size h' hi ▸ h'.uintAt_getU16_of_holds hs (by simp [layout]; omega) hk
  have hkeep : ∀ i, i ≠ 11 → i ≠ 19 → h'.getU16 i = h.getU16 i := fun i h11 h19 => by
    rw [StructuredObject.getU16, StructuredObject.getU16, hrest i h11 h19]
  have h0 : s.uintAt p 4 = Signatures.centralFileHeader := by
    have := h'.uintAt_of_holds hs (i := 0) (by decide) (by decide)
    rw [Field.size_of_bytes4 ((h'.kind_field 0).trans rfl), hrest 0 (by omega) (by omega)] at this
    rw [← hsig, getSignature, h.toNat_getU32 0 rfl]
    simpa using this
  have h10 : s.uintAt (p + 28) 2 = h.getFileName.length := (hu16 10 (by omega) rfl).trans (by
    rw [hkeep 10 (by omega) (by omega), ← getFileNameLength, hc.fileName])
  have h11' : s.uintAt (p + 30) 2 = c.length := (hu16 11 (by omega) rfl).trans (by
    rw [h'.toNat_getU16 11 rfl, h11, Nat.mod_eq_of_lt hlen])
  have h12 : s.uintAt (p + 32) 2 = 0 := (hu16 12 (by omega) rfl).trans (by
    rw [hkeep 12 (by omega) (by omega), ← getFileCommentLength, hc.comment, hk]; rfl)
  have hL : p + 46 + h.getFileName.length + h.getExtraField.length + c.length ≤ s.length := by
    have := hs.1
    rw [StructuredObject.length_write, size_eq h', hname, hextra, hcom] at this
    omega
  obtain ⟨-, -, hiff, hok⟩ := read_spec h₀ s p
  obtain ⟨r, hr⟩ := hiff.2 ⟨by omega, h0, by rw [h10, h11', h12]; omega⟩
  obtain ⟨-, -, -, hex, hcm, -⟩ := hok r hr
  rw [h12] at hcm
  rw [h11'] at hex
  have hnil : r.1.getComment = [] := by rw [hcm, StreamBase.slice_zero]
  exact ⟨r, hr, hnil, hnil ▸ Ne.symm hne, by rw [hex, StreamBase.length_slice]⟩

theorem emptyHeader_setComment_readBack :
    ∃ r, new.read commentedStream = .ok r ∧ r.1.getComment = [] ∧ r.1.getComment ≠ [0x41] ∧
      r.1.getExtraField.length = [0x41].length :=
  setComment_readBack_loses_comment (h := emptyHeader) ⟨rfl, rfl, rfl⟩ rfl rfl (c := [0x41])
    (by decide) (by decide) (s := commentedStream) (p := 0) ⟨by decide, rfl⟩ new

end CentralFileHeader

namespace LocalFileHeader

/-- 二つの長さの field が、それぞれの可変長 field の長さと合っている。 -/
structure Consistent (h : LocalFileHeader) : Prop where
  fileName : h.getFileNameLength.toNat = h.getFileName.length
  extraField : h.getExtraFieldLength.toNat = (h.getBytes 12).length

theorem resizesSettled {h : LocalFileHeader} (hc : h.Consistent) :
    h.ResizesSettled validators 0 := by
  simp only [validators, StructuredObject.ResizesSettled]
  exact ⟨h.resize_settled 9 11 rfl rfl hc.fileName, h.resize_settled 10 12 rfl rfl hc.extraField,
    trivial⟩

/-- 長さの合った header を書いた byte 列は、どの前の状態からでも、signature が合えばその
header に読み戻せる。 -/
theorem read_write_of_consistent {h : LocalFileHeader} (hc : h.Consistent) {s : StreamBase} {p : Nat}
    (hs : s.Holds p h.write) (h₀ : LocalFileHeader) :
    h₀.read { s with position := p } =
      (rule ((h.getU32 0).toNat = Signatures.localFileHeader)
        "file header does not match signature" .invalidHeader).map
        fun _ => (h, { s with position := p + h.size }) := by
  rw [read_eq_read_new, ← read_eq_read_new h]
  simp only [read, StructuredObject.read]
  rw [StructuredObject.readFrom_self h.toStructuredObject s validators 0 p rfl (resizesSettled hc)
    (by simpa [StructuredObject.write] using hs)]
  rw [StructuredObject.toNat_getU32 h.toStructuredObject 0 rfl]
  by_cases hsig : (h.field 0).toNat = Signatures.localFileHeader <;>
    simp [StructuredObject.selfChecks, validators, Validator.signature, rule, require, hsig,
      Except.map, StructuredObject.size]

/-- 可変長 field より前の field の幅は、どの header でも同じ。 -/
theorem take_map_size (h : LocalFileHeader) {i : Nat} (hi : i ≤ 11) :
    (h.fields.take i).map Field.size = (new.fields.take i).map Field.size := by
  have ha := StructuredObject.agree_init h.toStructuredObject new.toStructuredObject [11, 12]
    (by decide)
  refine List.ext_getElem? fun j => ?_
  simp only [List.getElem?_map, List.getElem?_take]
  split
  · exact ha.2 j (by simp; omega)
  · rfl

theorem fields_eq (h : LocalFileHeader) :
    h.fields = h.fields.take 11 ++ [h.field 11, h.field 12] := by
  have hl : h.fields.length = 13 := h.length_fields
  refine List.ext_getElem? fun j => ?_
  rcases (by omega : j < 11 ∨ j = 11 ∨ j = 12 ∨ 13 ≤ j) with hj | rfl | rfl | hj
  · rw [List.getElem?_append_left (by simp; omega), List.getElem?_take, if_pos hj]
  rotate_left 2
  · rw [List.getElem?_eq_none (by omega), List.getElem?_eq_none (by simp [hl]; omega)]
  all_goals rw [List.getElem?_append_right (by simp [hl])]; simp [StructuredObject.field_eq_getD, hl]

/-- header の大きさは、固定部の 30 byte と二つの可変長 field の長さの和。 -/
theorem size_eq (h : LocalFileHeader) :
    h.size = 30 + h.getFileName.length + (h.getBytes 12).length := by
  rw [StructuredObject.size_eq, fields_eq h, List.map_append, List.sum_append, take_map_size h le_rfl,
    getFileName, h.length_getBytes 11 rfl, h.length_getBytes 12 rfl]
  simp only [List.map_cons, List.map_nil, List.sum_cons, List.sum_nil]
  have : ((new.fields.take 11).map Field.size).sum = 30 := rfl
  omega

/-- 読めた header は、長さの field が可変長 field の長さと合い、signature も合っている。 -/
theorem consistent_and_signature_of_read {h h' : LocalFileHeader} {s s' : StreamBase}
    (hr : h.read s = .ok (h', s')) :
    h'.Consistent ∧ (h'.getU32 0).toNat = Signatures.localFileHeader := by
  rw [read_eq_read_new, show s = { s with position := s.position } from rfl] at hr
  obtain ⟨hfit, hfail⟩ := read_new s s.position
  by_cases hf : s.position + 30 + s.uintAt (s.position + 26) 2 + s.uintAt (s.position + 28) 2 ≤
      s.length
  · obtain ⟨h'', hf'', hr'⟩ := hfit hf
    rw [hr', map_rule_eq_ok] at hr
    obtain ⟨hsig, hh⟩ := hr
    cases hh
    have hlen : (decodeFields s ((shape 0 0).take 11) s.position).length = 11 := by simp [shape]
    refine ⟨⟨?_, ?_⟩, ?_⟩ <;>
      simp [getFileNameLength, getFileName, getExtraFieldLength, StructuredObject.getU16,
        StructuredObject.getU32, StructuredObject.getBytes, StructuredObject.field, hf'',
        decodeFields_shape, List.getD_append_right _ _ _ _, hlen, shape, Nat.add_assoc,
        UInt16.toNat_ofNat_eq, UInt32.toNat_ofNat_eq, hsig, Signatures.localFileHeader] <;>
      simpa using s.uintAt_lt _ 2
  · obtain ⟨e, he⟩ := hfail (by omega)
    rw [he] at hr
    cases hr

/-- 長さの field 以外の `SetValue` は、長さの合った header を保ち、signature を変えない。 -/
theorem setNat_consistent {h : LocalFileHeader} (hc : h.Consistent) {i : Nat}
    (hi : i ≠ 0 ∧ i ≠ 9 ∧ i ≠ 10) (n : Nat) :
    (⟨h.setNat i n⟩ : LocalFileHeader).Consistent ∧
      (⟨h.setNat i n⟩ : LocalFileHeader).getU32 0 = h.getU32 0 := by
  obtain ⟨h0, h9, h10⟩ := hi
  refine ⟨⟨?_, ?_⟩, ?_⟩
  · simpa [getFileNameLength, getFileName, h.getU16_setNat_of_ne h9] using hc.fileName
  · simpa [getExtraFieldLength, h.getU16_setNat_of_ne h10] using hc.extraField
  · rw [StructuredObject.getU32, StructuredObject.getU32, StructuredObject.setNat,
      StructuredObject.field_modify_of_ne _ _ _ h0]

/-- 値の setter の呼び出し。名前と長さの field を書く setter は入れない。 -/
inductive Call where
  | compressedSize (value : UInt32)
  | uncompressedSize (value : UInt32)
  deriving DecidableEq, Repr

namespace Call

/-- 呼び出しを一つ行う。 -/
def apply : Call → LocalFileHeader → LocalFileHeader
  | compressedSize v, h => h.setCompressedSize v
  | uncompressedSize v, h => h.setUncompressedSize v

/-- 呼び出しを順に行う。 -/
def applyAll (calls : List Call) (h : LocalFileHeader) : LocalFileHeader :=
  calls.foldl (fun h c => c.apply h) h

end Call

/-- 呼び出しの列は、長さの合った header を保ち、signature を変えない。 -/
theorem applyAll_consistent (calls : List Call) :
    ∀ {h : LocalFileHeader}, h.Consistent →
      (Call.applyAll calls h).Consistent ∧ (Call.applyAll calls h).getU32 0 = h.getU32 0 := by
  induction calls with
  | nil => exact fun hc => ⟨hc, rfl⟩
  | cons c cs ih =>
    intro h hc
    have hstep : (c.apply h).Consistent ∧ (c.apply h).getU32 0 = h.getU32 0 := by
      cases c <;> exact setNat_consistent hc (by decide) _
    obtain ⟨hc', h0'⟩ := ih hstep.1
    exact ⟨hc', h0'.trans hstep.2⟩

/--
読めた local file header に `SetCompressedSize` と `SetUncompressedSize` をどの順に何回
呼んでも、書いた byte 列は、どの前の状態からでもその header に読み戻せる。
-/
theorem read_write_applyAll_sizes {h₁ h : LocalFileHeader} {s₁ s₁' : StreamBase}
    (hr : h₁.read s₁ = .ok (h, s₁')) (calls : List Call) {s : StreamBase} {p : Nat}
    (hs : s.Holds p (Call.applyAll calls h).write) (h₀ : LocalFileHeader) :
    h₀.read { s with position := p } =
      .ok (Call.applyAll calls h, { s with position := p + (Call.applyAll calls h).size }) := by
  obtain ⟨hc, hsig⟩ := consistent_and_signature_of_read hr
  obtain ⟨hc', h0⟩ := applyAll_consistent calls hc
  rw [read_write_of_consistent hc' hs h₀, h0, hsig]
  rfl

/--
`SetFileName(name)` は名前の buffer の写しを resize して捨て、長さだけを書く。名前は
変わらず、名前を長くすると、書いた byte 列で終わる stream からは、どの前の状態からも
読み戻せない。
-/
theorem setFileName_readBack_fails {h : LocalFileHeader} (hc : h.Consistent) {name : List UInt8}
    (hlong : h.getFileName.length < name.length) (hn : name.length < 2 ^ 16) {s : StreamBase}
    {p : Nat} (hs : s.Holds p (h.setFileName name).write)
    (hend : s.length = p + (h.setFileName name).write.length) (h₀ : LocalFileHeader) :
    (h.setFileName name).getFileName = h.getFileName ∧
      ∃ e, h₀.read { s with position := p } = .error e := by
  set h' := h.setFileName name
  have hobj : h'.toStructuredObject = h.setNat 9 (UInt16.ofNat name.length).toNat := rfl
  have hname : h'.getFileName = h.getFileName := by
    rw [getFileName, getFileName, hobj, StructuredObject.getBytes_setNat]
  have hu16 : ∀ i, i ≤ 11 → layout.getD i .bytesN = .bytes2 →
      s.uintAt (p + ((new.fields.take i).map Field.size).sum) 2 = (h'.getU16 i).toNat :=
    fun i hi hk => take_map_size h' hi ▸ h'.uintAt_getU16_of_holds hs (by simp [layout]; omega) hk
  have h26 : s.uintAt (p + 26) 2 = name.length := (hu16 9 (by omega) rfl).trans (by
    rw [hobj, h.toNat_getU16_setNat_self (show 9 < layout.length by decide) rfl,
      UInt16.toNat_ofNat_eq, Nat.mod_mod, Nat.mod_eq_of_lt hn])
  have h28 : s.uintAt (p + 28) 2 = (h.getBytes 12).length := (hu16 10 (by omega) rfl).trans (by
    rw [hobj, h.getU16_setNat_of_ne (show 9 ≠ 10 by decide), ← getExtraFieldLength,
      hc.extraField])
  have hsize : h'.write.length = 30 + h.getFileName.length + (h.getBytes 12).length := by
    rw [StructuredObject.length_write, size_eq h', hname, hobj, StructuredObject.getBytes_setNat]
  refine ⟨hname, ?_⟩
  obtain ⟨-, -, hiff, -⟩ := read_spec h₀ s p
  rcases hr : h₀.read { s with position := p } with e | r
  · exact ⟨e, rfl⟩
  · exact absurd (hiff.1 ⟨r, hr⟩).2.2 (by rw [h26, h28]; omega)

/-- signature だけを持ち、可変長 field がどれも空の header。 -/
def emptyHeader : LocalFileHeader := ⟨new.setNat 0 0x04034b50⟩

/-- `emptyHeader` に `SetFileName("A")` をして書いた byte 列。 -/
def namedStream : StreamBase := .ofBytes (emptyHeader.setFileName [0x41]).write (by decide)

theorem namedStream_setFileName_readBack_fails :
    (emptyHeader.setFileName [0x41]).getFileName = emptyHeader.getFileName ∧
      ∃ e, new.read { namedStream with position := 0 } = .error e :=
  setFileName_readBack_fails (h := emptyHeader) ⟨rfl, rfl⟩ (by decide) (by decide) (s := namedStream)
    (p := 0) ⟨by decide, rfl⟩ rfl new

/-- `emptyHeader` を書いた 30 byte。 -/
def emptyStream : StreamBase := .ofBytes emptyHeader.write (by decide)

/-- compressed size を 5、uncompressed size を 9 にする呼び出し。 -/
def sizeCalls : List Call := [.compressedSize 5, .uncompressedSize 9]

def sizedStream : StreamBase := .ofBytes (Call.applyAll sizeCalls emptyHeader).write (by decide)

theorem sizedStream_read_write_applyAll_sizes :
    new.read { sizedStream with position := 0 } =
      .ok (Call.applyAll sizeCalls emptyHeader,
        { sizedStream with position := 0 + (Call.applyAll sizeCalls emptyHeader).size }) :=
  read_write_applyAll_sizes
    (show new.read emptyStream = .ok (emptyHeader, { emptyStream with position := 30 }) from rfl)
    sizeCalls (s := sizedStream) (p := 0) ⟨by decide, rfl⟩ new

end LocalFileHeader

namespace DataDescriptor

/-- data descriptor を書いた 12 byte は、どの前の状態からでもその record に読み戻せる。 -/
theorem read_write (h : DataDescriptor) {s : StreamBase} {p : Nat} (hs : s.Holds p h.write)
    (h₀ : DataDescriptor) : h₀.read { s with position := p } = .ok (h, { s with position := p + 12 }) := by
  have hsz : (h.fields.map Field.size).sum = 12 := by
    have ha := StructuredObject.agree_init h.toStructuredObject new.toStructuredObject [] (by decide)
    rw [show h.fields.map Field.size = new.fields.map Field.size from
      List.ext_getElem? fun j => by simpa using ha.2 j (List.not_mem_nil j)]
    rfl
  simp only [read]
  rw [StructuredObject.read_eq_of_local validators rfl (by simp [validators, Validator.Local]) []
    (by decide) (by decide) h₀.toStructuredObject h.toStructuredObject, StructuredObject.read,
    StructuredObject.readFrom_self h.toStructuredObject s validators 0 p rfl
      (by simp [validators, StructuredObject.ResizesSettled])
      (by simpa [StructuredObject.write] using hs)]
  simp [StructuredObject.selfChecks, validators, Except.map, hsz]

/-- crc と compressed size を入れた data descriptor。 -/
def sampleDescriptor : DataDescriptor := (new.setCrc32 0xdeadbeef).setCompressedSize 5

def sampleStream : StreamBase := .ofBytes sampleDescriptor.write (by decide)

theorem sampleStream_read_write :
    new.read { sampleStream with position := 0 } =
      .ok (sampleDescriptor, { sampleStream with position := 0 + 12 }) :=
  read_write sampleDescriptor (s := sampleStream) (p := 0) ⟨by decide, rfl⟩ new

end DataDescriptor

end XPlat
