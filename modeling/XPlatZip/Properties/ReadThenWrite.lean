import XPlatZip.Properties.PriorState
import XPlatZip.Records.Headers
import XPlatZip.Records.EndRecords

/-!
# 読んだ record を書く

`StructuredObject::Read()` が成功すれば、返った object を `Write()` で書いた byte 列は、
読み出しが消費した byte 列そのものである。`Size()` は消費した byte 数に等しい。

field は宣言順に読まれ、`i` 番の field はそのときの幅だけ読んで decode される。長さの
validator が resize するのは、まだ読んでいない後ろの field だけである（`resizesAhead`）。
そうであれば、読んだ field は後で書き換わらず、decode した値を書けば読んだ byte に戻る
（`Field.write_decode`）。これを `readFrom` の validator の列についての帰納法で示す
（`readFrom_consumed`）。

`ZipStream.cpp` の六つの record はどれもこの条件を満たすので、どの前の状態から読んでも、
読んだ record を書くと読んだ byte 列に戻る（`records_read_write`）。
-/

namespace XPlat

/-- 長さの validator が、`i` 番より後ろの field だけを resize する。 -/
def Validator.resizesAhead : Validator → Nat → Bool
  | .resizes target _, i => decide (i < target)
  | _, _ => true

/-- `i` 番から読む validator の列の、どの長さの validator も後ろの field だけを resize する。 -/
def Validator.allResizeAhead : List Validator → Nat → Bool
  | [], _ => true
  | v :: vs, i => v.resizesAhead i && allResizeAhead vs (i + 1)

namespace StructuredObject

variable {layout : List FieldKind}

/-- 後ろだけを resize する validator は、`i` 番までの field を変えない。 -/
theorem take_fields_of_run {v : Validator} {i : Nat} (hv : v.resizesAhead i = true) {d : Field}
    {o o' : StructuredObject layout} (h : v.run d o = .ok o') :
    o'.fields.take (i + 1) = o.fields.take (i + 1) := by
  cases v with
  | none => cases h; rfl
  | check bad e =>
    simp only [Validator.run] at h
    split at h <;> cases h
    rfl
  | resizes t e =>
    simp only [Validator.resizesAhead, decide_eq_true_eq] at hv
    simp only [Validator.run] at h
    split at h <;> cases h
    refine List.ext_getElem? fun j => ?_
    simp only [resize, fields_modify, List.getElem?_take]
    split
    · exact List.getElem?_modify_ne _ _ (by omega)
    · rfl

/-- `i` 番の field を読むと、`i` 番までの field は、前の field と読んだ値になる。 -/
theorem take_fields_modify (o : StructuredObject layout) {i : Nat} (hi : i < layout.length)
    (g : Field → Field) (hg) :
    (o.modify i g hg).fields.take (i + 1) = o.fields.take i ++ [g (o.field i)] := by
  have hi' : i < o.fields.length := by rw [length_fields]; exact hi
  rw [fields_modify, List.take_succ, List.take_modify, List.getElem?_modify_eq,
    List.getElem?_eq_getElem hi', field_eq_getD, List.getElem?_eq_getElem hi']
  simp [List.modify_eq_self (List.length_take_le i o.fields)]

/-- `i + 1` 個の prefix が `a ++ [x]` なら、`i` 個の prefix は `a` で、`i` 番は `x`。 -/
theorem take_succ_eq_append {α : Type} {l a : List α} {x : α} {i : Nat} (hi : i < l.length)
    (h : l.take (i + 1) = a ++ [x]) : l.take i = a ∧ l[i] = x := by
  rw [List.take_succ, List.getElem?_eq_getElem hi, Option.toList_some] at h
  obtain ⟨h₁, h₂⟩ := List.append_inj' h rfl
  exact ⟨h₁, List.singleton_inj.mp h₂⟩

/--
**読み出しの不変条件。** `i` 番から先を validator の列 `vs` で読み、成功すれば、

* `i` 番より前の field は変わらない
* 位置は進むだけで、file の中にとどまる
* 読んだ field を書くと、進んだ分の byte 列に戻る
-/
theorem readFrom_consumed :
    ∀ (vs : List Validator) (i : Nat) (o o' : StructuredObject layout) (s s' : StreamBase),
      Validator.allResizeAhead vs i = true → i + vs.length ≤ layout.length →
      s.position ≤ s.length → readFrom vs i o s = .ok (o', s') →
      o'.fields.take i = o.fields.take i ∧ s.position ≤ s'.position ∧ s'.position ≤ s.length ∧
        ((o'.fields.drop i).take vs.length).flatMap Field.write =
          s.slice s.position (s'.position - s.position)
  | [], i, o, o', s, s', _, _, hpos, h => by
    cases h
    exact ⟨rfl, le_rfl, hpos, by simp⟩
  | v :: vs, i, o, o', s, s', hahead, hlen, hpos, h => by
    simp only [Validator.allResizeAhead, Bool.and_eq_true] at hahead
    simp only [List.length_cons] at hlen
    have hfit : s.position + (o.field i).size ≤ s.length := by
      by_contra hlt
      simp [readFrom, readField, StreamBase.read_of_lt (Nat.lt_of_not_le hlt)] at h
    set b := s.slice s.position (o.field i).size with hb
    rw [readFrom_cons, readField_of_le o i s hfit] at h
    simp only at h
    split at h
    · cases h
    rename_i o₂ hrun
    obtain ⟨hpre, hle, hle', hw⟩ := readFrom_consumed vs (i + 1) o₂ o' _ s' hahead.2 (by omega)
      (by simp only; omega) h
    have htake : o'.fields.take (i + 1) = o.fields.take i ++ [(o.field i).decode b] := by
      rw [hpre, take_fields_of_run hahead.1 hrun, take_fields_modify o (by omega)]
    have hi : i < o'.fields.length := by rw [length_fields]; omega
    obtain ⟨hpre', hget⟩ := take_succ_eq_append hi htake
    simp only [StreamBase.slice_with_position] at hle hw
    refine ⟨hpre', by omega, hle', ?_⟩
    rw [List.length_cons, List.drop_eq_getElem_cons hi, List.take_succ_cons, List.flatMap_cons, hget,
      Field.write_decode _ _ (by rw [hb, StreamBase.length_slice]), hw, hb,
      ← StreamBase.slice_add, show (o.field i).size + (s'.position - (s.position +
        (o.field i).size)) = s'.position - s.position by omega]

/--
**読み出しと書き出し。** validator が layout の field ごとに一つずつあり、長さの validator が
後ろの field だけを resize するなら、成功した読み出しは `Size()` byte 進み、返った object を
書くと、読んだ位置からの byte 列に戻る。
-/
theorem read_consumed {vs : List Validator} (hvs : vs.length = layout.length)
    (hahead : Validator.allResizeAhead vs 0 = true) {o o' : StructuredObject layout}
    {s s' : StreamBase} (hpos : s.position ≤ s.length) (h : o.read vs s = .ok (o', s')) :
    s'.position = s.position + o'.size ∧ s.Holds s.position o'.write := by
  obtain ⟨-, hle, hle', hw⟩ := readFrom_consumed vs 0 o o' s s' hahead (by omega) hpos h
  rw [List.drop_zero, hvs, ← length_fields o', List.take_length] at hw
  have hlen : o'.write.length = s'.position - s.position := by
    rw [write, hw, StreamBase.length_slice]
  exact ⟨by rw [← length_write]; omega, by omega, by rw [hlen]; exact hw.symm⟩

end StructuredObject

theorem exists_of_map_eq_ok {α β : Type} {x : Except Exception α} {f : α → β} {b : β}
    (h : x.map f = .ok b) : ∃ a, x = .ok a ∧ f a = b := by
  cases x with
  | error e => cases h
  | ok a => exact ⟨a, rfl, Except.ok.inj h⟩

/--
**読んだ record を書く。** `ZipStream.cpp` の六つの record のどれも、どの前の状態からでも、
file の中の位置から読み出しが成功すれば、`Size()` byte 進み、返った record を `Write()` で
書くと、読んだ位置からの byte 列に戻る。
-/
theorem records_read_write {s s' : StreamBase} (hpos : s.position ≤ s.length) :
    (∀ h₀ h : LocalFileHeader, h₀.read s = .ok (h, s') →
      s'.position = s.position + h.size ∧ s.Holds s.position h.write) ∧
    (∀ h₀ h : DataDescriptor, h₀.read s = .ok (h, s') →
      s'.position = s.position + h.size ∧ s.Holds s.position h.write) ∧
    (∀ h₀ h : CentralFileHeader, h₀.read s = .ok (h, s') →
      s'.position = s.position + h.size ∧ s.Holds s.position h.write) ∧
    (∀ h₀ h : Zip64EndOfCentralDirectoryRecord, h₀.read s = .ok (h, s') →
      s'.position = s.position + h.size ∧ s.Holds s.position h.write) ∧
    (∀ h₀ h : Zip64EndOfCentralDirectoryLocator, h₀.read s = .ok (h, s') →
      s'.position = s.position + h.size ∧ s.Holds s.position h.write) ∧
    (∀ h₀ h : EndCentralDirectoryRecord, h₀.read s = .ok (h, s') →
      s'.position = s.position + h.size ∧ s.Holds s.position h.write) := by
  refine ⟨?_, ?_, ?_, ?_, ?_, ?_⟩ <;> intro h₀ h hr <;>
    obtain ⟨⟨o, s''⟩, hx, he⟩ := exists_of_map_eq_ok hr <;> cases he <;>
    exact StructuredObject.read_consumed (by rfl) (by rfl) hpos hx

/-- 1 から 12 までの 12 byte。 -/
def countingStream : StreamBase :=
  .ofBytes ((List.range 12).map fun i => UInt8.ofNat (i + 1)) (by decide)

/-- `countingStream` から読んだ data descriptor。 -/
def countingDescriptor : DataDescriptor :=
  ⟨⟨[.field4Bytes 0x04030201, .field4Bytes 0x08070605, .field4Bytes 0x0c0b0a09], rfl⟩⟩

theorem countingStream_records_read_write :
    DataDescriptor.new.read countingStream =
        .ok (countingDescriptor, { countingStream with position := 12 }) ∧
      countingStream.Holds 0 countingDescriptor.write :=
  have hr : DataDescriptor.new.read countingStream =
      .ok (countingDescriptor, { countingStream with position := 12 }) := rfl
  ⟨hr, ((records_read_write (s := countingStream) (by decide)).2.1 _ _ hr).2⟩

end XPlat
