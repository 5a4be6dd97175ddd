import XPlatZip.Properties.Archive

/-!
# `ZipStream::Read` が見る byte

`ZipStream::Read` の結果は、file の長さ `L`、最後の 42 byte（locator と end of central
directory record）、relative offset `r` からの 56 byte のうち file の中にあるもの、だけで
決まる。central directory も、Zip64 record より前の byte も、file の終わりより先も見ない。

やり方は二段である。

1. **規則の列の congruence**：各 record の規則は、その record の byte だけを読む
   （`endRecordRules_congr`、`locatorRules_congr`、`zip64Rules_congr`）。
2. Zip64 record が file に収まらないときは、最初の四つの規則が `[r, r + 16)` の byte で
   失敗する（`zip64Prefix_error_of_lt`）ので、file の外の byte は結果に関わらない。
-/

namespace XPlat

namespace StreamBase

/-- 二つの stream が `[a, b)` で同じ byte を持つ。 -/
def Agree (s t : StreamBase) (a b : Nat) : Prop := ∀ i, a ≤ i → i < b → s.byte i = t.byte i

theorem Agree.mono {s t : StreamBase} {a b a' b' : Nat} (h : s.Agree t a b) (ha : a ≤ a')
    (hb : b' ≤ b) : s.Agree t a' b' :=
  fun i hi hi' => h i (by omega) (by omega)

/-- 同じ byte を持つところでは、値も同じ。 -/
theorem uintAt_congr {s t : StreamBase} {a b : Nat} (h : s.Agree t a b) {p w : Nat}
    (hp : a ≤ p) (hw : p + w ≤ b) : s.uintAt p w = t.uintAt p w :=
  congrArg decodeLE (List.map_congr_left fun i hi => h _ (by omega) (by simp at hi; omega))

end StreamBase

namespace Discovery

/- 規則の中身は、二つの規則の列の結果を比べるときに要らない。 -/
attribute [local irreducible] rule require

/-! ## 規則の列の congruence -/

section Congr

variable {s t : StreamBase} {p : Nat}

theorem endRecordRules_congr (h : s.Agree t p (p + 22)) : endRecordRules s p = endRecordRules t p := by
  simp (disch := omega) only [endRecordRules, StreamBase.uintAt_congr h]

theorem locatorRules_congr (h : s.Agree t p (p + 20)) (M : Nat) :
    locatorRules s p M = locatorRules t p M := by
  simp (disch := omega) only [locatorRules, StreamBase.uintAt_congr h]

theorem zip64Rules_congr (h : s.Agree t p (p + 56)) (M : Nat) :
    zip64Rules s p M = zip64Rules t p M := by
  simp (disch := omega) only [zip64Rules, zip64PrefixRules, zip64TailRules,
    StreamBase.uintAt_congr h]

theorem take_zip64PrefixRules_congr (h : s.Agree t p (p + 16)) :
    (zip64PrefixRules s p).take 4 = (zip64PrefixRules t p).take 4 := by
  simp (disch := omega) only [zip64PrefixRules, List.take, StreamBase.uintAt_congr h]

theorem relativeOffset_congr (hlen : s.length = t.length)
    (h : s.Agree t (s.length - 42) s.length) (h42 : 42 ≤ s.length) :
    relativeOffset s = relativeOffset t := by
  rw [relativeOffset, relativeOffset, ← hlen]
  exact StreamBase.uintAt_congr h (by omega) (by omega)

/--
locator までが通れば、Zip64 record の規則の結果は、relative offset からの 56 byte のうち
file の中にあるものだけで決まる。
-/
theorem firstError_zip64Rules_congr
    (hE : firstError (endRecordRules s (s.length - 22)) = .ok ()) (h42 : 42 ≤ s.length)
    (hLoc : firstError (locatorRules s (s.length - 42) (s.length - 22)) = .ok ())
    (hrec : s.Agree t (relativeOffset s) (min (relativeOffset s + 56) s.length)) (M : Nat) :
    firstError (zip64Rules s (relativeOffset s) M) =
      firstError (zip64Rules t (relativeOffset s) M) := by
  by_cases hfit : relativeOffset s + 56 ≤ s.length
  · rw [zip64Rules_congr (hrec.mono le_rfl (by omega))]
  obtain ⟨h16, e, he⟩ := zip64Prefix_error_of_lt hE h42 hLoc (by omega)
  have he' := take_zip64PrefixRules_congr (hrec.mono le_rfl (by omega)) ▸ he
  rw [zip64Rules, zip64Rules, firstError_append, firstError_append, firstError_of_take he,
    firstError_of_take he']
  rfl

end Congr

/-! ## 読み出し -/

/--
**`ZipStream::Read` が見る byte。** 長さが同じで、最後の 42 byte と、relative offset からの
56 byte のうち file の中にあるものが同じ二つの stream では、`Read` は同じ結果になる。
-/
theorem read_congr {s t : StreamBase} (hlen : s.length = t.length)
    (hend : s.Agree t (s.length - 42) s.length)
    (hrec : s.Agree t (relativeOffset s) (min (relativeOffset s + 56) s.length)) :
    ZipStream.read s = ZipStream.read t := by
  rw [read_eq_firstError, read_eq_firstError, discoveryRules, discoveryRules, ← hlen]
  simp only [List.cons_append, List.append_assoc, firstError_require_cons, firstError_append]
  by_cases h22 : 22 ≤ s.length
  swap
  · simp only [if_neg h22]
  rw [if_pos h22, if_pos h22, ← endRecordRules_congr (hend.mono (by omega) (by omega))]
  rcases hE : firstError (endRecordRules s (s.length - 22)) with e | ⟨⟩
  · rfl
  by_cases h42 : 42 ≤ s.length
  swap
  · simp only [if_neg h42]
  rw [if_pos h42, if_pos h42, ← locatorRules_congr (hend.mono (by omega) (by omega)),
    ← relativeOffset_congr hlen hend h42]
  rcases hLoc : firstError (locatorRules s (s.length - 42) (s.length - 22)) with e | ⟨⟩
  · rfl
  exact firstError_zip64Rules_congr hE h42 hLoc hrec _

/-- 先頭の 1 byte `b` の後に、`sampleZip64Calls` の Zip64 record、locator、end of central
directory record を書いた 99 byte の archive。 -/
def prefixedArchive (b : UInt8) : StreamBase :=
  .ofBytes (writtenArchive (fun _ => 0) 0 sampleZip64Calls [b])
    (by rw [length_writtenArchive, List.length_singleton]; decide)

theorem prefixedArchive_read_congr :
    (prefixedArchive 1).byte 0 ≠ (prefixedArchive 2).byte 0 ∧
      ZipStream.read (prefixedArchive 1) = ZipStream.read (prefixedArchive 2) := by
  have hL : (prefixedArchive 1).length = 99 := rfl
  have hr : relativeOffset (prefixedArchive 1) = 1 :=
    (@writtenArchive_layout (fun _ => 0) 0 sampleZip64Calls [1] _ 1 1 rfl rfl).1
  have hsame : ∀ i, 1 ≤ i → (prefixedArchive 1).byte i = (prefixedArchive 2).byte i := by
    intro i hi
    obtain ⟨j, rfl⟩ : ∃ j, i = j + 1 := ⟨i - 1, by omega⟩
    rfl
  exact ⟨by decide, read_congr rfl (fun i hi _ => hsame i (by omega))
    (fun i hi _ => hsame i (by omega))⟩

end Discovery

end XPlat
