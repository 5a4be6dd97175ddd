import XPlatZip.ZipStream
import XPlatZip.Properties.EndRecordRead

/-!
# `ZipStream::Read` が受け入れる archive

`ZipStream.read` を、`Spec/Discovery.lean` の規則の列で言い表す。

* `read_eq_firstError` — どの stream でも、`read` は `discoveryRules` の最初の失敗である
* `read_iff_discoveryRules` — 成功するのは規則がすべて通るときで、失敗すれば最初に破れた規則の例外
* `zip64Record_before_locator` — 成功すれば、Zip64 record の最初の 26 byte は locator より前にある。
  この上界はちょうどである（`tightArchive`）
* `centralDirectory_bounds` — 成功すれば、central directory の大きさと offset はそれぞれ `[1, L - 42]`
* `read_within_file` — file の終わりを越えて読むことはない

要になるのは byte の並びの議論である。Zip64 record の最初の 16 byte（signature、size 44、
version 45 が二つ）に `0x50` は先頭にしか無く、locator と end of central directory record は
`0x50` で始まる。だから locator が受け入れた `r ≤ L - 22` のうち、最初の四つの規則を通る
`r` は `r + 16 ≤ L - 42` を満たす（`add_sixteen_le`）。続く二つの disk の field は 0 なので
locator の signature を含まず、`r + 24 ≤ L - 42`（`add_le_of_zeros`）。locator が 24 byte 目や
25 byte 目から始まると、二つの entries が等しいことから `r` が決まり、central directory の大きさや
offset が `L - 42` を越える（`locator_ne_add_24`、`locator_ne_add_25`）。
-/

namespace XPlat

namespace Discovery

/-! ## 決まった byte の並び -/

/-- Zip64 record の最初の 16 byte：signature、size 44、version 45 が二つ。 -/
def zip64Head : List UInt8 :=
  encodeLE 4 0x06064b50 ++ encodeLE 8 44 ++ encodeLE 2 45 ++ encodeLE 2 45

/-- locator の最初の 8 byte：signature と disk 0。 -/
def locatorHead : List UInt8 := encodeLE 4 0x07064b50 ++ encodeLE 4 0

/-- end of central directory record の signature。 -/
def endSignature : List UInt8 := encodeLE 4 0x06054b50

theorem zip64Head_getD_ne : ∀ k < 16, 0 < k → zip64Head.getD k 0 ≠ 0x50 := by
  decide

theorem locatorHead_getD_ne : ∀ k < 8, 0 < k → locatorHead.getD k 0 ≠ 0x50 := by
  decide

section Pattern

variable {s : StreamBase} {r : Nat}

/--
Zip64 record の最初の 16 byte は、archive の終わりの二つの record に重ならない。

`r` が locator の始まりなら 3 byte 目が `0x06` と `0x07` で食い違い、end of central
directory record の始まりなら 2 byte 目が `0x06` と `0x05` で食い違う。それ以外の重なり方では、
片方の先頭の `0x50` が、もう片方の `0x50` でない byte に重なる。
-/
theorem add_sixteen_le (hhead : s.slice r 16 = zip64Head)
    (hloc : s.slice (s.length - 42) 8 = locatorHead)
    (hsig : s.slice (s.length - 22) 4 = endSignature)
    (h42 : 42 ≤ s.length) (hr : r ≤ s.length - 22) : r + 16 ≤ s.length - 42 := by
  have hA : s.slice r zip64Head.length = zip64Head := hhead
  have hB : s.slice (s.length - 42) locatorHead.length = locatorHead := hloc
  have hC : s.slice (s.length - 22) endSignature.length = endSignature := hsig
  have hlA : zip64Head.length = 16 := rfl
  have hlB : locatorHead.length = 8 := rfl
  have hlC : endSignature.length = 4 := rfl
  by_contra hc
  rcases Nat.lt_or_ge r (s.length - 42) with hlt | hge
  · -- locator の signature が Zip64 record の途中に来る
    exact zip64Head_getD_ne (s.length - 42 - r) (by omega) (by omega)
      (StreamBase.getD_eq_of_overlap hA hB (j := 0) (by omega) (by omega) (by omega))
  rcases Nat.lt_or_ge r (s.length - 34) with hlt' | hge'
  · rcases Nat.eq_or_lt_of_le hge with heq | hgt
    · -- locator の始まり
      exact absurd (StreamBase.getD_eq_of_overlap hA hB (i := 3) (j := 3) (by omega) (by omega)
        (by omega)) (by decide)
    · -- locator の signature と disk の途中
      exact locatorHead_getD_ne (r - (s.length - 42)) (by omega) (by omega)
        (StreamBase.getD_eq_of_overlap hA hB (i := 0) (by omega) (by omega) (by omega)).symm
  rcases Nat.lt_or_ge r (s.length - 22) with hlt'' | hge''
  · -- end of central directory record の signature が途中に来る
    exact zip64Head_getD_ne (s.length - 22 - r) (by omega) (by omega)
      (StreamBase.getD_eq_of_overlap hA hC (j := 0) (by omega) (by omega) (by omega))
  · -- end of central directory record の始まり
    exact absurd (StreamBase.getD_eq_of_overlap hA hC (i := 2) (j := 2) (by omega) (by omega)
      (by omega)) (by decide)

/-- 0 の並びは locator の signature を含まない。 -/
theorem add_le_of_zeros {q n : Nat} (hz : s.slice q n = List.replicate n 0)
    (hloc : s.slice (s.length - 42) 8 = locatorHead) (hq : q ≤ s.length - 42) :
    q + n ≤ s.length - 42 := by
  have hA : s.slice q (List.replicate n (0 : UInt8)).length = List.replicate n 0 := by
    simpa using hz
  have hB : s.slice (s.length - 42) locatorHead.length = locatorHead := hloc
  by_contra hc
  have := StreamBase.getD_eq_of_overlap hA hB (i := s.length - 42 - q) (j := 0) (by simp; omega)
    (by decide) (by omega)
  simp only [List.getD_eq_getElem?_getD, List.getElem?_replicate,
    if_pos (by omega : s.length - 42 - q < n)] at this
  exact absurd this (by decide)

/--
locator は Zip64 record の 24 byte 目からは始まらない。始まれば、二つの entries は locator の
signature と disk、relative offset `r` なので `r = 0x07064b50` で、central directory の大きさは
locator の total number of disks と end of central directory record の signature からなり、
`L - 42 = r + 24` を越える。
-/
theorem locator_ne_add_24 {q : Nat} (hq : q = r + 24) (hsig : s.uintAt q 4 = 0x07064b50)
    (hdisk : s.uintAt (q + 4) 4 = 0) (hrel : s.uintAt (q + 8) 8 = r)
    (hdisks : s.uintAt (q + 16) 4 = 1) (hend : s.uintAt (q + 20) 4 = 0x06054b50)
    (hT : s.uintAt (r + 32) 8 = s.uintAt (r + 24) 8) (hS : s.uintAt (r + 40) 8 ≤ q) : False := by
  subst hq
  have hE := s.uintAt_add (r + 24) 4 4
  have hSz := s.uintAt_add (r + 40) 4 4
  simp only [Nat.add_assoc, Nat.reduceAdd, Nat.reducePow] at hdisk hrel hdisks hend hE hSz
  omega

/--
locator は Zip64 record の 25 byte 目からも始まらない。始まれば、二つの entries が等しいことから
`r` の下位 7 byte は locator の signature `0x07064b50` で、`r < 2 ^ 64 - 2 ^ 56 + 2 ^ 32` である。
central directory の offset の上位 3 byte は end of central directory record の二つの entries
`0xFFFF` にかかるので、offset は `2 ^ 64 - 2 ^ 40` 以上で、`L - 42 = r + 25` を越える。
-/
theorem locator_ne_add_25 {q : Nat} (hq : q = r + 25) (hsig : s.uintAt q 4 = 0x07064b50)
    (hdisk : s.uintAt (q + 4) 4 = 0) (hrel : s.uintAt (q + 8) 8 = r)
    (hentries : s.uintAt (q + 20 + 8) 2 = 0xFFFF) (htotal : s.uintAt (q + 20 + 10) 2 = 0xFFFF)
    (hT : s.uintAt (r + 32) 8 = s.uintAt (r + 24) 8) (hO : s.uintAt (r + 48) 8 ≤ q) : False := by
  subst hq
  -- 重なりの境目で field を割る
  have e₁ := s.uintAt_add (r + 24) 1 7
  have e₂ := s.uintAt_add (r + 25) 4 3
  have e₃ := s.uintAt_add (r + 29) 3 1
  have e₄ := s.uintAt_add (r + 32) 1 7
  have e₅ := s.uintAt_add (r + 33) 7 1
  have e₆ := s.uintAt_add (r + 48) 5 3
  have e₇ := s.uintAt_add (r + 53) 2 1
  have e₈ := s.uintAt_add (r + 55) 1 1
  have b₁ := s.uintAt_lt (r + 24) 1
  have b₂ := s.uintAt_lt (r + 40) 1
  have b₃ := s.uintAt_lt (r + 55) 1
  have b₄ := s.uintAt_lt (r + 56) 1
  simp only [Nat.add_assoc, Nat.reduceAdd, Nat.reducePow] at *
  omega

end Pattern

section Rules

/- 規則の中身は `firstError` の値を比べるときに要らない。 -/
attribute [local irreducible] rule require

/-! ## 規則から byte の並びへ -/

section RulesToBytes

variable {s : StreamBase} {p : Nat}

theorem endSignature_of_rules (h : firstError (endRecordRules s p) = .ok ()) :
    s.slice p 4 = endSignature := by
  simp only [firstError_eq_ok_iff, endRecordRules, List.mem_cons, forall_eq_or_imp,
    rule_eq_ok] at h
  exact StreamBase.slice_eq_encodeLE h.1 (by decide)

theorem locatorHead_of_rules {M : Nat} (h : firstError (locatorRules s p M) = .ok ()) :
    s.slice p 8 = locatorHead := by
  simp only [firstError_eq_ok_iff, locatorRules, List.mem_cons, forall_eq_or_imp,
    rule_eq_ok] at h
  rw [show 8 = 4 + 4 from rfl, StreamBase.slice_add, StreamBase.slice_eq_encodeLE h.1 (by decide),
    StreamBase.slice_eq_encodeLE h.2.1 (by decide)]
  rfl

theorem relativeOffset_le_of_rules {M : Nat} (h : firstError (locatorRules s p M) = .ok ()) :
    s.uintAt (p + 8) 8 ≤ M := by
  simp only [firstError_eq_ok_iff, locatorRules, List.mem_cons, forall_eq_or_imp,
    rule_eq_ok] at h
  exact h.2.2.1

theorem zip64Head_of_rules (h : firstError ((zip64PrefixRules s p).take 4) = .ok ()) :
    s.slice p 16 = zip64Head := by
  simp only [firstError_eq_ok_iff, zip64PrefixRules, List.take, List.mem_cons, forall_eq_or_imp,
    rule_eq_ok] at h
  rw [show 16 = 4 + 8 + 2 + 2 from rfl, StreamBase.slice_add, StreamBase.slice_add,
    StreamBase.slice_add, StreamBase.slice_eq_encodeLE h.1 (by decide),
    StreamBase.slice_eq_encodeLE h.2.1 (by decide), StreamBase.slice_eq_encodeLE h.2.2.1 (by decide),
    StreamBase.slice_eq_encodeLE h.2.2.2.1 (by decide)]
  rfl

end RulesToBytes

/-! ## `ZipStream.read` の三つの段 -/

section Read

variable {s : StreamBase}

theorem seek_endRecord (s : StreamBase) : s.seek ((0 - 1) * UInt64.ofNat 22) .END =
    if 22 ≤ s.length then .ok { s with position := s.length - 22 }
    else .error (.stream .seekOutOfRange) :=
  StreamBase.seek_END (by decide) (by decide)

theorem seek_locator (s : StreamBase) :
    s.seek ((0 - 1) * (UInt64.ofNat 22 + UInt64.ofNat 20)) .END =
      if 42 ≤ s.length then .ok { s with position := s.length - 42 }
      else .error (.stream .seekOutOfRange) :=
  StreamBase.seek_END (by decide) (by decide)

/--
位置 `r` からの Zip64 record の読み出し。locator と end of central directory record の
先頭が file の終わりにあり、`r ≤ L - 22` なら、`zip64Rules` の最初の失敗である。

最初の五つの規則が通れば、record は locator より前に始まるので file に収まる。
-/
theorem read_zip64 (M : UInt64) {r : Nat} (hloc : s.slice (s.length - 42) 8 = locatorHead)
    (hsig : s.slice (s.length - 22) 4 = endSignature) (h42 : 42 ≤ s.length)
    (hr : r ≤ s.length - 22) :
    ((Zip64EndOfCentralDirectoryRecord.new M).read { s with position := r }).bind
        (fun _ => .ok ()) = firstError (zip64Rules s r M.toNat) := by
  rcases hp : firstError (zip64PrefixRules s r) with e | u
  · rw [Zip64EndOfCentralDirectoryRecord.read_new_of_prefix_error s r M e (by omega) hp,
      zip64Rules, firstError_append, hp]
    rfl
  · cases u
    have h16 := add_sixteen_le (zip64Head_of_rules (firstError_take hp 4)) hloc hsig h42 hr
    have hzero : s.slice (r + 16) 4 = List.replicate 4 0 := by
      simp only [firstError_eq_ok_iff, zip64PrefixRules, List.mem_cons, forall_eq_or_imp,
        rule_eq_ok] at hp
      exact StreamBase.slice_eq_encodeLE hp.2.2.2.2.1 (by decide)
    have h20 := add_le_of_zeros hzero hloc h16
    obtain ⟨h', hread⟩ := Zip64EndOfCentralDirectoryRecord.read_new_of_le s r M (by omega)
    rw [hread]
    cases firstError (zip64Rules s r M.toNat) <;> rfl

/--
**`ZipStream.read` は `discoveryRules` の最初の失敗である。**

三つの段のそれぞれで、seek が失敗すれば `require` が、record の読み出しが失敗すれば
その record の規則が同じ例外を出す。`maxOffset` の `Ftell() - Size()` は `L - 22` と
`L - 42` になる。
-/
theorem read_eq_firstError (s : StreamBase) :
    ZipStream.read s = firstError (discoveryRules s) := by
  have hL := s.length_lt
  simp only [ZipStream.read, EndCentralDirectoryRecord.size_new,
    Zip64EndOfCentralDirectoryLocator.size_new, seek_endRecord, discoveryRules]
  by_cases h22 : 22 ≤ s.length
  swap
  · simp only [if_neg h22, List.cons_append, firstError_require_cons]
    rfl
  -- end of central directory record
  obtain ⟨e, he, hreadE⟩ := EndCentralDirectoryRecord.read_new s (s.length - 22) (by omega)
  simp only [if_pos h22, List.cons_append, List.append_assoc, firstError_require_cons,
    firstError_append, bind, Except.bind, hreadE]
  rcases hE : firstError (endRecordRules s (s.length - 22)) with ee | u
  · rfl
  cases u
  simp only [Except.map, he, seek_locator]
  by_cases h42 : 42 ≤ s.length
  swap
  · simp only [if_neg h42]
  -- locator
  have hM₁ : (StreamBase.ftell { s with position := s.length - 22 + 22 } -
      UInt64.ofNat 22).toNat = s.length - 22 := UInt64.toNat_ofNat_add_sub (by omega)
  obtain ⟨l, hls, hl, hreadL⟩ := Zip64EndOfCentralDirectoryLocator.read_new s (s.length - 42)
    (StreamBase.ftell { s with position := s.length - 22 + 22 } - UInt64.ofNat 22) (by omega)
  simp only [if_pos h42, hreadL, hM₁]
  rcases hLoc : firstError (locatorRules s (s.length - 42) (s.length - 22)) with el | u
  · rfl
  cases u
  -- Zip64 end of central directory record
  have hr : l.getRelativeOffset.toNat = relativeOffset s := by
    rw [hl, relativeOffset, show s.length - 42 + 8 = s.length - 34 by omega]
  have hrle := relativeOffset_le_of_rules hLoc
  rw [show s.length - 42 + 8 = s.length - 34 by omega, ← relativeOffset] at hrle
  have hM₂ : (StreamBase.ftell { s with position := s.length - 42 + 20 } -
      UInt64.ofNat 20).toNat = s.length - 42 := UInt64.toNat_ofNat_add_sub (by omega)
  have hseek : StreamBase.seek { s with position := s.length - 42 + 20 } l.getRelativeOffset .START =
      .ok { s with position := l.getRelativeOffset.toNat } :=
    StreamBase.seek_START (show l.getRelativeOffset.toNat ≤ s.length by omega)
  have hz := read_zip64
    (StreamBase.ftell { s with position := s.length - 42 + 20 } - UInt64.ofNat 20)
    (locatorHead_of_rules hLoc) (endSignature_of_rules hE) h42 (r := l.getRelativeOffset.toNat)
    (by omega)
  rw [hM₂, hr] at hz
  simp only [Except.map, hls, hseek, hr]
  exact hz

end Read

/-- 規則がすべて通るのは、三つの段の規則がそれぞれ通るときである。 -/
theorem firstError_discoveryRules_eq_ok {s : StreamBase} :
    firstError (discoveryRules s) = .ok () ↔
      22 ≤ s.length ∧ firstError (endRecordRules s (s.length - 22)) = .ok () ∧
        42 ≤ s.length ∧ firstError (locatorRules s (s.length - 42) (s.length - 22)) = .ok () ∧
          firstError (zip64Rules s (relativeOffset s) (s.length - 42)) = .ok () := by
  simp only [firstError_eq_ok_iff, discoveryRules, List.cons_append, List.mem_cons,
    List.mem_append, or_imp, forall_and, forall_eq, require_eq_ok, and_assoc]

/-- 読み出しが成功すれば、Zip64 record の規則はすべて通り、`r ≤ L - 22` である。 -/
theorem zip64Rules_of_read {s : StreamBase} (h : ZipStream.read s = .ok ()) :
    s.slice (s.length - 42) 8 = locatorHead ∧ s.slice (s.length - 22) 4 = endSignature ∧
      42 ≤ s.length ∧ relativeOffset s ≤ s.length - 22 ∧
        firstError (zip64Rules s (relativeOffset s) (s.length - 42)) = .ok () := by
  obtain ⟨-, hE, h42, hLoc, hZ⟩ := firstError_discoveryRules_eq_ok.mp (read_eq_firstError s ▸ h)
  have hrle := relativeOffset_le_of_rules hLoc
  rw [show s.length - 42 + 8 = s.length - 34 by omega, ← relativeOffset] at hrle
  exact ⟨locatorHead_of_rules hLoc, endSignature_of_rules hE, h42, hrle, hZ⟩

theorem zip64Rules_eq_ok {s : StreamBase} {p M : Nat} :
    firstError (zip64Rules s p M) = .ok () ↔
      s.uintAt p 4 = 0x06064b50 ∧ s.uintAt (p + 4) 8 = 44 ∧ s.uintAt (p + 12) 2 = 45 ∧
        s.uintAt (p + 14) 2 = 45 ∧ s.uintAt (p + 16) 4 = 0 ∧ s.uintAt (p + 20) 4 = 0 ∧
        s.uintAt (p + 24) 8 ≠ 0 ∧ s.uintAt (p + 32) 8 = s.uintAt (p + 24) 8 ∧
        (1 ≤ s.uintAt (p + 40) 8 ∧ s.uintAt (p + 40) 8 ≤ M) ∧
        (1 ≤ s.uintAt (p + 48) 8 ∧ s.uintAt (p + 48) 8 ≤ M) := by
  simp only [firstError_eq_ok_iff, zip64Rules, zip64PrefixRules, zip64TailRules, List.mem_append,
    List.mem_cons, List.not_mem_nil, or_false, or_imp, forall_and, forall_eq, rule_eq_ok,
    and_assoc]

/--
locator までと Zip64 record の規則が通れば、Zip64 record の最初の 26 byte は locator より前に
ある。
-/
theorem zip64_before_locator_of_rules {s : StreamBase}
    (hE : firstError (endRecordRules s (s.length - 22)) = .ok ()) (h42 : 42 ≤ s.length)
    (hLoc : firstError (locatorRules s (s.length - 42) (s.length - 22)) = .ok ())
    (hZ : firstError (zip64Rules s (relativeOffset s) (s.length - 42)) = .ok ()) :
    relativeOffset s + 26 ≤ s.length - 42 := by
  have hrel : s.uintAt (s.length - 42 + 8) 8 = relativeOffset s := by
    rw [relativeOffset, show s.length - 42 + 8 = s.length - 34 by omega]
  have h16 := add_sixteen_le (zip64Head_of_rules (firstError_take hZ 4))
    (locatorHead_of_rules hLoc) (endSignature_of_rules hE) h42
    (hrel ▸ relativeOffset_le_of_rules hLoc)
  obtain ⟨-, -, -, -, hd, hdcd, -, hT, hS, hO⟩ := zip64Rules_eq_ok.mp hZ
  have hzero : s.slice (relativeOffset s + 16) 8 = List.replicate 8 0 := by
    rw [show 8 = 4 + 4 from rfl, StreamBase.slice_add, StreamBase.slice_eq_encodeLE hd (by decide),
      Nat.add_assoc, StreamBase.slice_eq_encodeLE hdcd (by decide)]
    rfl
  have h24 := add_le_of_zeros hzero (locatorHead_of_rules hLoc) h16
  simp only [firstError_eq_ok_iff, locatorRules, endRecordRules, List.mem_cons, List.not_mem_nil,
    or_false, forall_eq_or_imp, forall_eq, rule_eq_ok] at hLoc hE
  rw [show s.length - 22 = s.length - 42 + 20 by omega] at hE
  by_contra hlt
  rcases (by omega : s.length - 42 = relativeOffset s + 24 ∨ s.length - 42 = relativeOffset s + 25)
    with hq | hq
  · exact locator_ne_add_24 hq hLoc.1 hLoc.2.1 hrel hLoc.2.2.2 hE.1 hT hS.2
  · exact locator_ne_add_25 hq hLoc.1 hLoc.2.1 hrel hE.2.2.2.1 hE.2.2.2.2.1 hT hO.2

/-- locator までが通れば、残るのは Zip64 record の規則である。 -/
theorem firstError_discoveryRules_of_locator {s : StreamBase}
    (hE : firstError (endRecordRules s (s.length - 22)) = .ok ()) (h42 : 42 ≤ s.length)
    (hLoc : firstError (locatorRules s (s.length - 42) (s.length - 22)) = .ok ()) :
    firstError (discoveryRules s) = firstError (zip64Rules s (relativeOffset s) (s.length - 42)) := by
  simp only [discoveryRules, List.cons_append, List.append_assoc, firstError_require_cons,
    if_pos (show 22 ≤ s.length by omega), if_pos h42, firstError_append, hE, hLoc]
  rfl

/-- どの規則も `endOfStream` を投げない。 -/
theorem discoveryRules_ne_endOfStream (s : StreamBase) :
    ∀ r ∈ discoveryRules s, r ≠ .error (.stream .endOfStream) := by
  simp only [discoveryRules, endRecordRules, locatorRules, zip64Rules, zip64PrefixRules,
    zip64TailRules, List.cons_append, List.nil_append, List.forall_mem_cons, List.forall_mem_append,
    rule_ne_stream, ne_eq, not_false_eq_true, and_true, true_and, List.mem_cons, List.not_mem_nil,
    forall_eq_or_imp]
  exact ⟨require_ne_error _ (by simp), require_ne_error _ (by simp), fun _ => False.elim⟩

end Rules

/-! ## 仕様 -/

/--
**`ZipStream::Read` の仕様。** 成功するのは `discoveryRules` がすべて通るときだけで、
失敗すれば、source の順で最初に破れた規則の例外を投げる。
-/
theorem read_iff_discoveryRules (s : StreamBase) :
    (ZipStream.read s = .ok () ↔ ∀ r ∈ discoveryRules s, r = .ok ()) ∧
      ZipStream.read s = firstError (discoveryRules s) := by
  rw [read_eq_firstError]
  exact ⟨firstError_eq_ok_iff _, rfl⟩

/--
locator と end of central directory record だけの 42 byte の archive。locator の
relative offset は 100（`L - 22 = 20` を越える）、total number of disks は 2。
-/
def badLocatorArchive : StreamBase :=
  .ofBytes ((((Zip64EndOfCentralDirectoryLocator.new 0).setRelativeOffset 100).setTotalNumberOfDisks
    2).write ++ EndCentralDirectoryRecord.new.write) (by decide)

/--
locator と end of central directory record だけの 42 byte の archive。locator の
relative offset は `L - 22 = 20` で、そこから 56 byte は file に収まらない。
-/
def shortZip64Archive : StreamBase :=
  .ofBytes (((Zip64EndOfCentralDirectoryLocator.new 0).setRelativeOffset 20).write ++
    EndCentralDirectoryRecord.new.write) (by decide)

/--
規則を仕様の文の順に並べると、`ZipStream::Read` と違う例外になる。source は relative offset を
total number of disks より先に調べ、収まらない Zip64 record は signature で失敗する。
-/
theorem read_ne_specDiscoveryRules :
    ZipStream.read badLocatorArchive =
        .error (.zip ⟨"Invalid relative offset", .invalidZip64CentralDirectoryLocator⟩) ∧
      firstError (specDiscoveryRules badLocatorArchive) =
        .error (.zip ⟨"Invalid total number of disks", .invalidZip64CentralDirectoryLocator⟩) ∧
      ZipStream.read shortZip64Archive =
        .error (.zip ⟨"end of zip64 central directory does not match signature", .invalidHeader⟩) ∧
      firstError (specDiscoveryRules shortZip64Archive) = .error (.stream .endOfStream) :=
  ⟨rfl, rfl, rfl, rfl⟩

/--
98 byte の正しい archive。位置 0 に Zip64 record（entries 1、central directory の大きさと
offset は 1）、その後ろに locator（relative offset 0）と end of central directory record。
-/
def smallArchive : StreamBase :=
  .ofBytes (((((Zip64EndOfCentralDirectoryRecord.new 0).setTotalNumberOfEntries 1).setSizeOfCD
    1).setOffsetfStartOfCD 1).write ++
    ((Zip64EndOfCentralDirectoryLocator.new 0).setRelativeOffset 0).write ++
    EndCentralDirectoryRecord.new.write) (by decide)

theorem read_smallArchive : ZipStream.read smallArchive = .ok () := rfl

/--
**Zip64 record の位置。** 読み出しが成功すれば、Zip64 record の最初の 26 byte（signature から
disk index までの 24 byte と、entries on disk の下位 2 byte）は locator より前にある。
-/
theorem zip64Record_before_locator (s : StreamBase) (h : ZipStream.read s = .ok ()) :
    relativeOffset s + 26 ≤ s.length - 42 := by
  obtain ⟨-, hE, h42, hLoc, hZ⟩ := firstError_discoveryRules_eq_ok.mp (read_eq_firstError s ▸ h)
  exact zip64_before_locator_of_rules hE h42 hLoc hZ

/-- `tightArchive` の最後の 68 byte。 -/
def tightTail : List UInt8 :=
  (Zip64EndOfCentralDirectoryRecord.new 0).write.take 26 ++
    ((Zip64EndOfCentralDirectoryLocator.new 0).setRelativeOffset 0xFFFF000007064b50).write ++
    EndCentralDirectoryRecord.new.write

/--
`0xFFFF000007064b94` byte の archive。位置 `r = 0xFFFF000007064b50` から Zip64 record が始まり、
locator はその 26 byte 目から始まる。二つの entries はどちらも `2 ^ 16 * 0x07064b50`、
central directory の大きさと offset は locator と end of central directory record の byte で、
どちらも `L - 42 = r + 26` 以下である。
-/
def tightArchive : StreamBase where
  length := 0xFFFF000007064b94
  byte i := if i < 0xFFFF000007064b50 then 0 else tightTail.getD (i - 0xFFFF000007064b50) 0
  position := 0
  length_lt := by decide

theorem read_tightArchive : ZipStream.read tightArchive = .ok () := rfl

theorem tightArchive_zip64Record_before_locator :
    ZipStream.read tightArchive = .ok () ∧
      relativeOffset tightArchive + 26 ≤ tightArchive.length - 42 ∧
        tightArchive.length - 42 = relativeOffset tightArchive + 26 :=
  ⟨read_tightArchive, zip64Record_before_locator tightArchive read_tightArchive, by decide⟩

/-- `overlappingArchive` の最後の 82 byte。 -/
def overlapTail : List UInt8 :=
  ((((Zip64EndOfCentralDirectoryRecord.new 0).setTotalNumberOfEntries 1).write).take 40) ++
    ((Zip64EndOfCentralDirectoryLocator.new 0).setRelativeOffset 117852968).write ++
    EndCentralDirectoryRecord.new.write

/--
117853050 byte の archive。位置 117852968 から Zip64 record が始まり、その size of central
directory は locator の signature と disk（`0x07064b50 = L - 42`）、offset of start of central
directory は locator の relative offset そのものである。
-/
def overlappingArchive : StreamBase where
  length := 117853050
  byte i := if i < 117852968 then 0 else overlapTail.getD (i - 117852968) 0
  position := 0
  length_lt := by decide

/-- Zip64 record が locator に重なっても、読み出しは成功する。 -/
theorem overlappingArchive_read :
    ZipStream.read overlappingArchive = .ok () ∧
      overlappingArchive.length - 42 < relativeOffset overlappingArchive + 56 :=
  ⟨rfl, by decide⟩

/--
**central directory の範囲。** 読み出しが成功すれば、Zip64 record の central directory の
大きさと offset はそれぞれ `[1, L - 42]` にある。二つの和や `r` との関係は調べない。
-/
theorem centralDirectory_bounds (s : StreamBase) (h : ZipStream.read s = .ok ()) :
    (1 ≤ sizeOfCD s ∧ sizeOfCD s ≤ s.length - 42) ∧
      (1 ≤ offsetOfCD s ∧ offsetOfCD s ≤ s.length - 42) := by
  obtain ⟨-, -, -, -, hZ⟩ := zip64Rules_of_read h
  obtain ⟨-, -, -, -, -, -, -, -, hsize, hoffset⟩ := zip64Rules_eq_ok.mp hZ
  exact ⟨hsize, hoffset⟩

theorem smallArchive_centralDirectory_bounds :
    ZipStream.read smallArchive = .ok () ∧
      (1 ≤ sizeOfCD smallArchive ∧ sizeOfCD smallArchive ≤ smallArchive.length - 42) ∧
        (1 ≤ offsetOfCD smallArchive ∧ offsetOfCD smallArchive ≤ smallArchive.length - 42) :=
  ⟨read_smallArchive, centralDirectory_bounds smallArchive read_smallArchive⟩

/-- 受け入れられた archive で、central directory が Zip64 record の位置を越える。 -/
theorem smallArchive_centralDirectory_past_record :
    ZipStream.read smallArchive = .ok () ∧
      relativeOffset smallArchive < offsetOfCD smallArchive + sizeOfCD smallArchive :=
  ⟨read_smallArchive, by decide⟩


/--
locator までが通り、relative offset `r` から 56 byte が file に収まらなければ、Zip64 record の
最初の四つの規則は `[r, r + 16)` の byte で失敗する。
-/
theorem zip64Prefix_error_of_lt {s : StreamBase}
    (hE : firstError (endRecordRules s (s.length - 22)) = .ok ()) (h42 : 42 ≤ s.length)
    (hLoc : firstError (locatorRules s (s.length - 42) (s.length - 22)) = .ok ())
    (hlt : s.length < relativeOffset s + 56) :
    relativeOffset s + 16 ≤ s.length ∧
      ∃ e, firstError ((zip64PrefixRules s (relativeOffset s)).take 4) = .error (.zip e) := by
  have hrle := relativeOffset_le_of_rules hLoc
  rw [show s.length - 42 + 8 = s.length - 34 by omega, ← relativeOffset] at hrle
  have hne : firstError ((zip64PrefixRules s (relativeOffset s)).take 4) ≠ .ok () := fun h =>
    absurd (add_sixteen_le (zip64Head_of_rules h) (locatorHead_of_rules hLoc)
      (endSignature_of_rules hE) h42 hrle) (by omega)
  refine ⟨by omega, ?_⟩
  simp only [zip64PrefixRules, List.take, firstError_rule_cons, firstError_nil] at hne ⊢
  split_ifs at hne ⊢ <;> first | exact absurd rfl hne | exact ⟨_, rfl⟩

/--
**`ZipStream::Read` は file の終わりを越えて読まない。** 読み出しが `endOfStream` で終わる
ことはない。特に、locator が通り relative offset `r` が `L - 56 < r` なら、Zip64 record の
読み出しは、`[r, r + 16)` にある signature、size、version の四つの規則のどれかで失敗する。
-/
theorem read_within_file (s : StreamBase) :
    ZipStream.read s ≠ .error (.stream .endOfStream) ∧
      (firstError (endRecordRules s (s.length - 22)) = .ok () → 42 ≤ s.length →
        firstError (locatorRules s (s.length - 42) (s.length - 22)) = .ok () →
        s.length < relativeOffset s + 56 →
        relativeOffset s + 16 ≤ s.length ∧
          ∃ e, ZipStream.read s = .error (.zip e) ∧
            firstError ((zip64PrefixRules s (relativeOffset s)).take 4) = .error (.zip e)) := by
  refine ⟨?_, fun hE h42 hLoc hlt => ?_⟩
  · rw [read_eq_firstError]
    exact firstError_ne_error (discoveryRules_ne_endOfStream s)
  obtain ⟨h16, z, hz⟩ := zip64Prefix_error_of_lt hE h42 hLoc hlt
  refine ⟨h16, z, ?_, hz⟩
  rw [read_eq_firstError, firstError_discoveryRules_of_locator hE h42 hLoc, zip64Rules,
    firstError_append, firstError_of_take hz]
  rfl

theorem shortZip64Archive_read_within_file :
    shortZip64Archive.length < relativeOffset shortZip64Archive + 56 ∧
      relativeOffset shortZip64Archive + 16 ≤ shortZip64Archive.length ∧
        ∃ e, ZipStream.read shortZip64Archive = .error (.zip e) ∧
          firstError ((zip64PrefixRules shortZip64Archive (relativeOffset shortZip64Archive)).take 4) =
            .error (.zip e) :=
  ⟨by decide, (read_within_file shortZip64Archive).2 rfl (by decide) rfl (by decide)⟩

end Discovery

end XPlat
