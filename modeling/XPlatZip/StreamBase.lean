import XPlatZip.Bytes

/-!
# 例外と byte stream

`ZipException` は `ZipStream.cpp` が投げる例外そのもので、message と error code を持つ。

`StreamBase`（`StreamBase.hpp`）は src/ に無い。spec §6 の interface
（`seek(offset, origin)`、`read(buffer, length)`、`tell()`、offset はすべて 64 bit）から作る。
file の中身は長さ `length` と byte の関数で持つ。関数で持つので、数百 MB の file も
式として書ける。

* `seek` は 64 bit の offset を基準に足す（`2 ^ 64` を法とする）。行き先が `[0, length]` の
  外なら失敗する。負の offset は補数で渡るので、`END` から `2 ^ 64 - k` を足すと
  `length - k` に着く。
* `read n` は今の位置から `n` byte を読む。file の終わりを越える読み出しは失敗する。
-/

namespace XPlat

/-- `ZipException::Error`。 -/
inductive ZipError where
  | invalidHeader
  | fieldOutOfRange
  | invalidZip64CentralDirectoryRecord
  | invalidZip64CentralDirectoryLocator
  | invalidEndOfCentralDirectoryRecord
  deriving DecidableEq, Repr

/-- `ZipException(message, error)`。 -/
structure ZipException where
  message : String
  error : ZipError
  deriving DecidableEq, Repr

/-- Modelled from the spec: stream 側の失敗。file の外への seek と、終わりを越える read。 -/
inductive StreamError where
  | seekOutOfRange
  | endOfStream
  deriving DecidableEq, Repr

/-- 読み出しの途中で外へ出る例外。 -/
inductive Exception where
  | zip (e : ZipException)
  | stream (e : StreamError)
  deriving DecidableEq, Repr

/-- Modelled from the spec: `StreamBase::Reference`。 -/
inductive Reference where
  | START
  | CURRENT
  | END
  deriving DecidableEq, Repr

/--
Modelled from the spec: `StreamBase`。

offset は 64 bit なので、file の長さは `2 ^ 64` 未満である。
-/
structure StreamBase where
  length : Nat
  byte : Nat → UInt8
  position : Nat
  length_lt : length < 2 ^ 64

namespace StreamBase

/-- byte 列 `l` を中身とする、位置 0 の stream。 -/
def ofBytes (l : List UInt8) (h : l.length < 2 ^ 64) : StreamBase := ⟨l.length, (l.getD · 0), 0, h⟩

/-- 位置 `p` から `n` byte。 -/
def slice (s : StreamBase) (p n : Nat) : List UInt8 := (List.range n).map (fun i => s.byte (p + i))

/-- 位置 `p` から `w` byte を little-endian の整数として読んだ値。 -/
def uintAt (s : StreamBase) (p w : Nat) : Nat := decodeLE (s.slice p w)

/-- stream の位置 `p` から、byte 列 `b` が file の中に並んでいる。 -/
def Holds (s : StreamBase) (p : Nat) (b : List UInt8) : Prop :=
  p + b.length ≤ s.length ∧ s.slice p b.length = b

/-- `Seek(offset, where)`。 -/
def seek (s : StreamBase) (offset : UInt64) (whence : Reference) : Except Exception StreamBase :=
  let base := match whence with
    | .START => 0
    | .CURRENT => s.position
    | .END => s.length
  let target := (base + offset.toNat) % 2 ^ 64
  if target ≤ s.length then .ok { s with position := target }
  else .error (.stream .seekOutOfRange)

/-- `Ftell()`。 -/
def ftell (s : StreamBase) : UInt64 := UInt64.ofNat s.position

/-- `Read(size, buffer)`：今の位置から `n` byte。 -/
def read (s : StreamBase) (n : Nat) : Except Exception (List UInt8 × StreamBase) :=
  if s.position + n ≤ s.length then .ok (s.slice s.position n, { s with position := s.position + n })
  else .error (.stream .endOfStream)

/-! ## slice -/

@[simp] theorem length_slice (s : StreamBase) (p n : Nat) : (s.slice p n).length = n := by
  simp [slice]

@[simp] theorem slice_zero (s : StreamBase) (p : Nat) : s.slice p 0 = [] := rfl

theorem slice_add (s : StreamBase) (p a b : Nat) :
    s.slice p (a + b) = s.slice p a ++ s.slice (p + a) b := by
  simp [slice, List.range_add, Function.comp_def, Nat.add_assoc]

theorem uintAt_lt (s : StreamBase) (p w : Nat) : s.uintAt p w < 256 ^ w := by
  simpa using decodeLE_lt (s.slice p w)

/-- `a + b` byte の値は、前の `a` byte の値と、後ろの `b` byte の値からなる。 -/
theorem uintAt_add (s : StreamBase) (p a b : Nat) :
    s.uintAt p (a + b) = s.uintAt p a + 256 ^ a * s.uintAt (p + a) b := by
  rw [uintAt, slice_add, decodeLE_append, length_slice]
  rfl

theorem byte_of_slice {s : StreamBase} {p : Nat} {l : List UInt8} (h : s.slice p l.length = l)
    {i : Nat} (hi : i < l.length) : s.byte (p + i) = l.getD i 0 := by
  rw [← h]
  simp [slice, hi]

/-- 二つの slice が重なるところでは、同じ byte を持つ。 -/
theorem getD_eq_of_overlap {s : StreamBase} {p q : Nat} {a b : List UInt8}
    (ha : s.slice p a.length = a) (hb : s.slice q b.length = b) {i j : Nat}
    (hi : i < a.length) (hj : j < b.length) (hij : p + i = q + j) : a.getD i 0 = b.getD j 0 := by
  rw [← byte_of_slice ha hi, ← byte_of_slice hb hj, hij]

/-- `w` byte の値が分かれば、その `w` byte も分かる。 -/
theorem slice_eq_encodeLE {s : StreamBase} {p w n : Nat} (h : s.uintAt p w = n)
    (hn : n < 256 ^ w) : s.slice p w = encodeLE w n := by
  simpa using (decodeLE_eq_iff (l := s.slice p w) (by simpa using hn)).mp h

/-- 続けて並んだ二つの byte 列。 -/
theorem holds_append (s : StreamBase) (p : Nat) (a b : List UInt8) :
    s.Holds p (a ++ b) ↔ s.Holds p a ∧ s.Holds (p + a.length) b := by
  simp only [Holds, List.length_append, slice_add]
  constructor
  · rintro ⟨hl, hs⟩
    obtain ⟨ha, hb⟩ := List.append_inj hs (by simp)
    exact ⟨⟨by omega, ha⟩, by omega, hb⟩
  · rintro ⟨⟨_, ha⟩, hl, hb⟩
    exact ⟨by omega, by rw [ha, hb]⟩

/-- byte 列から作った stream は、位置 0 にその byte 列を持つ。 -/
theorem holds_ofBytes (l : List UInt8) (h : l.length < 2 ^ 64) : (ofBytes l h).Holds 0 l := by
  refine ⟨Nat.le_of_eq (Nat.zero_add _), List.ext_getElem (by simp) fun i _ hi => ?_⟩
  simp [slice, ofBytes, List.getElem?_eq_getElem hi]

/-- slice は位置を変えても中身で決まる。 -/
@[simp] theorem slice_with_position (s : StreamBase) (q p n : Nat) :
    ({ s with position := q } : StreamBase).slice p n = s.slice p n := rfl

/-! ## read と seek -/

theorem read_of_le {s : StreamBase} {n : Nat} (h : s.position + n ≤ s.length) :
    s.read n = .ok (s.slice s.position n, { s with position := s.position + n }) := by
  simp [read, h]

theorem read_of_lt {s : StreamBase} {n : Nat} (h : s.length < s.position + n) :
    s.read n = .error (.stream .endOfStream) := by
  simp [read, Nat.not_le.mpr h]

/-- `END` からの seek。`offset` が `-k` の補数なら、`k ≤ length` のとき `length - k` に着き、
そうでなければ失敗する。 -/
theorem seek_END {s : StreamBase} {offset : UInt64} {k : Nat} (hk : k < 2 ^ 64)
    (h : offset.toNat + k = 2 ^ 64) :
    s.seek offset .END =
      if k ≤ s.length then .ok { s with position := s.length - k }
      else .error (.stream .seekOutOfRange) := by
  have hL := s.length_lt
  show (if (s.length + offset.toNat) % 2 ^ 64 ≤ s.length then _ else _) = _
  by_cases hle : k ≤ s.length
  · have ht : (s.length + offset.toNat) % 2 ^ 64 = s.length - k := by omega
    rw [if_pos hle, ht, if_pos (Nat.sub_le _ _)]
  · rw [if_neg hle, if_neg (by omega)]

/-- `START` からの seek は file の中なら必ず着く。 -/
theorem seek_START {s : StreamBase} {r : UInt64} (h : r.toNat ≤ s.length) :
    s.seek r .START = .ok { s with position := r.toNat } := by
  have hr : (0 + r.toNat) % 2 ^ 64 = r.toNat := by
    have : r.toNat < 2 ^ 64 := r.toNat_lt_size
    omega
  show (if (0 + r.toNat) % 2 ^ 64 ≤ s.length then _ else _) = _
  simp only [hr, if_pos h]

end StreamBase

end XPlat
