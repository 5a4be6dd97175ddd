import Mathlib

/-!
# little-endian の整数

ZIP の field はすべて little-endian で書かれる（`ZipStream.cpp` の `Field2Bytes` /
`Field4Bytes` / `Field8Bytes`）。`w` byte の列と自然数の間を行き来する二つの関数と、
その往復を置く。

* `decodeLE_encodeLE` — 書いて読むと `n % 256 ^ w` が戻る
* `encodeLE_decodeLE` — 読んで書くと元の byte 列が戻る
* `decodeLE_eq_iff` — 読んだ値が定数に等しいことは、byte 列がその定数の符号に等しいことである
-/

namespace XPlat

theorem UInt8.toNat_ofNat_eq (n : Nat) : (UInt8.ofNat n).toNat = n % 256 := by
  simp [UInt8.ofNat, UInt8.toNat]

theorem UInt8.ofNat_toNat_eq (b : UInt8) : UInt8.ofNat b.toNat = b :=
  UInt8.toNat.inj (by rw [UInt8.toNat_ofNat_eq, Nat.mod_eq_of_lt b.toNat_lt_size])

/-- little-endian の byte 列を自然数として読む。 -/
def decodeLE : List UInt8 → Nat
  | [] => 0
  | b :: bs => b.toNat + 256 * decodeLE bs

/-- `n` を `w` byte の little-endian にする。上の桁は落ちる。 -/
def encodeLE : Nat → Nat → List UInt8
  | 0, _ => []
  | w + 1, n => UInt8.ofNat (n % 256) :: encodeLE w (n / 256)

@[simp] theorem decodeLE_nil : decodeLE [] = 0 := rfl

@[simp] theorem decodeLE_cons (b : UInt8) (bs : List UInt8) :
    decodeLE (b :: bs) = b.toNat + 256 * decodeLE bs := rfl

@[simp] theorem length_encodeLE (w n : Nat) : (encodeLE w n).length = w := by
  induction w generalizing n with
  | zero => rfl
  | succ w ih => simp [encodeLE, ih]

theorem decodeLE_lt (l : List UInt8) : decodeLE l < 256 ^ l.length := by
  induction l with
  | nil => simp
  | cons b bs ih =>
    have hb : b.toNat < 256 := b.toNat_lt_size
    rw [decodeLE_cons, List.length_cons, Nat.pow_succ]
    omega

theorem decodeLE_encodeLE (w n : Nat) : decodeLE (encodeLE w n) = n % 256 ^ w := by
  induction w generalizing n with
  | zero => simp [encodeLE, Nat.mod_one]
  | succ w ih =>
    rw [encodeLE, decodeLE_cons, ih, UInt8.toNat_ofNat_eq, Nat.mod_mod, Nat.pow_succ,
      Nat.mul_comm (256 ^ w), Nat.mod_mul]

theorem encodeLE_decodeLE (l : List UInt8) : encodeLE l.length (decodeLE l) = l := by
  induction l with
  | nil => rfl
  | cons b bs ih =>
    have hb : b.toNat < 256 := b.toNat_lt_size
    have hmod : (b.toNat + 256 * decodeLE bs) % 256 = b.toNat := by omega
    have hdiv : (b.toNat + 256 * decodeLE bs) / 256 = decodeLE bs := by omega
    rw [List.length_cons, encodeLE, decodeLE_cons, hmod, hdiv, ih, UInt8.ofNat_toNat_eq]

theorem decodeLE_append (l₁ l₂ : List UInt8) :
    decodeLE (l₁ ++ l₂) = decodeLE l₁ + 256 ^ l₁.length * decodeLE l₂ := by
  induction l₁ with
  | nil => simp
  | cons b bs ih =>
    rw [List.cons_append, decodeLE_cons, decodeLE_cons, ih, List.length_cons, Nat.pow_succ,
      Nat.mul_add, Nat.add_assoc, Nat.mul_comm (256 ^ bs.length) 256, Nat.mul_assoc]

/-- 読んだ値が定数 `n` に等しいことは、byte 列が `n` の符号そのものであることに等しい。 -/
theorem decodeLE_eq_iff {l : List UInt8} {n : Nat} (hn : n < 256 ^ l.length) :
    decodeLE l = n ↔ l = encodeLE l.length n := by
  constructor
  · rintro rfl
    exact (encodeLE_decodeLE l).symm
  · intro h
    rw [h, decodeLE_encodeLE, Nat.mod_eq_of_lt hn]

end XPlat
