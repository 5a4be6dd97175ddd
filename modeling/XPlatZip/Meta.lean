import XPlatZip.StreamBase

/-!
# field と structured object

`ObjectBase.hpp` の `Meta::Field2Bytes` / `Field4Bytes` / `Field8Bytes` / `FieldNBytes` と
`Meta::StructuredObject` は src/ に無い。spec §4.1・§4.2 の契約から作る。

* field は今の幅だけ byte を読み、little-endian の値（可変長なら byte 列そのもの）にして
  validator に渡す。
* validator は読んだ値と、その値を入れた後の object を受け取る。失敗すれば
  `ZipException` を投げ、成功すれば object を返す。後ろの可変長 field の幅を変えてよい。
* object は field を宣言順に読み、最初の失敗でやめる。`Size()` はその時点の幅の和。
* 作ったばかりの field の値は、src/ にも spec にも書かれていない。固定幅の field は、その
  メモリに前からあった値（`stale`）を持ち、可変長の field は空の buffer を持つ
  （`std::vector` の既定の構築）。constructor が書かない field にはその値が残るので、
  `Write()` についての結果は `stale` をすべて動かして述べる。

field の種類は作ったときに決まり、読んでも書いても変わらない。`StructuredObject` は
種類の並び `layout` を型に持つので、種類の合わない状態は作れない。
-/

namespace XPlat

theorem UInt16.toNat_ofNat_eq (n : Nat) : (UInt16.ofNat n).toNat = n % 2 ^ 16 := by
  simp [UInt16.ofNat, UInt16.toNat]

theorem UInt32.toNat_ofNat_eq (n : Nat) : (UInt32.ofNat n).toNat = n % 2 ^ 32 := by
  simp [UInt32.ofNat, UInt32.toNat]

theorem UInt64.toNat_ofNat_eq (n : Nat) : (UInt64.ofNat n).toNat = n % 2 ^ 64 := by
  simp [UInt64.ofNat, UInt64.toNat]

@[simp] theorem UInt16.ofNat_toNat_eq (v : UInt16) : UInt16.ofNat v.toNat = v :=
  UInt16.toNat.inj (by rw [UInt16.toNat_ofNat_eq]; exact Nat.mod_eq_of_lt v.toNat_lt_size)

@[simp] theorem UInt32.ofNat_toNat_eq (v : UInt32) : UInt32.ofNat v.toNat = v :=
  UInt32.toNat.inj (by rw [UInt32.toNat_ofNat_eq]; exact Nat.mod_eq_of_lt v.toNat_lt_size)

@[simp] theorem UInt64.ofNat_toNat_eq (v : UInt64) : UInt64.ofNat v.toNat = v :=
  UInt64.toNat.inj (by rw [UInt64.toNat_ofNat_eq]; exact Nat.mod_eq_of_lt v.toNat_lt_size)

/-- `Ftell() - Size()`：`p + w` から `w` を引くと `p` に戻る。 -/
theorem UInt64.toNat_ofNat_add_sub {p w : Nat} (h : p + w < 2 ^ 64) :
    (UInt64.ofNat (p + w) - UInt64.ofNat w).toNat = p := by
  have hw : (UInt64.ofNat w).toNat = w := by rw [UInt64.toNat_ofNat_eq]; omega
  have hpw : (UInt64.ofNat (p + w)).toNat = p + w := by rw [UInt64.toNat_ofNat_eq]; omega
  have hle : UInt64.ofNat w ≤ UInt64.ofNat (p + w) :=
    UInt64.le_def.mpr (show (UInt64.ofNat w).toNat ≤ (UInt64.ofNat (p + w)).toNat by omega)
  rw [UInt64.toNat_sub_of_le _ _ hle, hw, hpw]
  omega

/--
Modelled from the spec: field の種類。`Field2Bytes`、`Field4Bytes`、`Field8Bytes`、
`FieldNBytes`。
-/
inductive FieldKind where
  | bytes2
  | bytes4
  | bytes8
  | bytesN
  deriving DecidableEq, Repr

/-- Modelled from the spec: field の値。`Field2Bytes` などの class ごとに一つ。 -/
inductive Field where
  | field2Bytes (value : UInt16)
  | field4Bytes (value : UInt32)
  | field8Bytes (value : UInt64)
  | fieldNBytes (value : List UInt8)
  deriving DecidableEq, Repr

instance : Inhabited Field := ⟨.fieldNBytes []⟩

/--
Modelled from the spec: 作ったばかりの field。固定幅の field はメモリに残っていた値 `v` を
幅に切り詰めて持ち、可変長の field は空の buffer を持つ。
-/
def FieldKind.initial : FieldKind → Nat → Field
  | .bytes2, v => .field2Bytes (UInt16.ofNat v)
  | .bytes4, v => .field4Bytes (UInt32.ofNat v)
  | .bytes8, v => .field8Bytes (UInt64.ofNat v)
  | .bytesN, _ => .fieldNBytes []

/-- `i` 番から先の、作ったばかりの field。`j` 番の固定幅 field は `stale j` を持つ。 -/
def FieldKind.initialFields (stale : Nat → Nat) : List FieldKind → Nat → List Field
  | [], _ => []
  | k :: ks, i => k.initial (stale i) :: initialFields stale ks (i + 1)

namespace Field

def kind : Field → FieldKind
  | field2Bytes _ => .bytes2
  | field4Bytes _ => .bytes4
  | field8Bytes _ => .bytes8
  | fieldNBytes _ => .bytesN

/-- Modelled from the spec: `Size()`。 -/
def size : Field → Nat
  | field2Bytes _ => 2
  | field4Bytes _ => 4
  | field8Bytes _ => 8
  | fieldNBytes d => d.length

/-- Modelled from the spec: `*GetValue<T>()` の数値。可変長 field では 0。 -/
def toNat : Field → Nat
  | field2Bytes v => v.toNat
  | field4Bytes v => v.toNat
  | field8Bytes v => v.toNat
  | fieldNBytes _ => 0

/-- 可変長 field の中身。 -/
def bytes : Field → List UInt8
  | fieldNBytes d => d
  | _ => []

/-- 読んだ byte 列を、同じ種類の値にする。 -/
def decode : Field → List UInt8 → Field
  | field2Bytes _, b => field2Bytes (UInt16.ofNat (decodeLE b))
  | field4Bytes _, b => field4Bytes (UInt32.ofNat (decodeLE b))
  | field8Bytes _, b => field8Bytes (UInt64.ofNat (decodeLE b))
  | fieldNBytes _, b => fieldNBytes b

/-- Modelled from the spec: `Write()` が出す byte 列。little-endian。 -/
def write : Field → List UInt8
  | field2Bytes v => encodeLE 2 v.toNat
  | field4Bytes v => encodeLE 4 v.toNat
  | field8Bytes v => encodeLE 8 v.toNat
  | fieldNBytes d => d

/--
Modelled from the spec: `SetValue`：数値を field の幅に入れる。可変長 field は変わらない。
-/
def setNat : Field → Nat → Field
  | field2Bytes _, n => field2Bytes (UInt16.ofNat n)
  | field4Bytes _, n => field4Bytes (UInt32.ofNat n)
  | field8Bytes _, n => field8Bytes (UInt64.ofNat n)
  | fieldNBytes d, _ => fieldNBytes d

/-- 可変長 field の中身を替える。 -/
def setBytes : Field → List UInt8 → Field
  | fieldNBytes _, d => fieldNBytes d
  | f, _ => f

/-- Modelled from the spec: `std::vector<std::uint8_t>::resize(n, 0)`。 -/
def resize : Field → Nat → Field
  | fieldNBytes d, n => fieldNBytes (d.take n ++ List.replicate (n - d.length) 0)
  | f, _ => f

/-- Modelled from the spec: `Read()`：今の幅だけ読み、値にする。 -/
def read (f : Field) (s : StreamBase) : Except Exception (Field × StreamBase) :=
  match s.read f.size with
  | .error e => .error e
  | .ok (b, s) => .ok (f.decode b, s)

@[simp] theorem size_field2Bytes (v : UInt16) : (field2Bytes v).size = 2 := rfl
@[simp] theorem size_field4Bytes (v : UInt32) : (field4Bytes v).size = 4 := rfl
@[simp] theorem size_field8Bytes (v : UInt64) : (field8Bytes v).size = 8 := rfl
@[simp] theorem size_fieldNBytes (d : List UInt8) : (fieldNBytes d).size = d.length := rfl

@[simp] theorem toNat_field2Bytes (v : UInt16) : (field2Bytes v).toNat = v.toNat := rfl
@[simp] theorem toNat_field4Bytes (v : UInt32) : (field4Bytes v).toNat = v.toNat := rfl
@[simp] theorem toNat_field8Bytes (v : UInt64) : (field8Bytes v).toNat = v.toNat := rfl

@[simp] theorem bytes_fieldNBytes (d : List UInt8) : (fieldNBytes d).bytes = d := rfl

@[simp] theorem decode_fieldNBytes (d b : List UInt8) : (fieldNBytes d).decode b = fieldNBytes b :=
  rfl

@[simp] theorem size_decode_field2Bytes (v : UInt16) (b : List UInt8) :
    ((field2Bytes v).decode b).size = 2 := rfl
@[simp] theorem size_decode_field4Bytes (v : UInt32) (b : List UInt8) :
    ((field4Bytes v).decode b).size = 4 := rfl
@[simp] theorem size_decode_field8Bytes (v : UInt64) (b : List UInt8) :
    ((field8Bytes v).decode b).size = 8 := rfl

@[simp] theorem kind_decode (f : Field) (b : List UInt8) : (f.decode b).kind = f.kind := by
  cases f <;> rfl

@[simp] theorem kind_setNat (f : Field) (n : Nat) : (f.setNat n).kind = f.kind := by
  cases f <;> rfl

@[simp] theorem kind_setBytes (f : Field) (d : List UInt8) : (f.setBytes d).kind = f.kind := by
  cases f <;> rfl

@[simp] theorem kind_resize (f : Field) (n : Nat) : (f.resize n).kind = f.kind := by
  cases f <;> rfl

@[simp] theorem length_write (f : Field) : f.write.length = f.size := by
  cases f <;> simp [write, size]

@[simp] theorem size_decode (f : Field) (b : List UInt8) (hb : b.length = f.size) :
    (f.decode b).size = f.size := by
  cases f <;> simp_all [decode, size]

/-- 書いたものを読むと元に戻る。 -/
@[simp] theorem decode_write (f : Field) : f.decode f.write = f := by
  cases f with
  | field2Bytes v =>
    simp only [decode, write, decodeLE_encodeLE, Nat.mod_eq_of_lt v.toNat_lt_size]
    exact congrArg _ (UInt16.toNat.inj (by simp [UInt16.toNat_ofNat_eq, v.toNat_lt_size]))
  | field4Bytes v =>
    simp only [decode, write, decodeLE_encodeLE, Nat.mod_eq_of_lt v.toNat_lt_size]
    exact congrArg _ (UInt32.toNat.inj (by simp [UInt32.toNat_ofNat_eq, v.toNat_lt_size]))
  | field8Bytes v =>
    simp only [decode, write, decodeLE_encodeLE, Nat.mod_eq_of_lt v.toNat_lt_size]
    exact congrArg _ (UInt64.toNat.inj (by simp [UInt64.toNat_ofNat_eq, v.toNat_lt_size]))
  | fieldNBytes d => rfl

/-- 同じ種類の field で読めば、書いたものに戻る。固定幅の field は前の値を見ない。 -/
theorem decode_write_of_kind {f g : Field} (h : g.kind = f.kind) : g.decode f.write = f := by
  calc g.decode f.write = f.decode f.write := by cases g <;> cases f <;> first | rfl | cases h
    _ = f := decode_write f

/-- 読んだものを書くと、読んだ byte 列に戻る。 -/
theorem write_decode (f : Field) (b : List UInt8) (hb : b.length = f.size) :
    (f.decode b).write = b := by
  have hlt := decodeLE_lt b
  cases f with
  | fieldNBytes d => rfl
  | field2Bytes v =>
    simp only [size] at hb
    simp only [decode, write, UInt16.toNat_ofNat_eq, hb] at hlt ⊢
    rw [Nat.mod_eq_of_lt (by simpa using hlt), ← hb, encodeLE_decodeLE]
  | field4Bytes v =>
    simp only [size] at hb
    simp only [decode, write, UInt32.toNat_ofNat_eq, hb] at hlt ⊢
    rw [Nat.mod_eq_of_lt (by simpa using hlt), ← hb, encodeLE_decodeLE]
  | field8Bytes v =>
    simp only [size] at hb
    simp only [decode, write, UInt64.toNat_ofNat_eq, hb] at hlt ⊢
    rw [Nat.mod_eq_of_lt (by simpa using hlt), ← hb, encodeLE_decodeLE]

/-- 今の幅に resize しても変わらない。 -/
theorem resize_size (f : Field) : f.resize f.size = f := by
  cases f <;> simp [resize, size]

theorem size_eq_length_bytes {f : Field} (h : f.kind = .bytesN) : f.size = f.bytes.length := by
  cases f <;> first | rfl | cases h

theorem toNat_lt_of_bytes2 {f : Field} (h : f.kind = .bytes2) : f.toNat < 2 ^ 16 := by
  cases f <;> first | exact UInt16.toNat_lt _ | cases h

@[simp] theorem bytes_setNat (f : Field) (n : Nat) : (f.setNat n).bytes = f.bytes := by
  cases f <;> rfl

@[simp] theorem toNat_setBytes (f : Field) (d : List UInt8) : (f.setBytes d).toNat = f.toNat := by
  cases f <;> rfl

/-- 固定幅の field の byte 列を読むと、その値に戻る。 -/
theorem decodeLE_write {f : Field} (h : f.kind ≠ .bytesN) : decodeLE f.write = f.toNat := by
  cases f with
  | field2Bytes v => exact (decodeLE_encodeLE 2 _).trans (Nat.mod_eq_of_lt v.toNat_lt)
  | field4Bytes v => exact (decodeLE_encodeLE 4 _).trans (Nat.mod_eq_of_lt v.toNat_lt)
  | field8Bytes v => exact (decodeLE_encodeLE 8 _).trans (Nat.mod_eq_of_lt v.toNat_lt)
  | fieldNBytes => exact absurd rfl h

theorem size_of_bytes2 {f : Field} (h : f.kind = .bytes2) : f.size = 2 := by
  cases f <;> first | rfl | cases h

theorem size_of_bytes4 {f : Field} (h : f.kind = .bytes4) : f.size = 4 := by
  cases f <;> first | rfl | cases h

theorem toNat_setNat_of_bytes2 {f : Field} (h : f.kind = .bytes2) (n : Nat) :
    (f.setNat n).toNat = n % 2 ^ 16 := by
  cases f <;> first | exact UInt16.toNat_ofNat_eq n | cases h

theorem bytes_setBytes_of_bytesN {f : Field} (h : f.kind = .bytesN) (d : List UInt8) :
    (f.setBytes d).bytes = d := by
  cases f <;> first | rfl | cases h

theorem toNat_lt_of_bytes4 {f : Field} (h : f.kind = .bytes4) : f.toNat < 2 ^ 32 := by
  cases f <;> first | exact UInt32.toNat_lt _ | cases h

theorem read_of_le {f : Field} {s : StreamBase} (h : s.position + f.size ≤ s.length) :
    f.read s = .ok (f.decode (s.slice s.position f.size),
      { s with position := s.position + f.size }) := by
  simp [read, StreamBase.read_of_le h]

theorem read_of_lt {f : Field} {s : StreamBase} (h : s.length < s.position + f.size) :
    f.read s = .error (.stream .endOfStream) := by
  simp [read, StreamBase.read_of_lt h]

end Field

/-- 種類を変えない書き換えは、種類の並びを変えない。 -/
theorem map_kind_modify {g : Field → Field} (hg : ∀ f, (g f).kind = f.kind) :
    ∀ (i : Nat) (l : List Field), (l.modify g i).map Field.kind = l.map Field.kind
  | _, [] => by simp
  | 0, f :: l => by simp [hg]
  | i + 1, f :: l => by simp [map_kind_modify hg i l]

theorem map_kind_initialFields (stale : Nat → Nat) :
    ∀ (layout : List FieldKind) (i : Nat),
      (FieldKind.initialFields stale layout i).map Field.kind = layout
  | [], _ => rfl
  | k :: ks, i => by
    cases k <;> simp [FieldKind.initialFields, FieldKind.initial, Field.kind,
      map_kind_initialFields stale ks]

/--
Modelled from the spec: field の validator。`ZipStream.cpp` の lambda は次の三つの形しか取らない。
-/
inductive Validator where
  /-- `[](T& v) {}` -/
  | none
  /-- `if (bad) throw e;`。`bad` は読んだ値と、それを入れた後の field 列を見る。 -/
  | check (bad : Field → List Field → Bool) (e : ZipException)
  /--
  長さの field。`if (len > 65535) throw e;` の後、`target` 番の可変長 field を `len` byte に
  resize する。`len` は入れたばかりの自分の値である。
  -/
  | resizes (target : Nat) (e : ZipException)

/--
Modelled from the spec: `Meta::StructuredObject`。field の種類の並びは `layout` に固定される。
-/
structure StructuredObject (layout : List FieldKind) where
  fields : List Field
  kinds : fields.map Field.kind = layout

namespace StructuredObject

variable {layout : List FieldKind}

/--
Modelled from the spec: 作ったばかりの object。`i` 番の固定幅 field は `stale i` を持つ。
-/
def initial (layout : List FieldKind) (stale : Nat → Nat) : StructuredObject layout :=
  ⟨FieldKind.initialFields stale layout 0, map_kind_initialFields stale layout 0⟩

/--
残っていた値をすべて 0 とした、作ったばかりの object。読み出しはどの前の状態からでも同じなので
（`Properties/PriorState.lean`）、読み込む先の object と、試しに書く header にだけ使う。
-/
def fresh (layout : List FieldKind) : StructuredObject layout := initial layout fun _ => 0

/-- `Field(i)`。 -/
def field (o : StructuredObject layout) (i : Nat) : Field := o.fields.getD i default

/-- `*GetValue<std::uint16_t>(Field(i))`。 -/
def getU16 (o : StructuredObject layout) (i : Nat) : UInt16 := UInt16.ofNat (o.field i).toNat

/-- `*GetValue<std::uint32_t>(Field(i))`。 -/
def getU32 (o : StructuredObject layout) (i : Nat) : UInt32 := UInt32.ofNat (o.field i).toNat

/-- `*GetValue<std::uint64_t>(Field(i))`。 -/
def getU64 (o : StructuredObject layout) (i : Nat) : UInt64 := UInt64.ofNat (o.field i).toNat

/-- `*GetValue<std::vector<std::uint8_t>>(Field(i))`。 -/
def getBytes (o : StructuredObject layout) (i : Nat) : List UInt8 := (o.field i).bytes

/-- 種類を変えずに `i` 番の field を書き換える。 -/
def modify (o : StructuredObject layout) (i : Nat) (g : Field → Field)
    (hg : ∀ f, (g f).kind = f.kind) : StructuredObject layout :=
  ⟨o.fields.modify g i, (map_kind_modify hg i o.fields).trans o.kinds⟩

/-- Modelled from the spec: `SetValue(Field(i), n)`。 -/
def setNat (o : StructuredObject layout) (i n : Nat) : StructuredObject layout :=
  o.modify i (·.setNat n) (fun f => f.kind_setNat n)

/-- 可変長の `i` 番 field の中身を `d` にする。 -/
def setBytes (o : StructuredObject layout) (i : Nat) (d : List UInt8) : StructuredObject layout :=
  o.modify i (·.setBytes d) (fun f => f.kind_setBytes d)

/-- `GetValue<std::vector<std::uint8_t>>(Field(i))->resize(n, 0)`。 -/
def resize (o : StructuredObject layout) (i n : Nat) : StructuredObject layout :=
  o.modify i (·.resize n) (fun f => f.kind_resize n)

/-- Modelled from the spec: `Size()`：その時点の幅の和。 -/
def size (o : StructuredObject layout) : Nat := (o.fields.map Field.size).sum

theorem size_eq (o : StructuredObject layout) : o.size = (o.fields.map Field.size).sum := rfl

/-- Modelled from the spec: `Write()`：field を宣言順に書く。 -/
def write (o : StructuredObject layout) : List UInt8 := o.fields.flatMap Field.write

theorem ext {o o' : StructuredObject layout} (h : o.fields = o'.fields) : o = o' := by
  cases o; cases o'; subst h; rfl

theorem length_write (o : StructuredObject layout) : o.write.length = o.size := by
  simp [write, size, List.length_flatMap, Function.comp_def]

/-- Modelled from the spec: `i` 番の field を読んで object に入れる。読んだ値も返す。 -/
def readField (o : StructuredObject layout) (i : Nat) (s : StreamBase) :
    Except Exception (Field × StructuredObject layout × StreamBase) :=
  match s.read (o.field i).size with
  | .error e => .error e
  | .ok (b, s) => .ok ((o.field i).decode b, o.modify i (·.decode b) (fun f => f.kind_decode b), s)

end StructuredObject

/-- Modelled from the spec: validator を走らせる。 -/
def Validator.run {layout : List FieldKind} :
    Validator → Field → StructuredObject layout → Except ZipException (StructuredObject layout)
  | .none, _, o => .ok o
  | .check bad e, f, o => if bad f o.fields then .error e else .ok o
  | .resizes target e, f, o => if f.toNat > 65535 then .error e else .ok (o.resize target f.toNat)

namespace StructuredObject

variable {layout : List FieldKind}

/--
Modelled from the spec: `i` 番から先の field を、validator を一つずつ当てながら読む。最初の
失敗でやめる。
-/
def readFrom : List Validator → Nat → StructuredObject layout → StreamBase →
    Except Exception (StructuredObject layout × StreamBase)
  | [], _, o, s => .ok (o, s)
  | v :: vs, i, o, s =>
    match o.readField i s with
    | .error e => .error e
    | .ok (f, o, s) =>
      match v.run f o with
      | .error e => .error (.zip e)
      | .ok o => readFrom vs (i + 1) o s

/-- Modelled from the spec: `StructuredObject::Read()`。 -/
def read (vs : List Validator) (o : StructuredObject layout) (s : StreamBase) :
    Except Exception (StructuredObject layout × StreamBase) :=
  readFrom vs 0 o s

end StructuredObject

end XPlat
