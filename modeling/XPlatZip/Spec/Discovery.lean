import XPlatZip.Properties.FieldRead

/-!
# 受け入れる archive の規則

`ZipStream::Read` が受け入れる stream を、stream の中身についての規則の列で言う。
規則は調べられる順に並び、破れた最初の規則の例外が投げられる（`firstError`）。

* `discoveryRules` — source の field の順に並べたもの
* `specDiscoveryRules` — 同じ規則を、locator の total disks を relative offset より先に
  並べ、Zip64 record の規則の前に「record が file に収まること」を置いたもの

どちらも長さ `L` の file について

1. `L ≥ 22` で、最後の 22 byte が Zip64 を強いる end of central directory record であること
2. `L ≥ 42` で、その前の 20 byte が locator で、relative offset `r` が `L - 22` 以下であること
3. 位置 `r` の 56 byte が Zip64 end of central directory record で、central directory の
   大きさと offset が `[1, L - 42]` にあること

を言う。
-/

namespace XPlat

/-- `ok` が成り立たなければ `e` を投げる。 -/
def require (ok : Prop) [Decidable ok] (e : Exception) : Except Exception Unit :=
  if ok then .ok () else .error e

/-- `ok` が成り立たなければ `ZipException(message, error)` を投げる。 -/
def rule (ok : Prop) [Decidable ok] (message : String) (error : ZipError) :
    Except Exception Unit :=
  require ok (.zip ⟨message, error⟩)

@[simp] theorem firstError_require_cons (ok : Prop) [Decidable ok] (e : Exception)
    (rs : List (Except Exception Unit)) :
    firstError (require ok e :: rs) = if ok then firstError rs else .error e := by
  by_cases h : ok <;> simp [require, h]

@[simp] theorem firstError_rule_cons (ok : Prop) [Decidable ok] (message : String)
    (error : ZipError) (rs : List (Except Exception Unit)) :
    firstError (rule ok message error :: rs) =
      if ok then firstError rs else .error (.zip ⟨message, error⟩) :=
  firstError_require_cons ok _ rs

@[simp] theorem require_eq_ok (ok : Prop) [Decidable ok] (e : Exception) :
    require ok e = .ok () ↔ ok := by
  by_cases h : ok <;> simp [require, h]

@[simp] theorem rule_eq_ok (ok : Prop) [Decidable ok] (message : String) (error : ZipError) :
    rule ok message error = .ok () ↔ ok :=
  require_eq_ok ok _

theorem require_ne_error (ok : Prop) [Decidable ok] {e e' : Exception} (h : e ≠ e') :
    require ok e ≠ .error e' := by
  by_cases hok : ok <;> simp [require, hok, h]

@[simp] theorem rule_ne_stream (ok : Prop) [Decidable ok] (message : String) (error : ZipError)
    (e : StreamError) : rule ok message error ≠ .error (.stream e) := by
  by_cases h : ok <;> simp [rule, require, h]

/-- 規則に通ったときに限り、`map` の結果が出る。 -/
theorem map_rule_eq_ok {α : Type} (ok : Prop) [Decidable ok] (message : String)
    (error : ZipError) (f : Unit → α) (r : α) :
    (rule ok message error).map f = .ok r ↔ ok ∧ f () = r := by
  by_cases h : ok <;> simp [rule, require, h, Except.map]

namespace Discovery

/-- end of central directory record（位置 `p` からの 22 byte）の規則。 -/
def endRecordRules (s : StreamBase) (p : Nat) : List (Except Exception Unit) :=
  [rule (s.uintAt p 4 = 0x06054b50) "invalid signiture" .invalidEndOfCentralDirectoryRecord,
    rule (s.uintAt (p + 4) 2 = 0) "unsupported disk number" .invalidEndOfCentralDirectoryRecord,
    rule (s.uintAt (p + 6) 2 = 0) "unsupported EoCDR disk number"
      .invalidEndOfCentralDirectoryRecord,
    rule (s.uintAt (p + 8) 2 = 0xFFFF) "unsupported total number of entries on this disk"
      .invalidEndOfCentralDirectoryRecord,
    rule (s.uintAt (p + 10) 2 = 0xFFFF) "unsupported total number of entries"
      .invalidEndOfCentralDirectoryRecord,
    rule (s.uintAt (p + 12) 4 = 0xFFFFFFFF) "unsupported size of central directory"
      .invalidEndOfCentralDirectoryRecord,
    rule (s.uintAt (p + 16) 4 = 0xFFFFFFFF) "unsupported offset of start of central directory"
      .invalidEndOfCentralDirectoryRecord,
    rule (s.uintAt (p + 20) 2 = 0) "Zip comment unsupported" .invalidEndOfCentralDirectoryRecord]

/-- Zip64 locator（位置 `p` からの 20 byte）の規則。relative offset の上限は `maxOffset`。 -/
def locatorRules (s : StreamBase) (p maxOffset : Nat) : List (Except Exception Unit) :=
  [rule (s.uintAt p 4 = 0x07064b50) "end of central directory locator does not match signature"
      .invalidHeader,
    rule (s.uintAt (p + 4) 4 = 0) "Invalid disk number" .invalidZip64CentralDirectoryLocator,
    rule (s.uintAt (p + 8) 8 ≤ maxOffset) "Invalid relative offset"
      .invalidZip64CentralDirectoryLocator,
    rule (s.uintAt (p + 16) 4 = 1) "Invalid total number of disks"
      .invalidZip64CentralDirectoryLocator]

/-- Zip64 end of central directory record の最初の五つの field（20 byte）の規則。 -/
def zip64PrefixRules (s : StreamBase) (p : Nat) : List (Except Exception Unit) :=
  [rule (s.uintAt p 4 = 0x06064b50) "end of zip64 central directory does not match signature"
      .invalidHeader,
    rule (s.uintAt (p + 4) 8 = 44) "invalid size of zip64 EOCD"
      .invalidZip64CentralDirectoryRecord,
    rule (s.uintAt (p + 12) 2 = 45) "invalid zip64 EOCD version made by"
      .invalidZip64CentralDirectoryRecord,
    rule (s.uintAt (p + 14) 2 = 45) "invalid zip64 EOCD version to extract"
      .invalidZip64CentralDirectoryRecord,
    rule (s.uintAt (p + 16) 4 = 0) "invalid disk number" .invalidZip64CentralDirectoryRecord]

/-- Zip64 end of central directory record の残りの規則。大きさと offset の上限は `maxOffset`。 -/
def zip64TailRules (s : StreamBase) (p maxOffset : Nat) : List (Except Exception Unit) :=
  [rule (s.uintAt (p + 20) 4 = 0) "invalid disk index" .invalidZip64CentralDirectoryRecord,
    rule (s.uintAt (p + 24) 8 ≠ 0) "invalid number of entries"
      .invalidZip64CentralDirectoryRecord,
    rule (s.uintAt (p + 32) 8 = s.uintAt (p + 24) 8) "invalid total number of entries"
      .invalidZip64CentralDirectoryRecord,
    rule (1 ≤ s.uintAt (p + 40) 8 ∧ s.uintAt (p + 40) 8 ≤ maxOffset)
      "invalid size of central directory" .invalidZip64CentralDirectoryRecord,
    rule (1 ≤ s.uintAt (p + 48) 8 ∧ s.uintAt (p + 48) 8 ≤ maxOffset)
      "invalid start of central directory" .invalidZip64CentralDirectoryRecord]

/-- Zip64 end of central directory record（位置 `p` からの 56 byte）の規則。 -/
def zip64Rules (s : StreamBase) (p maxOffset : Nat) : List (Except Exception Unit) :=
  zip64PrefixRules s p ++ zip64TailRules s p maxOffset

/-- locator の relative offset。 -/
def relativeOffset (s : StreamBase) : Nat := s.uintAt (s.length - 34) 8

/-- Zip64 record の central directory の大きさ。 -/
def sizeOfCD (s : StreamBase) : Nat := s.uintAt (relativeOffset s + 40) 8

/-- Zip64 record の central directory の offset。 -/
def offsetOfCD (s : StreamBase) : Nat := s.uintAt (relativeOffset s + 48) 8

/--
`ZipStream::Read` が調べる規則を、source の順に並べたもの。

Zip64 record が file に収まることは規則に入れない。最初の五つの規則が通れば record は
locator より前に始まり、file に収まる（`Properties/Discovery.lean`）。
-/
def discoveryRules (s : StreamBase) : List (Except Exception Unit) :=
  require (22 ≤ s.length) (.stream .seekOutOfRange) ::
    endRecordRules s (s.length - 22) ++
  require (42 ≤ s.length) (.stream .seekOutOfRange) ::
    locatorRules s (s.length - 42) (s.length - 22) ++
  zip64Rules s (relativeOffset s) (s.length - 42)

/-- 仕様の文の並べ方の locator の規則：total disks が relative offset より先。 -/
def specLocatorRules (s : StreamBase) (p maxOffset : Nat) : List (Except Exception Unit) :=
  [rule (s.uintAt p 4 = 0x07064b50) "end of central directory locator does not match signature"
      .invalidHeader,
    rule (s.uintAt (p + 4) 4 = 0) "Invalid disk number" .invalidZip64CentralDirectoryLocator,
    rule (s.uintAt (p + 16) 4 = 1) "Invalid total number of disks"
      .invalidZip64CentralDirectoryLocator,
    rule (s.uintAt (p + 8) 8 ≤ maxOffset) "Invalid relative offset"
      .invalidZip64CentralDirectoryLocator]

/-- 仕様の文の並べ方：Zip64 record が file に収まることを、その規則より先に調べる。 -/
def specDiscoveryRules (s : StreamBase) : List (Except Exception Unit) :=
  require (22 ≤ s.length) (.stream .seekOutOfRange) ::
    endRecordRules s (s.length - 22) ++
  require (42 ≤ s.length) (.stream .seekOutOfRange) ::
    specLocatorRules s (s.length - 42) (s.length - 22) ++
  require (relativeOffset s + 56 ≤ s.length) (.stream .endOfStream) ::
    zip64Rules s (relativeOffset s) (s.length - 42)

end Discovery

end XPlat
