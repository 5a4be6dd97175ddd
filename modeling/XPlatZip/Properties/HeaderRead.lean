import XPlatZip.Properties.PriorState
import XPlatZip.Records.Headers
import XPlatZip.Spec.Discovery

/-!
# central file header と local file header の読み出し

二つの header は、固定幅の部分、可変長 field の長さを持つ field、可変長 field の順に並ぶ。
長さの field の validator が後ろの可変長 field を resize する。読み出しを三つに分けて調べる。

* 先頭の固定幅の field：pure な validator だけなので `readFrom_pure` で一度に読む
* 長さの field：一つずつ読み、後ろの可変長 field をその長さにする（`readFrom_lengths`）
* 残りの field：幅が決まったので、また `readFrom_pure` で読む

主な結果：

* `CentralFileHeader.read_spec`：どの前の状態からでも、読めるのは 46 + n + m + k byte が
  stream に収まり signature が合うときに限る。読めたら、ちょうどその byte 列を読み、
  名前、extra field、comment はその区間の byte 列で、`Write()` は読んだ byte 列を出す。
  失敗は signature の例外か `endOfStream` で、長さの field の `FieldOutOfRange` は投げない
  （長さの field は 2 byte なので 65535 を越えない）。
* `LocalFileHeader.read_spec`：local file header について同じこと（固定部 30 byte）。
* `headers_read_exact`：二つをまとめたもの。
-/

namespace XPlat

namespace CentralFileHeader

/-- 長さ `n`、`m`、`k` の可変長 field を持つ、他は 0 の record の field 列。 -/
def shape (n m k : Nat) : List Field :=
  [.field4Bytes 0, .field2Bytes 0, .field2Bytes 0, .field2Bytes 0, .field2Bytes 0, .field2Bytes 0,
    .field2Bytes 0, .field4Bytes 0, .field4Bytes 0, .field4Bytes 0, .field2Bytes 0, .field2Bytes 0,
    .field2Bytes 0, .field2Bytes 0, .field2Bytes 0, .field4Bytes 0, .field4Bytes 0,
    .fieldNBytes (List.replicate n 0), .fieldNBytes (List.replicate m 0),
    .fieldNBytes (List.replicate k 0)]

theorem new_fields : new.fields = shape 0 0 0 := rfl

theorem firstError_pureChecks_head (s : StreamBase) (p : Nat) :
    firstError (pureChecks s ((shape 0 0 0).drop 10) (validators.take 10) [] ((shape 0 0 0).take 10) p) =
      rule (s.uintAt p 4 = 0x02014b50) "central file header does not match signature" .invalidHeader := by
  simp only [pureChecks, shape, validators, Validator.signature, Signatures.centralFileHeader, rule,
    require, List.take, List.drop, Validator.test_check, Validator.test_none]
  split <;> simp_all

theorem fields_after_lengths (s : StreamBase) (p : Nat) (o : StructuredObject layout)
    (ho : o.fields = decodeFields s ((shape 0 0 0).take 10) p ++ (shape 0 0 0).drop 10) :
    (((((((o.modify 10 (·.decode (s.slice (p + 28) 2)) (fun f => f.kind_decode _)).resize 17
        (s.uintAt (p + 28) 2)).modify 11 (·.decode (s.slice (p + 28 + 2) 2))
        (fun f => f.kind_decode _)).resize 18 (s.uintAt (p + 28 + 2) 2)).modify 12
        (·.decode (s.slice (p + 28 + 2 + 2) 2)) (fun f => f.kind_decode _)).resize 19
        (s.uintAt (p + 28 + 2 + 2) 2))).fields =
      decodeFields s ((shape (s.uintAt (p + 28) 2) (s.uintAt (p + 30) 2)
          (s.uintAt (p + 32) 2)).take 13) p ++
        (shape (s.uintAt (p + 28) 2) (s.uintAt (p + 30) 2) (s.uintAt (p + 32) 2)).drop 13 := by
  simp [StructuredObject.resize, ho, shape, Field.resize, Nat.add_assoc]

/-- 長さの三つの field と、その後ろの七つの field の読み出し。 -/
theorem readFrom_lengths (s : StreamBase) (p : Nat) (o : StructuredObject layout)
    (ho : o.fields = decodeFields s ((shape 0 0 0).take 10) p ++ (shape 0 0 0).drop 10) :
    let n := s.uintAt (p + 28) 2
    let m := s.uintAt (p + 30) 2
    let k := s.uintAt (p + 32) 2
    let run := StructuredObject.readFrom (validators.drop 10) 10 o { s with position := p + 28 }
    (p + 46 + n + m + k ≤ s.length → ∃ o' : StructuredObject layout,
        o'.fields = decodeFields s (shape n m k) p ∧
        run = .ok (o', { s with position := p + 46 + n + m + k })) ∧
      (s.length < p + 46 + n + m + k → ∃ e, run = .error e) := by
  intro n m k run
  have h10 : o.field 10 = .field2Bytes 0 := by simp [StructuredObject.field, ho, shape]
  simp only [run, show validators.drop 10 = .resizes 17 ⟨"file name exceeds max size", .fieldOutOfRange⟩ ::
    .resizes 18 ⟨"file name exceeds max size", .fieldOutOfRange⟩ ::
    .resizes 19 ⟨"file comment exceeds max size", .fieldOutOfRange⟩ :: validators.drop 13 from rfl]
  rw [StructuredObject.readFrom_resizes_cons _ _ _ _ _ _ _ h10]
  have h11 : ((o.modify 10 (·.decode (s.slice (p + 28) 2)) (fun f => f.kind_decode _)).resize 17
      (s.uintAt (p + 28) 2)).field 11 = .field2Bytes 0 := by
    simp [StructuredObject.field, StructuredObject.resize, ho, shape]
  rw [StructuredObject.readFrom_resizes_cons _ _ _ _ _ _ _ h11]
  have h12 : ((((o.modify 10 (·.decode (s.slice (p + 28) 2)) (fun f => f.kind_decode _)).resize 17
      (s.uintAt (p + 28) 2)).modify 11 (·.decode (s.slice (p + 28 + 2) 2))
        (fun f => f.kind_decode _)).resize 18 (s.uintAt (p + 28 + 2) 2)).field 12 =
      .field2Bytes 0 := by
    simp [StructuredObject.field, StructuredObject.resize, ho, shape]
  rw [StructuredObject.readFrom_resizes_cons _ _ _ _ _ _ _ h12]
  have hf₂ := fields_after_lengths s p o ho
  generalize (((((((o.modify 10 (·.decode (s.slice (p + 28) 2)) (fun f => f.kind_decode _)).resize 17
        (s.uintAt (p + 28) 2)).modify 11 (·.decode (s.slice (p + 28 + 2) 2))
        (fun f => f.kind_decode _)).resize 18 (s.uintAt (p + 28 + 2) 2)).modify 12
        (·.decode (s.slice (p + 28 + 2 + 2) 2)) (fun f => f.kind_decode _)).resize 19
        (s.uintAt (p + 28 + 2 + 2) 2))) = o₂ at hf₂ ⊢
  have hidx : 10 + 1 + 1 + 1 = (decodeFields s ((shape n m k).take 13) p).length := by simp [shape]
  have hsum : ((shape n m k).drop 13 |>.map Field.size).sum = 12 + n + m + k := by
    simp [shape]; omega
  rw [hidx, show p + 28 + 2 + 2 + 2 = p + 34 by omega]
  have hlen : (validators.drop 13).length = ((shape n m k).drop 13).length := rfl
  have hfields : o₂.fields = decodeFields s ((shape n m k).take 13) p ++ (shape n m k).drop 13 ++ [] := by
    rw [List.append_nil]; exact hf₂
  constructor
  · intro hfit
    rw [if_pos (by omega), if_pos (by omega), if_pos (by omega)]
    obtain ⟨o', ho', hr⟩ := StructuredObject.readFrom_pure s [] (validators.drop 13) _ _ o₂
      (p + 34) hfields hlen rfl (by rw [hsum]; omega)
    refine ⟨o', ?_, ?_⟩
    · rw [ho', List.append_nil]
      conv_rhs => rw [← List.take_append_drop 13 (shape n m k), decodeFields_append,
        show ((shape n m k).take 13 |>.map Field.size).sum = 34 by simp [shape]]
    · rw [hr, hsum, show p + 34 + (12 + n + m + k) = p + 46 + n + m + k by omega]
      simp [pureChecks, validators, shape, Except.map]
  · intro hlt
    split_ifs with h30 h32 h34
    · exact StructuredObject.readFrom_pure_error s [] (validators.drop 13) _ _ o₂ (p + 34) hfields
        hlen rfl (.inr h34) (by rw [hsum]; omega)
    all_goals exact ⟨_, rfl⟩

theorem read_new (s : StreamBase) (p : Nat) :
    let n := s.uintAt (p + 28) 2
    let m := s.uintAt (p + 30) 2
    let k := s.uintAt (p + 32) 2
    (p + 46 + n + m + k ≤ s.length → ∃ h' : CentralFileHeader,
        h'.fields = decodeFields s (shape n m k) p ∧
        new.read { s with position := p } =
          (rule (s.uintAt p 4 = 0x02014b50) "central file header does not match signature"
            .invalidHeader).map fun _ => (h', { s with position := p + 46 + n + m + k })) ∧
      (s.length < p + 46 + n + m + k → ∃ e, new.read { s with position := p } = .error e) := by
  intro n m k
  simp only [read, StructuredObject.read]
  rw [← List.take_append_drop 10 validators, StructuredObject.readFrom_append]
  by_cases h28 : p + 28 ≤ s.length
  · obtain ⟨o₁, ho₁, hr₁⟩ := StructuredObject.readFrom_pure s ((shape 0 0 0).drop 10)
      (validators.take 10) [] ((shape 0 0 0).take 10) new.toStructuredObject p
      (by rw [new_fields]; simp) rfl rfl (by simpa [shape] using h28)
    have hsum : (((shape 0 0 0).take 10).map Field.size).sum = 28 := rfl
    rw [List.length_nil, firstError_pureChecks_head, hsum] at hr₁
    rw [hr₁, show (validators.take 10).length = 10 from rfl, Nat.zero_add]
    obtain ⟨hfit, hfail⟩ := readFrom_lengths s p o₁ (by simpa using ho₁)
    refine ⟨fun hf => ?_, fun hlt => ?_⟩
    · obtain ⟨o', ho', hr'⟩ := hfit hf
      refine ⟨⟨o'⟩, ho', ?_⟩
      cases rule (s.uintAt p 4 = 0x02014b50) "central file header does not match signature"
        .invalidHeader <;> simp [Except.map, Except.bind, hr']
    · obtain ⟨e, he⟩ := hfail hlt
      cases rule (s.uintAt p 4 = 0x02014b50) "central file header does not match signature"
        .invalidHeader <;> simp [Except.map, Except.bind, he]
  · refine ⟨fun hf => absurd (by omega) h28, fun _ => ?_⟩
    obtain ⟨e, he⟩ := StructuredObject.readFrom_pure_error s ((shape 0 0 0).drop 10)
      (validators.take 10) [] ((shape 0 0 0).take 10) new.toStructuredObject p
      (by rw [new_fields]; simp) rfl rfl (.inl (by simp [shape])) (by simp [shape]; omega)
    rw [List.length_nil] at he
    simp [he, Except.map, Except.bind]

/-- 読んだ field 列の後ろ三つは、名前、extra field、comment の byte 列。 -/
theorem decodeFields_shape (s : StreamBase) (p n m k : Nat) :
    decodeFields s (shape n m k) p = decodeFields s ((shape 0 0 0).take 17) p ++
      [.fieldNBytes (s.slice (p + 46) n), .fieldNBytes (s.slice (p + 46 + n) m),
        .fieldNBytes (s.slice (p + 46 + n + m) k)] := by
  rw [← List.take_append_drop 17 (shape n m k), decodeFields_append]
  simp [shape, Field.decode, Field.size, Nat.add_assoc]

/-- 前の状態は読み出しに残らない。 -/
theorem read_eq_read_new (h : CentralFileHeader) (s : StreamBase) : h.read s = new.read s := by
  simp only [read]
  rw [StructuredObject.read_eq_of_local validators rfl
    (by simp [validators, Validator.Local, Validator.signature]) [17, 18, 19] (by decide)
    (by decide) h.toStructuredObject new.toStructuredObject s]

/-- 読み出しが投げるのは、signature の例外か `endOfStream` だけである。 -/
theorem read_error (h : CentralFileHeader) (s : StreamBase) {e : Exception}
    (he : h.read s = .error e) :
    e = .zip ⟨"central file header does not match signature", .invalidHeader⟩ ∨
      e = .stream .endOfStream :=
  StructuredObject.read_error_of_raises (by decide) (eq_error_of_map_eq_error he)

/-- 読み出しの仕様：どの前の状態からでも、`p` から 46 + n + m + k byte が stream に収まり、
signature が合うときに限り読めて、そのときちょうどその byte 列を読み、書く。失敗は signature の
例外か `endOfStream` である。 -/
theorem read_spec (h : CentralFileHeader) (s : StreamBase) (p : Nat) :
    let n := s.uintAt (p + 28) 2
    let m := s.uintAt (p + 30) 2
    let k := s.uintAt (p + 32) 2
    h.read { s with position := p } = new.read { s with position := p } ∧
      (∀ e, h.read { s with position := p } = .error e →
        e = .zip ⟨"central file header does not match signature", .invalidHeader⟩ ∨
          e = .stream .endOfStream) ∧
      ((∃ r, h.read { s with position := p } = .ok r) ↔
        p + 46 ≤ s.length ∧ s.uintAt p 4 = 0x02014b50 ∧ p + 46 + n + m + k ≤ s.length) ∧
      ∀ r, h.read { s with position := p } = .ok r →
        r.2 = { s with position := p + 46 + n + m + k } ∧ r.1.size = 46 + n + m + k ∧
        r.1.getFileName = s.slice (p + 46) n ∧ r.1.getExtraField = s.slice (p + 46 + n) m ∧
        r.1.getComment = s.slice (p + 46 + n + m) k ∧ r.1.write = s.slice p (46 + n + m + k) := by
  intro n m k
  rw [read_eq_read_new h]
  obtain ⟨hfit, hfail⟩ := read_new s p
  refine ⟨rfl, fun _ he => read_error new _ he, ?_⟩
  by_cases hf : p + 46 + n + m + k ≤ s.length
  · obtain ⟨h', hf', hr⟩ := hfit hf
    have hsize : ((shape n m k).map Field.size).sum = 46 + n + m + k := by simp [shape]; omega
    simp only [hr, map_rule_eq_ok]
    refine ⟨⟨fun ⟨_, hc, _⟩ => ⟨by omega, hc, hf⟩, fun ⟨_, hc, _⟩ => ⟨_, hc, rfl⟩⟩, ?_⟩
    rintro r ⟨-, rfl⟩
    have hlen : (decodeFields s ((shape 0 0 0).take 17) p).length = 17 := by simp [shape]
    refine ⟨rfl, ?_, ?_, ?_, ?_, ?_⟩
    · rw [StructuredObject.size_eq, hf', map_size_decodeFields, hsize]
    rotate_left 3
    · rw [StructuredObject.write, hf', flatMap_write_decodeFields, hsize]
    all_goals
      simp only [getFileName, getExtraField, getComment, StructuredObject.getBytes,
        StructuredObject.field, hf', decodeFields_shape]
      rw [List.getD_append_right _ _ _ _ (by omega), hlen]
      rfl
  · obtain ⟨e, he⟩ := hfail (by omega)
    rw [he]
    exact ⟨⟨fun ⟨_, h⟩ => (by cases h), fun ⟨_, _, h⟩ => absurd h hf⟩, fun _ h => by cases h⟩

end CentralFileHeader

namespace LocalFileHeader

/-- 長さ `n`、`m` の可変長 field を持つ、他は 0 の record の field 列。 -/
def shape (n m : Nat) : List Field :=
  [.field4Bytes 0, .field2Bytes 0, .field2Bytes 0, .field2Bytes 0, .field2Bytes 0, .field2Bytes 0,
    .field4Bytes 0, .field4Bytes 0, .field4Bytes 0, .field2Bytes 0, .field2Bytes 0,
    .fieldNBytes (List.replicate n 0), .fieldNBytes (List.replicate m 0)]

theorem new_fields : new.fields = shape 0 0 := rfl

theorem firstError_pureChecks_head (s : StreamBase) (p : Nat) :
    firstError (pureChecks s ((shape 0 0).drop 9) (validators.take 9) [] ((shape 0 0).take 9) p) =
      rule (s.uintAt p 4 = 0x04034b50) "file header does not match signature" .invalidHeader := by
  simp only [pureChecks, shape, validators, Validator.signature, Signatures.localFileHeader, rule,
    require, List.take, List.drop, Validator.test_check, Validator.test_none]
  split <;> simp_all

theorem fields_after_lengths (s : StreamBase) (p : Nat) (o : StructuredObject layout)
    (ho : o.fields = decodeFields s ((shape 0 0).take 9) p ++ (shape 0 0).drop 9) :
    (((((o.modify 9 (·.decode (s.slice (p + 26) 2)) (fun f => f.kind_decode _)).resize 11
        (s.uintAt (p + 26) 2)).modify 10 (·.decode (s.slice (p + 26 + 2) 2))
        (fun f => f.kind_decode _)).resize 12 (s.uintAt (p + 26 + 2) 2))).fields =
      decodeFields s ((shape (s.uintAt (p + 26) 2) (s.uintAt (p + 28) 2)).take 11) p ++
        (shape (s.uintAt (p + 26) 2) (s.uintAt (p + 28) 2)).drop 11 := by
  simp [StructuredObject.resize, ho, shape, Field.resize, Nat.add_assoc]

/-- 長さの二つの field と、その後ろの二つの可変長 field の読み出し。 -/
theorem readFrom_lengths (s : StreamBase) (p : Nat) (o : StructuredObject layout)
    (ho : o.fields = decodeFields s ((shape 0 0).take 9) p ++ (shape 0 0).drop 9) :
    let n := s.uintAt (p + 26) 2
    let m := s.uintAt (p + 28) 2
    let run := StructuredObject.readFrom (validators.drop 9) 9 o { s with position := p + 26 }
    (p + 30 + n + m ≤ s.length → ∃ o' : StructuredObject layout,
        o'.fields = decodeFields s (shape n m) p ∧
        run = .ok (o', { s with position := p + 30 + n + m })) ∧
      (s.length < p + 30 + n + m → ∃ e, run = .error e) := by
  intro n m run
  have h9 : o.field 9 = .field2Bytes 0 := by simp [StructuredObject.field, ho, shape]
  simp only [run, show validators.drop 9 =
    .resizes 11 ⟨"file name field exceeds max size", .fieldOutOfRange⟩ ::
    .resizes 12 ⟨"extra field exceeds max size", .fieldOutOfRange⟩ :: validators.drop 11 from rfl]
  rw [StructuredObject.readFrom_resizes_cons _ _ _ _ _ _ _ h9]
  have h10 : ((o.modify 9 (·.decode (s.slice (p + 26) 2)) (fun f => f.kind_decode _)).resize 11
      (s.uintAt (p + 26) 2)).field 10 = .field2Bytes 0 := by
    simp [StructuredObject.field, StructuredObject.resize, ho, shape]
  rw [StructuredObject.readFrom_resizes_cons _ _ _ _ _ _ _ h10]
  have hf₂ := fields_after_lengths s p o ho
  generalize (((((o.modify 9 (·.decode (s.slice (p + 26) 2)) (fun f => f.kind_decode _)).resize 11
        (s.uintAt (p + 26) 2)).modify 10 (·.decode (s.slice (p + 26 + 2) 2))
        (fun f => f.kind_decode _)).resize 12 (s.uintAt (p + 26 + 2) 2))) = o₂ at hf₂ ⊢
  have hidx : 9 + 1 + 1 = (decodeFields s ((shape n m).take 11) p).length := by simp [shape]
  have hsum : ((shape n m).drop 11 |>.map Field.size).sum = n + m := by simp [shape]
  rw [hidx, show p + 26 + 2 + 2 = p + 30 by omega]
  have hlen : (validators.drop 11).length = ((shape n m).drop 11).length := rfl
  have hfields : o₂.fields = decodeFields s ((shape n m).take 11) p ++ (shape n m).drop 11 ++ [] := by
    rw [List.append_nil]; exact hf₂
  constructor
  · intro hfit
    rw [if_pos (by omega), if_pos (by omega)]
    obtain ⟨o', ho', hr⟩ := StructuredObject.readFrom_pure s [] (validators.drop 11) _ _ o₂
      (p + 30) hfields hlen rfl (by rw [hsum]; omega)
    refine ⟨o', ?_, ?_⟩
    · rw [ho', List.append_nil]
      conv_rhs => rw [← List.take_append_drop 11 (shape n m), decodeFields_append,
        show ((shape n m).take 11 |>.map Field.size).sum = 30 by simp [shape]]
    · rw [hr, hsum, show p + 30 + (n + m) = p + 30 + n + m by omega]
      simp [pureChecks, validators, shape, Except.map]
  · intro hlt
    split_ifs with h28 h30
    · exact StructuredObject.readFrom_pure_error s [] (validators.drop 11) _ _ o₂ (p + 30) hfields
        hlen rfl (.inr h30) (by rw [hsum]; omega)
    all_goals exact ⟨_, rfl⟩

theorem read_new (s : StreamBase) (p : Nat) :
    let n := s.uintAt (p + 26) 2
    let m := s.uintAt (p + 28) 2
    (p + 30 + n + m ≤ s.length → ∃ h' : LocalFileHeader,
        h'.fields = decodeFields s (shape n m) p ∧
        new.read { s with position := p } =
          (rule (s.uintAt p 4 = 0x04034b50) "file header does not match signature"
            .invalidHeader).map fun _ => (h', { s with position := p + 30 + n + m })) ∧
      (s.length < p + 30 + n + m → ∃ e, new.read { s with position := p } = .error e) := by
  intro n m
  simp only [read, StructuredObject.read]
  rw [← List.take_append_drop 9 validators, StructuredObject.readFrom_append]
  by_cases h26 : p + 26 ≤ s.length
  · obtain ⟨o₁, ho₁, hr₁⟩ := StructuredObject.readFrom_pure s ((shape 0 0).drop 9)
      (validators.take 9) [] ((shape 0 0).take 9) new.toStructuredObject p
      (by rw [new_fields]; simp) rfl rfl (by simpa [shape] using h26)
    have hsum : (((shape 0 0).take 9).map Field.size).sum = 26 := rfl
    rw [List.length_nil, firstError_pureChecks_head, hsum] at hr₁
    rw [hr₁, show (validators.take 9).length = 9 from rfl, Nat.zero_add]
    obtain ⟨hfit, hfail⟩ := readFrom_lengths s p o₁ (by simpa using ho₁)
    refine ⟨fun hf => ?_, fun hlt => ?_⟩
    · obtain ⟨o', ho', hr'⟩ := hfit hf
      refine ⟨⟨o'⟩, ho', ?_⟩
      cases rule (s.uintAt p 4 = 0x04034b50) "file header does not match signature"
        .invalidHeader <;> simp [Except.map, Except.bind, hr']
    · obtain ⟨e, he⟩ := hfail hlt
      cases rule (s.uintAt p 4 = 0x04034b50) "file header does not match signature"
        .invalidHeader <;> simp [Except.map, Except.bind, he]
  · refine ⟨fun hf => absurd (by omega) h26, fun _ => ?_⟩
    obtain ⟨e, he⟩ := StructuredObject.readFrom_pure_error s ((shape 0 0).drop 9)
      (validators.take 9) [] ((shape 0 0).take 9) new.toStructuredObject p
      (by rw [new_fields]; simp) rfl rfl (.inl (by simp [shape])) (by simp [shape]; omega)
    rw [List.length_nil] at he
    simp [he, Except.map, Except.bind]

/-- 読んだ field 列の後ろ二つは、名前と extra field の byte 列。 -/
theorem decodeFields_shape (s : StreamBase) (p n m : Nat) :
    decodeFields s (shape n m) p = decodeFields s ((shape 0 0).take 11) p ++
      [.fieldNBytes (s.slice (p + 30) n), .fieldNBytes (s.slice (p + 30 + n) m)] := by
  rw [← List.take_append_drop 11 (shape n m), decodeFields_append]
  simp [shape, Field.decode, Field.size, Nat.add_assoc]

/-- 前の状態は読み出しに残らない。 -/
theorem read_eq_read_new (h : LocalFileHeader) (s : StreamBase) : h.read s = new.read s := by
  simp only [read]
  rw [StructuredObject.read_eq_of_local validators rfl
    (by simp [validators, Validator.Local, Validator.signature]) [11, 12] (by decide)
    (by decide) h.toStructuredObject new.toStructuredObject s]

/-- 読み出しが投げるのは、signature の例外か `endOfStream` だけである。 -/
theorem read_error (h : LocalFileHeader) (s : StreamBase) {e : Exception}
    (he : h.read s = .error e) :
    e = .zip ⟨"file header does not match signature", .invalidHeader⟩ ∨
      e = .stream .endOfStream :=
  StructuredObject.read_error_of_raises (by decide) (eq_error_of_map_eq_error he)

/-- 読み出しの仕様：どの前の状態からでも、`p` から 30 + n + m byte が stream に収まり、
signature が合うときに限り読めて、そのときちょうどその byte 列を読み、書く。失敗は signature の
例外か `endOfStream` である。 -/
theorem read_spec (h : LocalFileHeader) (s : StreamBase) (p : Nat) :
    let n := s.uintAt (p + 26) 2
    let m := s.uintAt (p + 28) 2
    h.read { s with position := p } = new.read { s with position := p } ∧
      (∀ e, h.read { s with position := p } = .error e →
        e = .zip ⟨"file header does not match signature", .invalidHeader⟩ ∨
          e = .stream .endOfStream) ∧
      ((∃ r, h.read { s with position := p } = .ok r) ↔
        p + 30 ≤ s.length ∧ s.uintAt p 4 = 0x04034b50 ∧ p + 30 + n + m ≤ s.length) ∧
      ∀ r, h.read { s with position := p } = .ok r →
        r.2 = { s with position := p + 30 + n + m } ∧ r.1.size = 30 + n + m ∧
        r.1.getFileName = s.slice (p + 30) n ∧ r.1.write = s.slice p (30 + n + m) := by
  intro n m
  rw [read_eq_read_new h]
  obtain ⟨hfit, hfail⟩ := read_new s p
  refine ⟨rfl, fun _ he => read_error new _ he, ?_⟩
  by_cases hf : p + 30 + n + m ≤ s.length
  · obtain ⟨h', hf', hr⟩ := hfit hf
    have hsize : ((shape n m).map Field.size).sum = 30 + n + m := by simp [shape]; omega
    simp only [hr, map_rule_eq_ok]
    refine ⟨⟨fun ⟨_, hc, _⟩ => ⟨by omega, hc, hf⟩, fun ⟨_, hc, _⟩ => ⟨_, hc, rfl⟩⟩, ?_⟩
    rintro r ⟨-, rfl⟩
    have hlen : (decodeFields s ((shape 0 0).take 11) p).length = 11 := by simp [shape]
    refine ⟨rfl, ?_, ?_, ?_⟩
    · rw [StructuredObject.size_eq, hf', map_size_decodeFields, hsize]
    · simp only [getFileName, StructuredObject.getBytes, StructuredObject.field, hf',
        decodeFields_shape]
      rw [List.getD_append_right _ _ _ _ (by omega), hlen]
      rfl
    · rw [StructuredObject.write, hf', flatMap_write_decodeFields, hsize]
  · obtain ⟨e, he⟩ := hfail (by omega)
    rw [he]
    exact ⟨⟨fun ⟨_, h⟩ => (by cases h), fun ⟨_, _, h⟩ => absurd h hf⟩, fun _ h => by cases h⟩

end LocalFileHeader

/-- 二つの header の読み出しの仕様。前の状態（前の entry を読んだ後の object）によらず、
読めるのは header 全体が stream に収まり signature が合うときに限り、読めたら header 全体を
ちょうど読み、可変長 field はその区間の byte 列になり、`Write()` は読んだ byte 列を出す。
失敗は signature の例外か `endOfStream` で、`FieldOutOfRange` は投げない。 -/
theorem headers_read_exact :
    (∀ (h : CentralFileHeader) (s : StreamBase) (p : Nat),
      let n := s.uintAt (p + 28) 2
      let m := s.uintAt (p + 30) 2
      let k := s.uintAt (p + 32) 2
      h.read { s with position := p } = CentralFileHeader.new.read { s with position := p } ∧
        (∀ e, h.read { s with position := p } = .error e →
          e = .zip ⟨"central file header does not match signature", .invalidHeader⟩ ∨
            e = .stream .endOfStream) ∧
        ((∃ r, h.read { s with position := p } = .ok r) ↔
          p + 46 ≤ s.length ∧ s.uintAt p 4 = 0x02014b50 ∧ p + 46 + n + m + k ≤ s.length) ∧
        ∀ r, h.read { s with position := p } = .ok r →
          r.2 = { s with position := p + 46 + n + m + k } ∧ r.1.size = 46 + n + m + k ∧
          r.1.getFileName = s.slice (p + 46) n ∧ r.1.getExtraField = s.slice (p + 46 + n) m ∧
          r.1.getComment = s.slice (p + 46 + n + m) k ∧ r.1.write = s.slice p (46 + n + m + k)) ∧
    (∀ (h : LocalFileHeader) (s : StreamBase) (p : Nat),
      let n := s.uintAt (p + 26) 2
      let m := s.uintAt (p + 28) 2
      h.read { s with position := p } = LocalFileHeader.new.read { s with position := p } ∧
        (∀ e, h.read { s with position := p } = .error e →
          e = .zip ⟨"file header does not match signature", .invalidHeader⟩ ∨
            e = .stream .endOfStream) ∧
        ((∃ r, h.read { s with position := p } = .ok r) ↔
          p + 30 ≤ s.length ∧ s.uintAt p 4 = 0x04034b50 ∧ p + 30 + n + m ≤ s.length) ∧
        ∀ r, h.read { s with position := p } = .ok r →
          r.2 = { s with position := p + 30 + n + m } ∧ r.1.size = 30 + n + m ∧
          r.1.getFileName = s.slice (p + 30) n ∧ r.1.write = s.slice p (30 + n + m)) :=
  ⟨CentralFileHeader.read_spec, LocalFileHeader.read_spec⟩

end XPlat
