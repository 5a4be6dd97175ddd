import XPlatZip.Properties.FieldRead

/-!
# 前の状態は読み出しに残らない

`Read()` は object を作り直さず、今ある field の上に読む。同じ object で次の entry を
読むと、前の entry の値の上に読むことになる。ここでは、次の二つが成り立つ validator の
列なら、読み出しの結果は前の状態によらないことを示す（`StructuredObject.read_eq_of_agree`）。

* validator は、読んだ値と、もう読んだ field と、field の幅だけを見る（`LocalFrom`）
* 幅の揃っていない可変長の field は、読まれる前に必ず resize される（`ReadsAfterResize`）

固定幅の field は読めば前の値が消え、可変長の field は resize で幅が決まる。二つの object の
違いは、読み出しが進むにつれて消えていく（`Agree`）。

同じことから、constructor が書かずに残した値は読み出しに残らない
（`Zip64EndOfCentralDirectoryRecord.read_construct` など）。Zip64 record の size の validator は
object 全体の幅を見るが、作ったばかりの二つの record では幅が揃っている。
-/

namespace XPlat

namespace Field

/-- decode の結果は field の種類だけで決まる。 -/
theorem decode_congr {f g : Field} (h : f.kind = g.kind) (b : List UInt8) :
    f.decode b = g.decode b := by
  cases f <;> cases g <;> first | rfl | cases h

/-- 固定幅の field の幅は種類で決まる。 -/
theorem size_congr {f g : Field} (h : f.kind = g.kind) (hN : f.kind ≠ .bytesN) :
    f.size = g.size := by
  cases f <;> cases g <;> first | rfl | exact absurd rfl hN | cases h

/-- resize の後の幅は種類と長さで決まる。 -/
theorem size_resize_congr {f g : Field} (h : f.kind = g.kind) (n : Nat) :
    (f.resize n).size = (g.resize n).size := by
  cases f <;> cases g <;> first | rfl | (simp [resize, size]; omega) | cases h

end Field

/-- validator が読んだ値だけを見る。 -/
def Validator.Local : Validator → Prop
  | .check bad _ => ∀ d fs fs', bad d fs = bad d fs'
  | _ => True

/--
`i` 番の validator が、読んだ値と、`i` 番までの field と、`pending` に無い field の幅だけを
見る。
-/
def Validator.LocalAt (i : Nat) (pending : List Nat) : Validator → Prop
  | .check bad _ => ∀ d (fs fs' : List Field), (∀ j < i + 1, fs[j]? = fs'[j]?) →
      (∀ j, j ∉ pending → (fs[j]?).map Field.size = (fs'[j]?).map Field.size) →
      bad d fs = bad d fs'
  | _ => True

/-- validator が resize を済ませた field を、待ちの列から外す。 -/
def Validator.clears : Validator → List Nat → List Nat
  | .resizes t _, pending => pending.erase t
  | _, pending => pending

/-- `i` 番から読む validator の列で、`pending` の field はどれも読まれる前に resize される。 -/
def ReadsAfterResize : List Validator → Nat → List Nat → Prop
  | [], _, _ => True
  | v :: vs, i, pending => i ∉ pending ∧ ReadsAfterResize vs (i + 1) (v.clears pending)

instance (vs : List Validator) (i : Nat) (pending : List Nat) :
    Decidable (ReadsAfterResize vs i pending) := by
  induction vs generalizing i pending with
  | nil => exact isTrue trivial
  | cons v vs ih => exact @instDecidableAnd _ _ inferInstance (ih (i + 1) (v.clears pending))

/-- `i` 番から読む validator の列の、どの validator も `LocalAt` である。 -/
def LocalFrom : List Validator → Nat → List Nat → Prop
  | [], _, _ => True
  | v :: vs, i, pending => v.LocalAt i pending ∧ LocalFrom vs (i + 1) (v.clears pending)

/-- 読んだ値だけを見る validator の列は `LocalFrom` である。 -/
theorem localFrom_of_local : ∀ {vs : List Validator} {i : Nat} {pending : List Nat},
    (∀ v ∈ vs, v.Local) → LocalFrom vs i pending
  | [], _, _, _ => trivial
  | v :: vs, _, _, h => by
    refine ⟨?_, localFrom_of_local fun w hw => h w (.tail _ hw)⟩
    have hv := h v (.head _)
    cases v with
    | check bad e => exact fun d fs fs' _ _ => hv d fs fs'
    | _ => trivial

/-- 幅が位置ごとに揃っていれば、幅の列が等しい。 -/
theorem map_size_eq {fs fs' : List Field}
    (h : ∀ j, j ∉ ([] : List Nat) → (fs[j]?).map Field.size = (fs'[j]?).map Field.size) :
    fs.map Field.size = fs'.map Field.size :=
  List.ext_getElem? fun j => by simpa only [List.getElem?_map] using h j (List.not_mem_nil j)

namespace StructuredObject

variable {layout : List FieldKind}

theorem length_fields (o : StructuredObject layout) : o.fields.length = layout.length := by
  rw [← List.length_map o.fields Field.kind, o.kinds]

/--
二つの object が、`i` より前の field で等しく、`pending` に無い field で幅が等しい。
-/
def Agree (i : Nat) (pending : List Nat) (o o' : StructuredObject layout) : Prop :=
  (∀ j < i, o.fields[j]? = o'.fields[j]?) ∧
    ∀ j, j ∉ pending → (o.fields[j]?).map Field.size = (o'.fields[j]?).map Field.size

/-- 同じ位置の field は、あれば同じ種類である。 -/
theorem getElem?_kind (o o' : StructuredObject layout) (j : Nat) :
    (∃ f f', o.fields[j]? = some f ∧ o'.fields[j]? = some f' ∧ f.kind = f'.kind) ∨
      (o.fields[j]? = none ∧ o'.fields[j]? = none) := by
  have h := (map_kind_getElem? o j).trans (map_kind_getElem? o' j).symm
  rcases hf : o.fields[j]? with _ | f <;> rcases hf' : o'.fields[j]? with _ | f' <;>
    simp_all

/-- 可変長 field の幅が揃っていなくても、読み始めは `Agree` である。 -/
theorem agree_init (o o' : StructuredObject layout) (pending : List Nat)
    (h : ∀ j < layout.length, j ∉ pending → layout.getD j .bytesN ≠ .bytesN) :
    Agree 0 pending o o' := by
  refine ⟨fun j hj => absurd hj (Nat.not_lt_zero j), fun j hnp => ?_⟩
  rcases getElem?_kind o o' j with ⟨f, f', hf, hf', hk⟩ | ⟨hf, hf'⟩
  · have hj : j < layout.length := length_fields o ▸ (List.getElem?_eq_some_iff.mp hf).1
    have hkl : f.kind = layout.getD j .bytesN := by
      have := map_kind_getElem? o j
      rw [hf, List.getElem?_eq_getElem hj] at this
      rw [List.getD_eq_getElem?_getD, List.getElem?_eq_getElem hj]
      simpa using this
    simp only [hf, hf', Option.map_some', Option.some.injEq]
    exact Field.size_congr hk (hkl ▸ h j hj hnp)
  · simp [hf, hf']

/-- 幅がすべて揃っていれば、読み始めは `Agree` である。 -/
theorem agree_zero_of_sizes {o o' : StructuredObject layout}
    (h : o.fields.map Field.size = o'.fields.map Field.size) : Agree 0 [] o o' :=
  ⟨fun j hj => absurd hj (Nat.not_lt_zero j), fun j _ => by
    simpa only [List.getElem?_map] using congrArg (·[j]?) h⟩

/-- `i` 番を同じ byte 列から読むと、`i` 番の field が揃う。 -/
theorem agree_decode {i : Nat} {pending : List Nat} {o o' : StructuredObject layout}
    (h : Agree i pending o o') (b : List UInt8) :
    Agree (i + 1) pending (o.modify i (·.decode b) (fun f => f.kind_decode b))
      (o'.modify i (·.decode b) (fun f => f.kind_decode b)) := by
  have hi : (fun f => Field.decode f b) <$> o.fields[i]? =
      (fun f => Field.decode f b) <$> o'.fields[i]? := by
    rcases getElem?_kind o o' i with ⟨f, f', hf, hf', hk⟩ | ⟨hf, hf'⟩
    · simp [hf, hf', Field.decode_congr hk]
    · simp [hf, hf']
  refine ⟨fun j hj => ?_, fun j hj => ?_⟩ <;>
    simp only [fields_modify, List.getElem?_modify] <;> by_cases hij : i = j
  · subst hij; simpa using hi
  · simpa [hij] using h.1 j (by omega)
  · subst hij; simpa [Option.map_map, Function.comp_def] using congrArg (Option.map Field.size) hi
  · simpa [hij] using h.2 j hj

/-- resize した field は、待ちの列から外れる。 -/
theorem agree_resize {i : Nat} {pending : List Nat} {o o' : StructuredObject layout}
    (h : Agree i pending o o') (t n : Nat) :
    Agree i (pending.erase t) (o.resize t n) (o'.resize t n) := by
  refine ⟨fun j hj => ?_, fun j hj => ?_⟩ <;>
    simp only [resize, fields_modify, List.getElem?_modify] <;> by_cases htj : t = j
  · simp [htj, h.1 j hj]
  · simp [htj, h.1 j hj]
  · subst htj
    rcases getElem?_kind o o' t with ⟨f, f', hf, hf', hk⟩ | ⟨hf, hf'⟩
    · simp [hf, hf', Field.size_resize_congr hk]
    · simp [hf, hf']
  · simpa [htj] using h.2 j (fun hp => hj ((List.mem_erase_of_ne (Ne.symm htj)).mpr hp))

theorem size_field_eq {i : Nat} {pending : List Nat} {o o' : StructuredObject layout}
    (h : Agree i pending o o') {j : Nat} (hj : j ∉ pending) :
    (o.field j).size = (o'.field j).size := by
  have := h.2 j hj
  rw [field_eq_getD, field_eq_getD]
  rcases hf : o.fields[j]? with _ | f <;> rcases hf' : o'.fields[j]? with _ | f' <;>
    simp_all

theorem decode_field_eq (o o' : StructuredObject layout) (j : Nat) (b : List UInt8) :
    (o.field j).decode b = (o'.field j).decode b := by
  rw [field_eq_getD, field_eq_getD]
  rcases getElem?_kind o o' j with ⟨f, f', hf, hf', hk⟩ | ⟨hf, hf'⟩
  · simp [hf, hf', Field.decode_congr hk]
  · simp [hf, hf']

/-- `LocalAt` な validator は、`Agree` な二つの object に同じ判定を下す。 -/
theorem run_agree {v : Validator} {i : Nat} {pending : List Nat} (hv : v.LocalAt i pending)
    {o o' : StructuredObject layout} (h : Agree (i + 1) pending o o') (d : Field) :
    (∃ e, v.run d o = .error e ∧ v.run d o' = .error e) ∨
      ∃ q q', v.run d o = .ok q ∧ v.run d o' = .ok q' ∧ Agree (i + 1) (v.clears pending) q q' := by
  cases v with
  | none => exact .inr ⟨o, o', rfl, rfl, h⟩
  | check bad e =>
    simp only [Validator.run, ← hv d o.fields o'.fields h.1 h.2]
    by_cases hb : bad d o.fields
    · exact .inl ⟨e, by simp [hb], by simp [hb]⟩
    · exact .inr ⟨o, o', by simp [hb], by simp [hb], h⟩
  | resizes t e =>
    simp only [Validator.run]
    by_cases hn : d.toNat > 65535
    · exact .inl ⟨e, by simp [hn], by simp [hn]⟩
    · exact .inr ⟨_, _, by simp [hn], by simp [hn], agree_resize h t d.toNat⟩

/--
**前の状態によらない読み出し。** `Agree` な二つの object から同じ stream を読むと、
同じ例外か同じ位置で終わり、読んだ field はすべて揃う。
-/
theorem readFrom_agree :
    ∀ (vs : List Validator) (i : Nat) (pending : List Nat) (o o' : StructuredObject layout)
      (s : StreamBase),
      LocalFrom vs i pending → ReadsAfterResize vs i pending → Agree i pending o o' →
      (readFrom vs i o s).map Prod.snd = (readFrom vs i o' s).map Prod.snd ∧
        ∀ r r', readFrom vs i o s = .ok r → readFrom vs i o' s = .ok r' →
          ∀ j < i + vs.length, r.1.fields[j]? = r'.1.fields[j]?
  | [], i, _, o, o', s, _, _, h => ⟨rfl, by rintro r r' ⟨⟩ ⟨⟩; exact h.1⟩
  | v :: vs, i, pending, o, o', s, hloc, ⟨hi, hrest⟩, h => by
    rw [readFrom_cons, readFrom_cons]
    simp only [readField, size_field_eq h hi]
    rcases s.read (o'.field i).size with e | ⟨b, s₁⟩
    · exact ⟨rfl, nofun⟩
    simp only [decode_field_eq o o' i b]
    rcases run_agree hloc.1 (agree_decode h b) ((o'.field i).decode b) with
      ⟨e, he, he'⟩ | ⟨q, q', hq, hq', hag⟩
    · rw [he, he']
      exact ⟨rfl, nofun⟩
    · simp only [hq, hq']
      obtain ⟨hsnd, hfields⟩ := readFrom_agree vs (i + 1) _ q q' s₁ hloc.2 hrest hag
      refine ⟨hsnd, fun r r' hr hr' j hj => hfields r r' hr hr' j ?_⟩
      simp only [List.length_cons] at hj
      omega

/--
**読み出しは前の状態によらない。** validator が `LocalFrom` で、`pending` の可変長 field が
どれも読まれる前に resize されるなら、`pending` の外で幅の揃った二つの object からの読み出しは
等しい。
-/
theorem read_eq_of_agree (vs : List Validator) (hvs : vs.length = layout.length)
    (pending : List Nat) (hloc : LocalFrom vs 0 pending) (hp : ReadsAfterResize vs 0 pending)
    {o o' : StructuredObject layout} (hag : Agree 0 pending o o') (s : StreamBase) :
    o.read vs s = o'.read vs s := by
  obtain ⟨hsnd, hfields⟩ := readFrom_agree vs 0 pending o o' s hloc hp hag
  unfold read
  rcases hr : readFrom vs 0 o s with e | r <;> rcases hr' : readFrom vs 0 o' s with e' | r' <;>
    rw [hr, hr'] at hsnd <;> simp only [Except.map, Except.error.injEq, Except.ok.injEq,
      reduceCtorEq] at hsnd
  · rw [hsnd]
  · have h₁ : r.1 = r'.1 := ext (List.ext_getElem? fun j => by
      by_cases hj : j < layout.length
      · exact hfields r r' hr hr' j (by omega)
      · rw [List.getElem?_eq_none (by rw [length_fields]; omega),
          List.getElem?_eq_none (by rw [length_fields]; omega)])
    rw [Prod.ext h₁ hsnd]

/--
validator が読んだ値だけを見て、幅の揃わない可変長 field がどれも読まれる前に resize されるなら、
どの二つの object からの読み出しも等しい。
-/
theorem read_eq_of_local (vs : List Validator) (hvs : vs.length = layout.length)
    (hloc : ∀ v ∈ vs, v.Local) (pending : List Nat) (hp : ReadsAfterResize vs 0 pending)
    (hfix : ∀ j < layout.length, j ∉ pending → layout.getD j .bytesN ≠ .bytesN)
    (o o' : StructuredObject layout) (s : StreamBase) : o.read vs s = o'.read vs s :=
  read_eq_of_agree vs hvs pending (localFrom_of_local hloc) hp (agree_init o o' pending hfix) s

end StructuredObject

end XPlat
