import XPlatZip.Meta

/-!
# record の読み出しを検査の列にする

`StructuredObject.readFrom` は field を一つ読むたびに validator を走らせる。validator が
object を変えない（`none` か `check`）とき、読む範囲が file に収まっていれば、読み出しは
「検査の列の最初の失敗」に等しい（`readFrom_pure`）。検査の列 `pureChecks` は field を
位置の順に decode した値だけで決まるので、具体的な record では `simp` で並べられる。

object を変える validator（`resizes`）を含む record は、`readFrom_append` で区切り、
pure な区間ごとに `readFrom_pure` を使う。
-/

namespace XPlat

/-! ## 検査の列 -/

/-- 検査の列を順に見て、最初の失敗を返す。 -/
def firstError : List (Except Exception Unit) → Except Exception Unit
  | [] => .ok ()
  | .ok () :: rs => firstError rs
  | .error e :: _ => .error e

@[simp] theorem firstError_nil : firstError [] = .ok () := rfl

@[simp] theorem firstError_ok_cons (u : Unit) (rs : List (Except Exception Unit)) :
    firstError (.ok u :: rs) = firstError rs := rfl

@[simp] theorem firstError_error_cons (e : Exception) (rs : List (Except Exception Unit)) :
    firstError (.error e :: rs) = .error e := rfl

theorem firstError_append (r₁ r₂ : List (Except Exception Unit)) :
    firstError (r₁ ++ r₂) = (firstError r₁).bind fun _ => firstError r₂ := by
  induction r₁ with
  | nil => rfl
  | cons r rs ih =>
    rcases r with e | ⟨⟩
    · rfl
    · exact ih

/-- 検査の列が通るのは、どの検査も通るときである。 -/
theorem firstError_eq_ok_iff (rs : List (Except Exception Unit)) :
    firstError rs = .ok () ↔ ∀ r ∈ rs, r = .ok () := by
  induction rs with
  | nil => simp
  | cons r rs ih => rcases r with e | ⟨⟩ <;> simp [ih]

theorem firstError_take {rs : List (Except Exception Unit)} (h : firstError rs = .ok ()) (n : Nat) :
    firstError (rs.take n) = .ok () := by
  rw [firstError_eq_ok_iff] at h ⊢
  exact fun r hr => h r (List.mem_of_mem_take hr)

/-- 前の `n` 個の検査が `e` を投げれば、列全体も `e` を投げる。 -/
theorem firstError_of_take {rs : List (Except Exception Unit)} {n : Nat} {e : Exception}
    (h : firstError (rs.take n) = .error e) : firstError rs = .error e := by
  rw [← List.take_append_drop n rs, firstError_append, h]
  rfl

/-- どの検査も `e` を投げなければ、列も `e` を投げない。 -/
theorem firstError_ne_error {rs : List (Except Exception Unit)} {e : Exception}
    (h : ∀ r ∈ rs, r ≠ .error e) : firstError rs ≠ .error e := by
  induction rs with
  | nil => simp
  | cons r rs ih =>
    simp only [List.mem_cons, forall_eq_or_imp] at h
    rcases r with e' | ⟨⟩
    · exact h.1
    · exact ih h.2

theorem firstError_append_ok (rs : List (Except Exception Unit)) :
    firstError (rs ++ [.ok ()]) = firstError rs := by
  rw [firstError_append]
  cases firstError rs <;> rfl

/-! ## field 列の decode -/

/-- field 列を位置 `p` から順に decode した値。幅はそれぞれの field の今の幅。 -/
def decodeFields (s : StreamBase) : List Field → Nat → List Field
  | [], _ => []
  | f :: fs, p => f.decode (s.slice p f.size) :: decodeFields s fs (p + f.size)

@[simp] theorem decodeFields_nil (s : StreamBase) (p : Nat) : decodeFields s [] p = [] := rfl

@[simp] theorem decodeFields_cons (s : StreamBase) (f : Field) (fs : List Field) (p : Nat) :
    decodeFields s (f :: fs) p = f.decode (s.slice p f.size) :: decodeFields s fs (p + f.size) :=
  rfl

theorem decodeFields_append (s : StreamBase) :
    ∀ (a b : List Field) (p : Nat),
      decodeFields s (a ++ b) p = decodeFields s a p ++ decodeFields s b (p + (a.map Field.size).sum)
  | [], b, p => by simp
  | f :: a, b, p => by simp [decodeFields_append s a b, Nat.add_assoc]

@[simp] theorem toNat_decode_field2Bytes (v : UInt16) (s : StreamBase) (p : Nat) :
    ((Field.field2Bytes v).decode (s.slice p 2)).toNat = s.uintAt p 2 :=
  (UInt16.toNat_ofNat_eq _).trans (Nat.mod_eq_of_lt (s.uintAt_lt p 2))

@[simp] theorem toNat_decode_field4Bytes (v : UInt32) (s : StreamBase) (p : Nat) :
    ((Field.field4Bytes v).decode (s.slice p 4)).toNat = s.uintAt p 4 :=
  (UInt32.toNat_ofNat_eq _).trans (Nat.mod_eq_of_lt (s.uintAt_lt p 4))

@[simp] theorem toNat_decode_field8Bytes (v : UInt64) (s : StreamBase) (p : Nat) :
    ((Field.field8Bytes v).decode (s.slice p 8)).toNat = s.uintAt p 8 :=
  (UInt64.toNat_ofNat_eq _).trans (Nat.mod_eq_of_lt (s.uintAt_lt p 8))

theorem toNat_ofNat_uintAt (s : StreamBase) (p : Nat) :
    (UInt64.ofNat (s.uintAt p 8)).toNat = s.uintAt p 8 :=
  (UInt64.toNat_ofNat_eq _).trans (Nat.mod_eq_of_lt (s.uintAt_lt p 8))

@[simp] theorem length_decodeFields (s : StreamBase) :
    ∀ (fs : List Field) (p : Nat), (decodeFields s fs p).length = fs.length
  | [], _ => rfl
  | _ :: fs, p => by simp [length_decodeFields s fs]

theorem map_kind_decodeFields (s : StreamBase) :
    ∀ (fs : List Field) (p : Nat), (decodeFields s fs p).map Field.kind = fs.map Field.kind
  | [], _ => rfl
  | f :: fs, p => by simp [map_kind_decodeFields s fs]

theorem map_size_decodeFields (s : StreamBase) :
    ∀ (fs : List Field) (p : Nat), (decodeFields s fs p).map Field.size = fs.map Field.size
  | [], _ => rfl
  | f :: fs, p => by simp [map_size_decodeFields s fs]

/-- 書いた byte 列を同じ種類、同じ幅の field 列で読むと、書いた field 列に戻る。 -/
theorem decodeFields_of_slice (s : StreamBase) :
    ∀ (gs fs : List Field) (p : Nat), gs.map Field.kind = fs.map Field.kind →
      gs.map Field.size = fs.map Field.size →
      s.slice p (fs.map Field.size).sum = fs.flatMap Field.write → decodeFields s gs p = fs
  | [], [], _, _, _, _ => rfl
  | g :: gs, f :: fs, p, hk, hsz, hw => by
    simp only [List.map_cons, List.cons.injEq] at hk hsz
    simp only [List.map_cons, List.sum_cons, StreamBase.slice_add, List.flatMap_cons] at hw
    obtain ⟨hf, hrest⟩ := List.append_inj hw (by simp)
    rw [decodeFields_cons, hsz.1, hf, Field.decode_write_of_kind hk.1,
      decodeFields_of_slice s gs fs (p + f.size) hk.2 hsz.2 hrest]
  | [], _ :: _, _, hk, _, _ => by simp at hk
  | _ :: _, [], _, hk, _, _ => by simp at hk

/-- 読んだ field 列を書くと、読んだ byte 列に戻る。 -/
theorem flatMap_write_decodeFields (s : StreamBase) :
    ∀ (fs : List Field) (p : Nat),
      (decodeFields s fs p).flatMap Field.write = s.slice p (fs.map Field.size).sum
  | [], _ => rfl
  | f :: fs, p => by
    rw [decodeFields_cons, List.flatMap_cons, Field.write_decode _ _ (by simp),
      flatMap_write_decodeFields s fs, List.map_cons, List.sum_cons, StreamBase.slice_add]

/-! ## pure な validator -/

/-- object を変えない validator。 -/
def Validator.isPure : Validator → Bool
  | .resizes _ _ => false
  | _ => true

/-- validator が、読んだ値 `d` と、それを入れた後の field 列 `fs` について投げる例外。 -/
def Validator.test : Validator → Field → List Field → Except Exception Unit
  | .check bad e, d, fs => if bad d fs then .error (.zip e) else .ok ()
  | _, _, _ => .ok ()

@[simp] theorem Validator.test_none (d : Field) (fs : List Field) : Validator.none.test d fs = .ok () :=
  rfl

@[simp] theorem Validator.test_resizes (t : Nat) (e : ZipException) (d : Field) (fs : List Field) :
    (Validator.resizes t e).test d fs = .ok () :=
  rfl

@[simp] theorem Validator.test_check (bad : Field → List Field → Bool) (e : ZipException)
    (d : Field) (fs : List Field) :
    (Validator.check bad e).test d fs = if bad d fs then .error (.zip e) else .ok () := rfl

/-- pure な validator を走らせた後の読み出しは、`test` の結果で決まる。 -/
theorem Validator.run_bind_of_isPure {layout : List FieldKind} {α : Type} {v : Validator}
    (hv : v.isPure = true) (d : Field) (o : StructuredObject layout)
    (k : StructuredObject layout → Except Exception α) :
    (match v.run d o with
      | .error e => .error (.zip e)
      | .ok o => k o) = (v.test d o.fields).bind fun _ => k o := by
  cases v with
  | none => rfl
  | check bad e => by_cases h : bad d o.fields <;> simp [run, test, h, Except.bind]
  | resizes => cases hv

/--
pure な validator の列 `vs` が、field 列 `todo` を位置 `p` から読むときに順に調べること。
`done` はすでに読んだ field、`rest` は読まずに残る後ろの field。
-/
def pureChecks (s : StreamBase) (rest : List Field) :
    List Validator → List Field → List Field → Nat → List (Except Exception Unit)
  | v :: vs, done, f :: todo, p =>
    let d := f.decode (s.slice p f.size)
    v.test d (done ++ d :: (todo ++ rest)) :: pureChecks s rest vs (done ++ [d]) todo (p + f.size)
  | _, _, _, _ => []

/-- 読んだ値 `ds` が分かっているときの `pureChecks`。 -/
def checks (rest : List Field) :
    List Validator → List Field → List Field → List Field → List (Except Exception Unit)
  | v :: vs, done, _ :: todo, d :: ds =>
    v.test d (done ++ d :: (todo ++ rest)) :: checks rest vs (done ++ [d]) todo ds
  | _, _, _, _ => []

theorem pureChecks_eq_checks (s : StreamBase) (rest : List Field) :
    ∀ (vs : List Validator) (done todo : List Field) (p : Nat),
      pureChecks s rest vs done todo p = checks rest vs done todo (decodeFields s todo p)
  | v :: vs, done, f :: todo, p => by
    simp only [pureChecks, checks, decodeFields_cons, pureChecks_eq_checks s rest vs]
  | [], _, [], _ => rfl
  | [], _, _ :: _, _ => rfl
  | _ :: _, _, [], _ => rfl

/-! ## object の書き換えと index -/

theorem List.modify_append_length {α : Type} (g : α → α) (done todo : List α) (f : α) :
    (done ++ f :: todo).modify g done.length = done ++ g f :: todo := by
  induction done with
  | nil => simp
  | cons x xs ih => simp [ih]

theorem List.getD_append_length {α : Type} (done todo : List α) (f d : α) :
    (done ++ f :: todo).getD done.length d = f := by
  induction done with
  | nil => rfl
  | cons x xs ih => exact ih

namespace StructuredObject

variable {layout : List FieldKind}

@[simp] theorem fields_modify (o : StructuredObject layout) (i : Nat) (g : Field → Field) (hg) :
    (o.modify i g hg).fields = o.fields.modify g i := rfl

theorem map_kind_getElem? (o : StructuredObject layout) (j : Nat) :
    (o.fields[j]?).map Field.kind = layout[j]? := by
  rw [← List.getElem?_map, o.kinds]

theorem field_eq_getD (o : StructuredObject layout) (j : Nat) :
    o.field j = (o.fields[j]?).getD default :=
  List.getD_eq_getElem?_getD _ _ _

/-- `i` 番の field の種類は `layout` が決める。 -/
theorem kind_field (o : StructuredObject layout) (i : Nat) :
    (o.field i).kind = layout.getD i .bytesN := by
  rw [field_eq_getD, List.getD_eq_getElem?_getD, ← map_kind_getElem?]
  cases o.fields[i]? <;> rfl

theorem readFrom_cons (v : Validator) (vs : List Validator) (i : Nat)
    (o : StructuredObject layout) (s : StreamBase) :
    readFrom (v :: vs) i o s =
      match o.readField i s with
      | .error e => .error e
      | .ok (f, o, s) =>
        match v.run f o with
        | .error e => .error (.zip e)
        | .ok o => readFrom vs (i + 1) o s := rfl

/-- validator の列を二つに分けて読むのは、続けて読むのと同じである。 -/
theorem readFrom_append (vs₁ vs₂ : List Validator) (i : Nat) (o : StructuredObject layout)
    (s : StreamBase) :
    readFrom (vs₁ ++ vs₂) i o s =
      (readFrom vs₁ i o s).bind fun (o, s) => readFrom vs₂ (i + vs₁.length) o s := by
  induction vs₁ generalizing i o s with
  | nil => rfl
  | cons v vs ih =>
    simp only [List.cons_append, readFrom_cons, List.length_cons]
    rcases o.readField i s with e | ⟨f, o', s'⟩
    · rfl
    · simp only
      rcases v.run f o' with e | o''
      · rfl
      · simp only [ih]
        rw [Nat.add_assoc, Nat.add_comm 1]

theorem readField_of_le (o : StructuredObject layout) (i : Nat) (s : StreamBase)
    (h : s.position + (o.field i).size ≤ s.length) :
    o.readField i s =
      .ok ((o.field i).decode (s.slice s.position (o.field i).size),
        o.modify i (·.decode (s.slice s.position (o.field i).size)) (fun f => f.kind_decode _),
        { s with position := s.position + (o.field i).size }) := by
  simp [readField, StreamBase.read_of_le h]

/--
**pure な validator の区間の読み出し。**

object の field が `done ++ todo ++ rest` と並び、`done` の後ろから `todo` を pure な
validator で読む。`todo` が file に収まっていれば、読み出しは `pureChecks` の最初の失敗で、
成功すれば `todo` は decode した値に置き換わり、位置は `todo` の幅の和だけ進む。
-/
theorem readFrom_pure (s : StreamBase) (rest : List Field) :
    ∀ (vs : List Validator) (done todo : List Field) (o : StructuredObject layout) (p : Nat),
      o.fields = done ++ todo ++ rest → vs.length = todo.length →
      vs.all Validator.isPure = true → p + (todo.map Field.size).sum ≤ s.length →
      ∃ o' : StructuredObject layout,
        o'.fields = done ++ decodeFields s todo p ++ rest ∧
        readFrom vs done.length o { s with position := p } =
          (firstError (pureChecks s rest vs done todo p)).map
            fun _ => (o', { s with position := p + (todo.map Field.size).sum })
  | [], done, [], o, p, ho, _, _, _ =>
    ⟨o, by simpa using ho, by simp [readFrom, pureChecks, Except.map]⟩
  | v :: vs, done, f :: todo, o, p, ho, hlen, hpure, hfit => by
    simp only [List.all_cons, Bool.and_eq_true] at hpure
    simp only [List.map_cons, List.sum_cons] at hfit
    have hf : o.field done.length = f := by
      simp only [field, ho, List.append_assoc, List.cons_append, List.getD_append_length]
    set d := f.decode (s.slice p f.size) with hd
    let o₁ := o.modify done.length (·.decode (s.slice p f.size)) (fun g => g.kind_decode _)
    have ho₁ : o₁.fields = (done ++ [d]) ++ todo ++ rest := by
      simp [o₁, ho, List.append_assoc, List.modify_append_length, hd]
    obtain ⟨o', ho', hread⟩ :=
      readFrom_pure s rest vs (done ++ [d]) todo o₁ (p + f.size) ho₁ (by simpa using hlen)
        hpure.2 (by omega)
    refine ⟨o', by simpa [List.append_assoc] using ho', ?_⟩
    rw [readFrom_cons, readField_of_le o _ _ (by simp [hf]; omega)]
    simp only [hf, Validator.run_bind_of_isPure hpure.1, pureChecks, StreamBase.slice_with_position,
      ← hd]
    have hfs : o₁.fields = done ++ d :: (todo ++ rest) := by simpa using ho₁
    simp only [List.length_append, List.length_singleton] at hread
    rw [hfs]
    rcases v.test d (done ++ d :: (todo ++ rest)) with e | ⟨⟩
    · rfl
    · simp [Except.bind, hread, Nat.add_assoc]
  | [], _, _ :: _, _, _, _, hlen, _, _ => by simp at hlen
  | _ :: _, _, [], _, _, _, hlen, _, _ => by simp at hlen

/-- pure な区間が file に収まらなければ、読み出しは失敗する。 -/
theorem readFrom_pure_error (s : StreamBase) (rest : List Field) :
    ∀ (vs : List Validator) (done todo : List Field) (o : StructuredObject layout) (p : Nat),
      o.fields = done ++ todo ++ rest → vs.length = todo.length →
      vs.all Validator.isPure = true → todo ≠ [] ∨ p ≤ s.length →
      s.length < p + (todo.map Field.size).sum →
      ∃ e, readFrom vs done.length o { s with position := p } = .error e
  | [], _, [], _, _, _, _, _, hp, hlt => by simp at hp hlt; omega
  | v :: vs, done, f :: todo, o, p, ho, hlen, hpure, hp, hlt => by
    simp only [List.all_cons, Bool.and_eq_true] at hpure
    simp only [List.map_cons, List.sum_cons] at hlt
    have hf : o.field done.length = f := by
      simp only [field, ho, List.append_assoc, List.cons_append, List.getD_append_length]
    rw [readFrom_cons]
    by_cases hfit : p + f.size ≤ s.length
    · rw [readField_of_le o _ _ (by simp [hf]; omega)]
      simp only [hf, Validator.run_bind_of_isPure hpure.1, StreamBase.slice_with_position]
      rcases v.test (f.decode (s.slice p f.size)) _ with e | ⟨⟩
      · exact ⟨e, rfl⟩
      · set d := f.decode (s.slice p f.size) with hd
        have ho₁ : (o.modify done.length (·.decode (s.slice p f.size))
            (fun g => g.kind_decode _)).fields = (done ++ [d]) ++ todo ++ rest := by
          simp [ho, List.append_assoc, List.modify_append_length, hd]
        obtain ⟨e, he⟩ := readFrom_pure_error s rest vs (done ++ [d]) todo _ (p + f.size) ho₁
          (by simpa using hlen) hpure.2 (.inr hfit) (by omega)
        refine ⟨e, ?_⟩
        simpa [Except.bind, List.length_append] using he
    · refine ⟨.stream .endOfStream, ?_⟩
      simp [readField, hf,
        StreamBase.read_of_lt (s := { s with position := p }) (show s.length < p + f.size by omega)]
  | [], _, _ :: _, _, _, _, hlen, _, _, _ => by simp at hlen
  | _ :: _, _, [], _, _, _, hlen, _, _, _ => by simp at hlen

/-- 長さの field の読み出し：2 byte を読み、`target` 番の可変長 field をその長さに resize する。 -/
theorem readFrom_resizes_cons (target : Nat) (e : ZipException) (vs : List Validator) (i : Nat)
    (o : StructuredObject layout) (s : StreamBase) (p : Nat) {v : UInt16}
    (hf : o.field i = .field2Bytes v) :
    readFrom (.resizes target e :: vs) i o { s with position := p } =
      if p + 2 ≤ s.length then
        readFrom vs (i + 1)
          ((o.modify i (·.decode (s.slice p 2)) (fun f => f.kind_decode _)).resize target
            (s.uintAt p 2)) { s with position := p + 2 }
      else .error (.stream .endOfStream) := by
  rw [readFrom_cons]
  split_ifs with h
  · rw [readField_of_le o i _ (by simp [hf]; omega)]
    have hlt : ¬s.uintAt p 2 > 65535 := by have := s.uintAt_lt p 2; omega
    simp [hf, Validator.run, hlt]
  · simp [readField, hf,
      StreamBase.read_of_lt (s := { s with position := p }) (show s.length < p + 2 by omega)]

end StructuredObject

/-! ## 読み出しの失敗 -/

/--
種類 `kind` の field を読んだ後に、validator が投げうる例外。長さの field は値が 65535 を越える
ときだけ投げるので、2 byte の field では投げない。
-/
def Validator.raises : Validator → FieldKind → Option ZipException
  | .none, _ => .none
  | .check _ e, _ => some e
  | .resizes _ e, kind => if kind = .bytes2 then .none else some e

/-- 結果を写した読み出しが失敗すれば、写す前の読み出しも同じ例外で失敗している。 -/
theorem eq_error_of_map_eq_error {α β : Type} {x : Except Exception α} {f : α → β}
    {e : Exception} (h : x.map f = .error e) : x = .error e := by
  cases x with
  | error e' =>
    cases h
    rfl
  | ok a => cases h

/-- validator が投げる例外は、読んだ field の種類で投げうるものである。 -/
theorem Validator.raises_of_run {layout : List FieldKind} {v : Validator} {f : Field}
    {o : StructuredObject layout} {z : ZipException} (h : v.run f o = .error z) :
    v.raises f.kind = some z := by
  cases v with
  | none => cases h
  | check bad e =>
    simp only [run] at h
    split at h <;> cases h
    rfl
  | resizes target e =>
    simp only [run] at h
    split at h
    · rename_i hgt
      cases h
      have hk : f.kind ≠ .bytes2 := fun hk => absurd (Field.toNat_lt_of_bytes2 hk) (by omega)
      simp [raises, hk]
    · cases h

namespace StructuredObject

variable {layout : List FieldKind}

/-- field を読んで失敗するのは、stream の終わりを越えるときだけである。 -/
theorem readField_error {o : StructuredObject layout} {i : Nat} {s : StreamBase} {e : Exception}
    (h : o.readField i s = .error e) : e = .stream .endOfStream := by
  simp only [readField, StreamBase.read] at h
  split_ifs at h
  cases h
  rfl

/-- 読んだ値の種類は `layout` が決める。 -/
theorem kind_of_readField {o o' : StructuredObject layout} {i : Nat} {s s' : StreamBase} {f : Field}
    (h : o.readField i s = .ok (f, o', s')) : f.kind = layout.getD i .bytesN := by
  simp only [readField] at h
  split at h
  · cases h
  · cases h
    rw [Field.kind_decode, kind_field]

/--
`readFrom` が投げるのは、stream の `endOfStream` か、`j` 番目の validator が `i + j` 番の
field を読んだ後に投げうる例外である。
-/
theorem readFrom_error : ∀ (vs : List Validator) (i : Nat) (o : StructuredObject layout)
    (s : StreamBase) {e : Exception}, readFrom vs i o s = .error e →
      e = .stream .endOfStream ∨ ∃ j < vs.length, ∃ z, e = .zip z ∧
        (vs.getD j .none).raises (layout.getD (i + j) .bytesN) = some z
  | [], _, _, _, _, h => by cases h
  | v :: vs, i, o, s, e, h => by
    rw [readFrom_cons] at h
    rcases hf : o.readField i s with e' | ⟨f, o', s'⟩
    · rw [hf] at h
      cases h
      exact .inl (readField_error hf)
    · rw [hf] at h
      simp only at h
      rcases hv : v.run f o' with z | o''
      · rw [hv] at h
        cases h
        refine .inr ⟨0, by simp, z, rfl, ?_⟩
        rw [Nat.add_zero, ← kind_of_readField hf]
        exact Validator.raises_of_run hv
      · rw [hv] at h
        rcases readFrom_error vs (i + 1) o'' s' h with h | ⟨j, hj, z, rfl, hz⟩
        · exact .inl h
        · refine .inr ⟨j + 1, by simpa using hj, z, rfl, ?_⟩
          rwa [List.getD_cons_succ, ← Nat.add_assoc, Nat.add_right_comm]

/-- validator がどれも、読む field の種類で `z` しか投げえないなら、読み出しが投げるのは `z` か
`endOfStream` だけである。 -/
theorem read_error_of_raises {vs : List Validator} {z : ZipException}
    (hvs : ∀ j < vs.length, (vs.getD j .none).raises (layout.getD j .bytesN) = .none ∨
      (vs.getD j .none).raises (layout.getD j .bytesN) = some z)
    {o : StructuredObject layout} {s : StreamBase} {e : Exception} (h : o.read vs s = .error e) :
    e = .zip z ∨ e = .stream .endOfStream := by
  rcases readFrom_error vs 0 o s h with h | ⟨j, hj, z', rfl, hz⟩
  · exact .inr h
  rw [Nat.zero_add] at hz
  rcases hvs j hj with h₀ | h₁
  · rw [h₀] at hz
    cases hz
  · rw [h₁] at hz
    cases hz
    exact .inl rfl

end StructuredObject

end XPlat
