import FieldRules.Proofs.Documents
import FieldRules.Proofs.Equivalence
import Mathlib.Data.List.Perm.Subperm

/-!
# The same data

What a document brings along is null, truth values, numbers, texts, lists, and mappings from texts. On
such data the check against another field does what one expects of it. It says yes if the two values
are the same data: the same constructors at all places, where whole numbers and doubles count as one but
truth values are no numbers, numbers of one exact value, equal texts, lists of one length with the same
members in order, and mappings with the same keys and the same value under each key. The order of the
entries of a mapping does not matter.

It says nothing where the stack ends in the comparison. This can happen only if both values lie deep, and
it does happen if they are the same and lie deeper than the stack ever reaches.

## Main definitions

* `IsSameData` — the same data

## Main statements

* `IsDocumentValue.deepEqual_iff` — the deep comparison finds the same data
* `Kind.sameAs_decides_sameData` — so does the check, as far as the stack suffices
* `Kind.not_always_decides_sameData` — and not beyond
-/

namespace FieldRules

/-- Two values are the same data. -/
inductive IsSameData : Value → Value → Prop
  | null : IsSameData .null .null
  | bool (b : Bool) : IsSameData (.bool b) (.bool b)
  /-- Numbers of one exact value, or none at all both of them, whichever of them are doubles. -/
  | number {a b : Value} {p q : Number} (left : a.number? = some p) (right : b.number? = some q)
    (exact : p.rank? = q.rank?) : IsSameData a b
  | text (s : String) : IsSameData (.text s) (.text s)
  | list {xs ys : List Value} (length : xs.length = ys.length)
    (each : ∀ (i : Nat) (hx : i < xs.length) (hy : i < ys.length), IsSameData xs[i] ys[i]) :
    IsSameData (.list xs) (.list ys)
  | mapping {xs ys : Mapping} (keys : ∀ key, key ∈ Mapping.keys xs ↔ key ∈ Mapping.keys ys)
    (values : ∀ key x y, (key, x) ∈ xs → (key, y) ∈ ys → IsSameData x y) :
    IsSameData (.mapping xs) (.mapping ys)

/-! ## Lists and mappings -/

/-- Relations that agree on the members of two lists relate the same lists. -/
theorem forall₂_congr_of_mem {α β : Type} {R S : α → β → Prop} {xs : List α} {ys : List β}
    (h : ∀ x ∈ xs, ∀ y ∈ ys, (R x y ↔ S x y)) : List.Forall₂ R xs ys ↔ List.Forall₂ S xs ys := by
  simp only [List.forall₂_iff_zip]
  refine and_congr_right fun _ => forall₂_congr fun x y => imp_congr_right fun hmem => ?_
  obtain ⟨hx, hy⟩ := List.of_mem_zip hmem
  exact h x hx y hy

namespace Value.IsWellFormed

variable {m : Mapping}

theorem nodup_keys (h : (Value.mapping m).IsWellFormed) : (Mapping.keys m).Nodup := by
  obtain ⟨hkeys, -, hdistinct⟩ := h.entries_of_mapping
  refine List.Pairwise.imp_of_mem (fun {k l} hk _ hapart => ?_) hdistinct
  obtain ⟨entry, hentry, rfl⟩ := List.mem_map.mp hk
  rintro rfl
  rw [(hkeys entry hentry).same_refl] at hapart
  cases hapart

end Value.IsWellFormed

/-! ## The comparison -/

namespace IsDocumentValue

variable {a b : Value}

/-- Data that is not gone into is the same if it is compared as equal as a whole. -/
theorem isAlike_iff (ha : IsDocumentValue a) (hwhole : a.IsWhole) : a.IsAlike b ↔ IsSameData a b := by
  constructor
  · rintro (⟨p, q, hp, hq, hexact⟩ | ⟨hp, -, hkind, hsame⟩)
    · exact .number hp hq hexact
    · cases ha with
      | null => cases b <;> first | exact .null | simp [Value.kindName] at hkind
      | bool c =>
          cases b with
          | bool d =>
              obtain rfl : d = c := by simpa [Value.same, Value.sameAtom, Value.numeric?,
                Number.same_truth_iff] using hsame
              exact .bool d
          | _ => simp [Value.kindName] at hkind
      | int | float => cases hp
      | text s =>
          obtain rfl := Value.same_text_left_iff.mp hsame
          exact .text s
      | list | mapping => exact hwhole.elim
  · intro h
    cases h with
    | null => exact .inr ⟨rfl, rfl, rfl, rfl⟩
    | bool c => exact .inr ⟨rfl, rfl, rfl, Value.IsWellFormed.same_refl (.atom rfl)⟩
    | number hp hq hexact => exact .inl ⟨_, _, hp, hq, hexact⟩
    | text s => exact .inr ⟨rfl, rfl, rfl, Value.same_text_left_iff.mpr rfl⟩
    | list | mapping => exact hwhole.elim

/-- Mappings are the same data if they have as many entries, and what the first has under a key is the
same data as what the second has under it. -/
theorem isSameData_mapping_iff {xs ys : Mapping} (hx : IsDocumentValue (.mapping xs))
    (hxwf : (Value.mapping xs).IsWellFormed) (hywf : (Value.mapping ys).IsWellFormed) :
    IsSameData (.mapping xs) (.mapping ys) ↔
      xs.length = ys.length ∧
        ∀ e ∈ xs, ∃ w, Mapping.get? ys e.1 = some w ∧ IsSameData e.2 w := by
  constructor
  · intro h
    cases h with
    | number hp => cases hp
    | mapping hkeys hvalues =>
        have hperm := (List.perm_ext_iff_of_nodup hxwf.nodup_keys hywf.nodup_keys).mpr hkeys
        refine ⟨by simpa [Mapping.keys] using hperm.length_eq, ?_⟩
        rintro ⟨key, x⟩ he
        obtain ⟨⟨name, rfl⟩, -⟩ := hx.entries _ he
        obtain ⟨⟨key, y⟩, hmem, hkey⟩ := List.mem_map.mp ((hkeys _).mp (List.mem_map_of_mem he))
        obtain rfl : key = .text name := hkey
        exact ⟨y, (Mapping.get?_text_eq_some_iff hywf.nodup_keys).mpr hmem, hvalues _ x y he hmem⟩
  · rintro ⟨hlength, hentries⟩
    have hfound : ∀ key x, (key, x) ∈ xs → ∃ y, (key, y) ∈ ys ∧ IsSameData x y := by
      intro key x he
      obtain ⟨⟨name, rfl⟩, -⟩ := hx.entries _ he
      obtain ⟨y, hget, hsame⟩ := hentries _ he
      exact ⟨y, (Mapping.get?_text_eq_some_iff hywf.nodup_keys).mp hget, hsame⟩
    -- The first mapping has no key twice, and so the second has no room for further ones.
    have hsubset : Mapping.keys xs ⊆ Mapping.keys ys := by
      intro key hkey
      obtain ⟨⟨_, x⟩, he, rfl⟩ := List.mem_map.mp hkey
      obtain ⟨y, hmem, -⟩ := hfound _ x he
      exact List.mem_map.mpr ⟨_, hmem, rfl⟩
    have hperm : (Mapping.keys xs).Perm (Mapping.keys ys) := by
      refine (List.subperm_of_subset hxwf.nodup_keys hsubset).perm_of_length_le ?_
      simp [Mapping.keys, hlength]
    refine .mapping (fun _ => hperm.mem_iff) fun key x y he hmem => ?_
    obtain ⟨⟨name, rfl⟩, -⟩ := hx.entries _ he
    obtain ⟨w, hget, hsame⟩ := hentries _ he
    obtain rfl := Option.some.inj (hget.symm.trans ((Mapping.get?_text_eq_some_iff hywf.nodup_keys).mpr hmem))
    exact hsame

/-- Lists are the same data if their members are, in order. -/
theorem isSameData_list_iff {xs ys : List Value} :
    IsSameData (.list xs) (.list ys) ↔ List.Forall₂ IsSameData xs ys := by
  simp only [List.forall₂_iff_get, List.get_eq_getElem]
  constructor
  · intro h
    cases h with
    | number hp => cases hp
    | list hlength heach => exact ⟨hlength, heach⟩
  · rintro ⟨hlength, heach⟩
    exact .list hlength heach

theorem deepEqual_iff_of_isWhole (ha : IsDocumentValue a) (hwhole : a.IsWhole) :
    a.deepEqual b = true ↔ IsSameData a b :=
  hwhole.deepEqual_iff.trans (ha.isAlike_iff hwhole)

/-- The deep comparison of two documents says whether they are the same data. -/
theorem deepEqual_iff (ha : IsDocumentValue a) (hb : IsDocumentValue b) (hawf : a.IsWellFormed)
    (hbwf : b.IsWellFormed) : a.deepEqual b = true ↔ IsSameData a b := by
  induction ha generalizing b with
  | null => exact deepEqual_iff_of_isWhole .null trivial
  | bool c => exact deepEqual_iff_of_isWhole (.bool c) trivial
  | int n => exact deepEqual_iff_of_isWhole (.int n) trivial
  | float x => exact deepEqual_iff_of_isWhole (.float x) trivial
  | text s => exact deepEqual_iff_of_isWhole (.text s) trivial
  | list hxs ih =>
      cases hb with
      | list hys =>
          rw [isSameData_list_iff, ← forall₂_congr_of_mem fun x hx y hy =>
            ih x hx (hys y hy) (hawf.members_of_list x hx) (hbwf.members_of_list y hy)]
          exact Value.deepEqualAll_iff
      | _ =>
          refine iff_of_false (by simp [Value.deepEqual]) fun h => ?_
          cases h with
          | number hp => cases hp
  | mapping hkeys hvalues ih =>
      cases hb with
      | mapping hkeys' hvalues' =>
          obtain ⟨-, havalues, -⟩ := hawf.entries_of_mapping
          obtain ⟨-, hbvalues, -⟩ := hbwf.entries_of_mapping
          rw [isSameData_mapping_iff (.mapping hkeys hvalues) hawf hbwf, Value.deepEqual_mapping_iff]
          simp only [Value.mapping.injEq, exists_eq_left']
          refine and_congr_right fun _ => forall₂_congr fun e he => exists_congr fun w =>
            and_congr_right fun hget => ?_
          obtain ⟨k, hmem⟩ := Mapping.mem_of_get?_eq_some hget
          exact ih e he (hvalues' _ hmem) (havalues e he) (hbvalues _ hmem)
      | _ =>
          refine iff_of_false (by simp [Value.deepEqual]) fun h => ?_
          cases h with
          | number hp => cases hp

theorem wrapped (n : Nat) : IsDocumentValue (Value.wrapped n) := by
  induction n with
  | zero => exact .null
  | succ n ih => exact .list (List.forall_mem_singleton.mpr ih)

end IsDocumentValue

/-! ## The check -/

namespace Kind

variable {a b : Value} {items : Mapping} {x : String}

/-- On documents the deep comparison says whether they are the same data. Whenever the check against
another field says something, it says the same, and it does so unless the stack ends in the comparison.
Then both documents lie deeper than the stack always suffices for, and the check fails. It fails for the
same data that lies deeper than the stack ever reaches. -/
theorem sameAs_decides_sameData (ha : IsDocumentValue a) (hb : IsDocumentValue b)
    (hawf : a.IsWellFormed) (hbwf : b.IsWellFormed)
    (hfield : Mapping.getOrNull items (.text x) = b) (s : Surroundings) :
    let verdict := sameAs.judge s a (.text x) (.mapping items)
    (a.deepEqual b = true ↔ IsSameData a b) ∧
    (∀ c, verdict = .ok (some c) → (c = true ↔ IsSameData a b)) ∧
    (¬ s.stack.EndsIn 0 a b → ∃ c, verdict = .ok (some c)) ∧
    (s.stack.EndsIn 0 a b → s.stack.deepLevels < a.depth ∧ s.stack.deepLevels < b.depth ∧
      verdict = .error .tooDeep) ∧
    (IsSameData a b → s.stack.lastLevel < a.nesting → s.stack.EndsIn 0 a b) := by
  intro verdict
  have hsame := ha.deepEqual_iff hb hawf hbwf
  have hverdict := judge_sameAs_cases s a hfield
  refine ⟨hsame, fun c hc => ?_, fun hends => ?_, fun hends => ?_, fun hdata hdeep => ?_⟩
  · rcases hverdict with ⟨-, hfails⟩ | ⟨-, hanswer⟩
    · cases hfails.symm.trans hc
    · obtain rfl : a.deepEqual b = c := by simpa using hanswer.symm.trans hc
      exact hsame
  · exact ⟨_, (hverdict.resolve_left fun h => hends h.1).2⟩
  · obtain ⟨hleft, hright⟩ := hends.lt_depth
    exact ⟨hleft, hright, (hverdict.resolve_right fun h => h.1 hends).2⟩
  · exact Stack.endsIn_of_lastLevel_lt (hsame.mpr hdata) (by simpa using hdeep)

/-- A reading of an instrument, with notes on it, as a mapping whose entries are in either order. -/
def reading (isFirst : Bool) (value note : Value) : Value :=
  let entries := [(.text "value", value), (.text "notes", .list [note, .null])]
  .mapping (if isFirst then entries else entries.reverse)

theorem isDocumentValue_reading (isFirst : Bool) {value note : Value} (hvalue : IsDocumentValue value)
    (hnote : IsDocumentValue note) : IsDocumentValue (reading isFirst value note) := by
  have hnotes : IsDocumentValue (.list [note, .null]) := .list (by simpa using ⟨hnote, .null⟩)
  cases isFirst <;> exact .mapping (by simp) (by simp [hvalue, hnotes])

theorem isWellFormed_reading (isFirst : Bool) {value note : Value} (hvalue : value.IsWellFormed)
    (hnote : note.IsWellFormed) : (reading isFirst value note).IsWellFormed := by
  have hnotes : (Value.list [note, .null]).IsWellFormed :=
    .list (by simpa using ⟨hnote, .atom rfl⟩)
  cases isFirst <;>
    exact .mapping (by simpa using ⟨.atom rfl, .atom rfl⟩) (by simp [hvalue, hnotes])
      (by simp [Value.AreDistinct, Value.same, Value.sameAtom])

/-- A reading of one is the same data as one of one point zero, in whichever order it is written, but
it is another one if there is a truth value in the place of a number. -/
theorem reading_sameData :
    IsSameData (reading true (.int 1) (.float (.nan 1)))
      (reading false (.float (.finite 1)) (.float (.nan 2))) ∧
    ¬ IsSameData (reading true (.int 1) (.bool true)) (reading true (.int 1) (.int 1)) := by
  have hfield : ∀ v, Mapping.getOrNull [(.text "b", v)] (.text "b") = v := fun _ => rfl
  constructor
  · obtain ⟨hsame, -⟩ := sameAs_decides_sameData
      (isDocumentValue_reading true (.int 1) (.float (.nan 1)))
      (isDocumentValue_reading false (.float (.finite 1)) (.float (.nan 2)))
      (isWellFormed_reading true (.atom rfl) (.atom rfl))
      (isWellFormed_reading false (.atom rfl) (.atom rfl)) (hfield _) .silent
    exact hsame.mp (by decide)
  · obtain ⟨hsame, -⟩ := sameAs_decides_sameData
      (isDocumentValue_reading true (.int 1) (.bool true))
      (isDocumentValue_reading true (.int 1) (.int 1))
      (isWellFormed_reading true (.atom rfl) (.atom rfl))
      (isWellFormed_reading true (.atom rfl) (.atom rfl)) (hfield _) .silent
    rw [← hsame]
    decide

/-- The same data is not always found to be so: there is no answer about 450 lists in one another on a
stack of 900 calls. -/
theorem not_always_decides_sameData :
    ¬ ∀ s (a b : Value), IsDocumentValue a → IsDocumentValue b → a.IsWellFormed → b.IsWellFormed →
      ∀ items x, Mapping.getOrNull items (.text x) = b → IsSameData a b →
        sameAs.judge s a (.text x) (.mapping items) = .ok (some true) := by
  intro h
  have hdata := IsDocumentValue.wrapped 450
  have hwf := Value.isWellFormed_wrapped 450
  have hends : Surroundings.silent.stack.EndsIn 0 (.wrapped 450) (.wrapped 450) :=
    Value.endsIn_wrapped (by decide)
  have hfield : Mapping.getOrNull [(.text "b", Value.wrapped 450)] (.text "b") = .wrapped 450 := rfl
  have hyes := h .silent _ _ hdata hdata hwf hwf _ _ hfield
    ((hdata.deepEqual_iff hdata hwf hwf).mp hwf.deepEqual_refl)
  rcases judge_sameAs_cases .silent (.wrapped 450) hfield with ⟨-, hfails⟩ | ⟨hnot, -⟩
  · cases hfails.symm.trans hyes
  · exact hnot hends

end Kind

end FieldRules
