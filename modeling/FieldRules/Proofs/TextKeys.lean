import FieldRules.Value.Mapping

/-!
# Texts as keys

Keys are found by the equality of members of containers, which is wider than the identity of values:
a whole number finds the same number as a double. A text finds itself alone. Mappings therefore obey
the usual laws of look-up at texts, whatever their other keys are.

## Main definitions

* `Members.add` — a set with another member

## Main statements

* `Value.same_text_left_iff`, `Value.same_text_right_iff` — a text is the same as itself only
* `Mapping.get?_text_eq_some_iff` — what stands under a text
* `Mapping.get?_put_text` — what is found under a text after something was listed
* `Mapping.keys_put` — the keys after something was listed
* `Mapping.forall_mem_put` — what holds of all entries stays true
* `Members.mem_of_mem_ofList`, `Members.text_mem_ofList_iff` — the members of a set
* `Members.ofList_sublist`, `Members.nodup_ofList_text` — their order
-/

namespace FieldRules

namespace Value

@[simp] theorem same_text_left_iff {x : String} {v : Value} :
    (Value.text x).same v = true ↔ v = .text x := by
  cases v <;> simp [same, sameAtom, numeric?, number?, eq_comm]

@[simp] theorem same_text_right_iff {x : String} {v : Value} :
    v.same (.text x) = true ↔ v = .text x := by
  cases v <;> simp [same, sameAtom, numeric?, number?]

@[simp] theorem isMember_nil (v : Value) : v.isMember [] = false := rfl

@[simp] theorem isMember_cons (v w : Value) (ws : List Value) :
    v.isMember (w :: ws) = (v.same w || v.isMember ws) := rfl

@[simp] theorem isMember_text_iff {x : String} {vs : List Value} :
    (Value.text x).isMember vs = true ↔ .text x ∈ vs := by
  simp [isMember]

end Value

/-- A member is added at the end of a set unless it is there. -/
def Members.add (members : List Value) (v : Value) : List Value :=
  if v.isMember members then members else members ++ [v]

namespace Mapping

variable {α : Type}

@[simp] theorem keys_nil : keys ([] : List (Value × α)) = [] := rfl

@[simp] theorem keys_cons (entry : Value × α) (rest : List (Value × α)) :
    keys (entry :: rest) = entry.1 :: keys rest := rfl

@[simp] theorem get?_nil (key : Value) : get? ([] : List (Value × α)) key = none := rfl

theorem get?_cons (k key : Value) (v : α) (rest : List (Value × α)) :
    get? ((k, v) :: rest) key = if key.same k then some v else get? rest key := by
  cases h : key.same k <;> simp [get?, h]

/-- What is found under a key is listed under one that is the same. -/
theorem exists_same_of_get?_eq_some {m : List (Value × α)} {key : Value} {a : α}
    (h : get? m key = some a) : ∃ k, (k, a) ∈ m ∧ key.same k = true := by
  obtain ⟨entry, hentry, rfl⟩ := Option.map_eq_some_iff.mp h
  exact ⟨entry.1, List.mem_of_find?_eq_some hentry, by simpa using List.find?_some hentry⟩

theorem mem_of_get?_eq_some {m : List (Value × α)} {key : Value} {a : α}
    (h : get? m key = some a) : ∃ k, (k, a) ∈ m := by
  obtain ⟨k, hmem, -⟩ := exists_same_of_get?_eq_some h
  exact ⟨k, hmem⟩

/-- Under a text stands nothing exactly if it is no key. -/
theorem get?_text_eq_none_iff {m : List (Value × α)} {x : String} :
    get? m (.text x) = none ↔ .text x ∉ keys m := by
  induction m with
  | nil => simp
  | cons entry rest ih =>
      obtain ⟨k, v⟩ := entry
      rw [get?_cons, keys_cons, List.mem_cons, not_or, ← ih]
      by_cases hk : (Value.text x).same k = true
      · have hx : k = .text x := Value.same_text_left_iff.mp hk
        simp [hx]
      · have hx : .text x ≠ k := fun hx => hk (Value.same_text_left_iff.mpr hx.symm)
        simp [hk, hx]

/-- Under a text stands what is listed under it, if no key comes twice. -/
theorem get?_text_eq_some_iff {m : List (Value × α)} (h : (keys m).Nodup) {x : String} {a : α} :
    get? m (.text x) = some a ↔ (.text x, a) ∈ m := by
  constructor
  · intro hget
    obtain ⟨k, hmem, hsame⟩ := exists_same_of_get?_eq_some hget
    obtain rfl := Value.same_text_left_iff.mp hsame
    exact hmem
  · intro hmem
    induction m with
    | nil => exact absurd hmem List.not_mem_nil
    | cons entry rest ih =>
        obtain ⟨k, v⟩ := entry
        obtain ⟨hk, hrest⟩ := List.nodup_cons.mp h
        rw [get?_cons]
        rcases List.mem_cons.mp hmem with heq | hmem
        · obtain ⟨rfl, rfl⟩ := Prod.mk.inj heq
          exact if_pos (Value.same_text_left_iff.mpr rfl)
        · have hx : Value.text x ∈ keys rest := List.mem_map_of_mem hmem
          have hne : ¬ (Value.text x).same k = true := fun hsame =>
            hk (Value.same_text_left_iff.mp hsame ▸ hx)
          rw [if_neg hne]
          exact ih hrest hmem

/-- Under a text stands what was listed last under it. -/
theorem get?_put_text (m : List (Value × α)) (key : Value) (value : α) (x : String) :
    get? (put m key value) (.text x) =
      if (Value.text x).same key then some value else get? m (.text x) := by
  induction m with
  | nil => simp only [put, get?_cons, get?_nil]
  | cons entry rest ih =>
      obtain ⟨k, v⟩ := entry
      -- One of the keys is the text exactly if both are, where they are the same.
      by_cases hsame : key.same k = true
      · have hk : (Value.text x).same k = (Value.text x).same key := by
          rw [Bool.eq_iff_iff]
          constructor <;> intro h <;> obtain rfl := Value.same_text_left_iff.mp h
          · exact Value.same_text_left_iff.mpr (Value.same_text_right_iff.mp hsame)
          · exact Value.same_text_left_iff.mpr (Value.same_text_left_iff.mp hsame)
        simp only [put, hsame, if_true, get?_cons, hk]
        split <;> rfl
      · simp only [put, hsame, Bool.false_eq_true, if_false, get?_cons, ih]
        by_cases hk : (Value.text x).same k = true
        · have hkey : (Value.text x).same key = false := by
            rw [Bool.eq_false_iff]
            intro h
            obtain rfl := Value.same_text_left_iff.mp h
            exact hsame hk
          simp [hk, hkey]
        · simp [hk]

/-- A key is added to the others unless it is there. -/
theorem keys_put (m : List (Value × α)) (key : Value) (value : α) :
    keys (put m key value) = Members.add (keys m) key := by
  induction m with
  | nil => simp [put, Members.add]
  | cons entry rest ih =>
      obtain ⟨k, v⟩ := entry
      cases hsame : key.same k with
      | true => simp [put, hsame, Members.add]
      | false =>
          simp only [put, hsame, Bool.false_eq_true, if_false, keys_cons, ih, Value.isMember_cons,
            Bool.false_or, Members.add]
          split <;> rfl

/-- Whatever holds of all keys, and of all that is listed, still does after something else was listed
of which it holds. -/
theorem forall_mem_put {P : Value → Prop} {Q : α → Prop} {m : List (Value × α)}
    (h : ∀ entry ∈ m, P entry.1 ∧ Q entry.2) {key : Value} (hkey : P key) {value : α}
    (hvalue : Q value) : ∀ entry ∈ put m key value, P entry.1 ∧ Q entry.2 := by
  induction m with
  | nil => simpa [put] using ⟨hkey, hvalue⟩
  | cons entry rest ih =>
      obtain ⟨k, v⟩ := entry
      obtain ⟨hentry, hrest⟩ := List.forall_mem_cons.mp h
      by_cases hsame : key.same k = true
      · simp only [put, hsame, if_true]
        exact List.forall_mem_cons.mpr ⟨⟨hentry.1, hvalue⟩, hrest⟩
      · simp only [put, hsame, Bool.false_eq_true, if_false]
        exact List.forall_mem_cons.mpr ⟨hentry, ih hrest⟩

end Mapping

namespace Members

theorem ofList_eq_foldl (vs : List Value) : ofList vs = vs.foldl add [] := rfl

theorem subset_add (members : List Value) (v : Value) : members ⊆ add members v := by
  unfold add
  split
  · exact List.Subset.refl members
  · exact List.subset_append_left members [v]

theorem mem_or_eq_of_mem_add {members : List Value} {v w : Value} (h : w ∈ add members v) :
    w ∈ members ∨ w = v := by
  unfold add at h
  split at h
  · exact .inl h
  · simpa using h

theorem text_mem_add (members : List Value) (x : String) : .text x ∈ add members (.text x) := by
  unfold add
  split
  · exact Value.isMember_text_iff.mp ‹_›
  · simp

theorem subset_foldl_add (members vs : List Value) : members ⊆ vs.foldl add members := by
  induction vs generalizing members with
  | nil => exact List.Subset.refl members
  | cons v rest ih => exact List.Subset.trans (subset_add members v) (ih _)

/-- What is in a set is among the values that it was made of. -/
theorem mem_of_mem_ofList {v : Value} {vs : List Value} (h : v ∈ ofList vs) : v ∈ vs := by
  rw [ofList_eq_foldl] at h
  suffices hfold : ∀ members, v ∈ vs.foldl add members → v ∈ members ∨ v ∈ vs from
    (hfold [] h).resolve_left List.not_mem_nil
  clear h
  induction vs with
  | nil => exact fun members h => .inl h
  | cons w rest ih =>
      intro members h
      rcases ih _ h with hmembers | hrest
      · rcases mem_or_eq_of_mem_add hmembers with hmem | rfl
        · exact .inl hmem
        · exact .inr List.mem_cons_self
      · exact .inr (List.mem_cons_of_mem w hrest)

/-- The first value is in the set. -/
theorem head_mem_ofList (v : Value) (vs : List Value) : v ∈ ofList (v :: vs) :=
  subset_foldl_add [v] vs (List.mem_singleton_self v)

/-- A text is in a set exactly if the set was made of it among others. -/
theorem text_mem_ofList_iff {x : String} {vs : List Value} : .text x ∈ ofList vs ↔ .text x ∈ vs := by
  refine ⟨mem_of_mem_ofList, ?_⟩
  suffices hfold : ∀ members, .text x ∈ vs → .text x ∈ vs.foldl add members from hfold []
  induction vs with
  | nil => exact fun members h => absurd h List.not_mem_nil
  | cons v rest ih =>
      intro members h
      rcases List.mem_cons.mp h with rfl | hrest
      · exact subset_foldl_add _ rest (text_mem_add members x)
      · exact ih _ hrest

theorem add_sublist (members : List Value) (v : Value) : (add members v).Sublist (members ++ [v]) := by
  unfold add
  split
  · exact List.sublist_append_left members [v]
  · exact List.Sublist.refl _

/-- The members of a set stand in the order in which they first came. -/
theorem ofList_sublist (vs : List Value) : (ofList vs).Sublist vs := by
  suffices hfold : ∀ members, (vs.foldl add members).Sublist (members ++ vs) from hfold []
  induction vs with
  | nil => simp
  | cons v rest ih =>
      intro members
      have hv : (add members v ++ rest).Sublist (members ++ [v] ++ rest) :=
        (add_sublist members v).append_right rest
      rw [List.append_assoc] at hv
      exact (ih (add members v)).trans hv

theorem nodup_add_text {members : List Value} (h : members.Nodup) (x : String) :
    (add members (.text x)).Nodup := by
  unfold add
  split
  · exact h
  · rename_i hnew
    rw [Value.isMember_text_iff] at hnew
    refine List.nodup_append.mpr ⟨h, List.pairwise_singleton _ _, ?_⟩
    rintro v hv w hw rfl
    exact hnew (List.mem_singleton.mp hw ▸ hv)

/-- A set of texts has none of them twice. -/
theorem nodup_ofList_text (xs : List String) : (ofList (xs.map .text)).Nodup := by
  suffices hfold : ∀ members : List Value, members.Nodup →
      ((xs.map Value.text).foldl add members).Nodup from hfold [] List.nodup_nil
  induction xs with
  | nil => exact fun members h => h
  | cons x rest ih => exact fun members h => ih _ (nodup_add_text h x)

end Members

end FieldRules
