import FieldRules.Proofs.AddedChecks
import Mathlib.Data.List.Nodup
import Mathlib.Data.Set.List
import Mathlib.Tactic.TFAE

/-!
# The answers of a library

A library is asked about a kind in four places. Compiling a schema asks whether it knows the kind, the
evaluation of a rule asks for its check, a caller may ask what is listed for it, and the service tells
the names of all kinds. The four answers are read off the listings in ways of their own: a look-up stops
at the first key that is the same, an item that is added keeps the place and the key of what it replaces,
and the names are sorted. If one of them took an item by the name that the item carries, and not by the
key it was added with, a kind would be known and have no check.

They do agree in the library of the built-in checks and of functions that are added under names, whichever
of the built-in names these are. Under the name of an item stands the function of the item, and under the
other names of built-in kinds these kinds. And every name is told once.

## Main definitions

* `Library.IsAddition` — mappings of names to functions, with names of their own or without

## Main statements

* `Library.listing?_add` — what is listed after items were added
* `Library.IsUsable.exists_names` — the names of a library
* `Library.lookups_agree` — the four answers
-/

namespace FieldRules

namespace Library

variable {lib : Library} {extra : Mapping}

/-- A mapping of names to functions, each with a name of its own or without. No name comes twice. -/
structure IsAddition (extra : Mapping) : Prop where
  adds : ∀ item ∈ extra, ∃ name f, item.1 = .text name ∧ item.2.Adds f
  distinct : (Mapping.keys extra).Nodup

/-! ## Look-ups -/

/-- Under a name stands what was added under it, and otherwise what stood there before. -/
theorem listing?_add (h : (Mapping.keys extra).Nodup) (k : String) :
    (lib.add extra).listing? (.text k) =
      ((Mapping.get? extra (.text k)).map (listingOf (.text k))).or (lib.listing? (.text k)) := by
  induction extra generalizing lib with
  | nil => rfl
  | cons item rest ih =>
      obtain ⟨key, value⟩ := item
      obtain ⟨hkey, hrest⟩ := List.nodup_cons.mp h
      have hadd : lib.add ((key, value) :: rest) =
          Library.add ⟨Mapping.put lib.listings key (listingOf key value)⟩ rest := rfl
      have hput : Library.listing? ⟨Mapping.put lib.listings key (listingOf key value)⟩ (.text k) =
          if (Value.text k).same key then some (listingOf key value) else lib.listing? (.text k) :=
        Mapping.get?_put_text _ _ _ _
      rw [hadd, ih hrest, hput, Mapping.get?_cons]
      by_cases hsame : (Value.text k).same key = true
      · -- The items after this one have other keys, and so none of them replaces it.
        obtain rfl := Value.same_text_left_iff.mp hsame
        simp [Mapping.get?_text_eq_none_iff.mpr hkey]
      · simp [hsame]

theorem check?_add_of_mem (h : IsAddition extra) {k : String} {item : Value} {f : FunctionId}
    (hmem : (.text k, item) ∈ extra) (hitem : item.Adds f) :
    (lib.add extra).check? (.text k) = some (.supplied (.function f)) := by
  have hlisting : (lib.add extra).listing? (.text k) = some (listingOf (.text k) item) := by
    rw [listing?_add h.distinct, (Mapping.get?_text_eq_some_iff h.distinct).mpr hmem]
    rfl
  simp [check?, hlisting, check_listingOf hitem]

theorem check?_add_of_not_mem (h : IsAddition extra) {k : String}
    (hk : .text k ∉ Mapping.keys extra) :
    (lib.add extra).check? (.text k) = lib.check? (.text k) := by
  have hlisting : (lib.add extra).listing? (.text k) = lib.listing? (.text k) := by
    rw [listing?_add h.distinct, Mapping.get?_text_eq_none_iff.mpr hk]
    rfl
  rw [check?, check?, hlisting]

/-! ## Names -/

/-- A library knows its keys. -/
theorem mem_keys_iff {k : String} :
    .text k ∈ Mapping.keys lib.listings ↔ lib.contains (.text k) = true := by
  rw [contains_eq_isSome_listing?, ← not_iff_not, ← Mapping.get?_text_eq_none_iff,
    Option.not_isSome_iff_eq_none]
  rfl

theorem mem_keys_standard {k : String} :
    .text k ∈ Mapping.keys standard.listings ↔ ∃ kind : Kind, kind.name = k := by
  simp [standard, Mapping.keys, Kind.mem_all]

theorem nodup_keys_standard : (Mapping.keys standard.listings).Nodup := by
  have hkeys : Mapping.keys standard.listings = Kind.all.map fun kind => .text kind.name := by
    simp [standard, Mapping.keys]
  have hkinds : Kind.all.Nodup := by decide
  rw [hkeys]
  exact hkinds.map fun a b hab => Kind.name_injective (Value.text.inj hab)

theorem mem_keys_add (h : (Mapping.keys extra).Nodup) {k : String} :
    .text k ∈ Mapping.keys (lib.add extra).listings ↔
      .text k ∈ Mapping.keys lib.listings ∨ .text k ∈ Mapping.keys extra := by
  rw [mem_keys_iff, contains_eq_isSome_listing?, listing?_add h, Option.isSome_or, Bool.or_eq_true,
    ← contains_eq_isSome_listing?, ← mem_keys_iff, or_comm, Option.isSome_map,
    ← Mapping.hasKey_eq_isSome_get?]
  simp [Mapping.hasKey, Mapping.keys]

/-- Items that are added under names leave the keys of a library distinct. -/
theorem nodup_keys_add (hlib : (Mapping.keys lib.listings).Nodup)
    (hextra : ∀ item ∈ extra, ∃ name, item.1 = .text name) :
    (Mapping.keys (lib.add extra).listings).Nodup := by
  induction extra generalizing lib with
  | nil => exact hlib
  | cons item rest ih =>
      obtain ⟨⟨name, hname⟩, hrest⟩ := List.forall_mem_cons.mp hextra
      have hput : (Mapping.keys (Mapping.put lib.listings item.1
          (listingOf item.1 item.2))).Nodup := by
        rw [Mapping.keys_put, hname]
        exact Members.nodup_add_text hlib name
      exact ih hput hrest

theorem textKeys?_eq_some {names : List String}
    (h : Mapping.keys lib.listings = names.map .text) : lib.textKeys? = some names := by
  rw [textKeys?, h]
  clear h
  induction names with
  | nil => rfl
  | cons name rest ih =>
      rw [List.map_cons, List.mapM_cons, ih]
      rfl

/-- Texts that differ are in strict order when they are sorted. -/
theorem pairwise_lt_mergeSort {names : List String} (h : names.Nodup) :
    (names.mergeSort fun a b => decide (a ≤ b)).Pairwise (· < ·) := by
  have hsorted : (names.mergeSort fun a b => decide (a ≤ b)).Pairwise fun a b => decide (a ≤ b) :=
    List.pairwise_mergeSort
      (fun a b c hab hbc => by simpa using String.le_trans (by simpa using hab) (by simpa using hbc))
      (fun a b => by simpa using String.le_total a b) names
  have hdistinct : (names.mergeSort fun a b => decide (a ≤ b)).Nodup :=
    (List.mergeSort_perm names _).nodup_iff.mpr h
  refine hsorted.imp₂ (fun a b hle hne => ?_) hdistinct
  exact String.not_le.mp fun hge => hne (String.le_antisymm (by simpa using hle) hge)

/-- A usable library with distinct keys tells each of them once, in order. -/
theorem IsUsable.exists_names (h : lib.IsUsable) (hdistinct : (Mapping.keys lib.listings).Nodup) :
    ∃ names, lib.names = .ok names ∧ names.Pairwise (· < ·) ∧
      ∀ k, k ∈ names ↔ .text k ∈ Mapping.keys lib.listings := by
  have htexts : ∀ key ∈ Mapping.keys lib.listings, key ∈ Set.range Value.text := by
    intro key hkey
    obtain ⟨entry, hentry, rfl⟩ := List.mem_map.mp hkey
    obtain ⟨name, hname⟩ := (h entry hentry).1
    exact ⟨name, hname.symm⟩
  obtain ⟨names, hnames⟩ : Mapping.keys lib.listings ∈ Set.range (List.map Value.text) := by
    rw [Set.range_list_map]
    exact htexts
  refine ⟨names.mergeSort fun a b => decide (a ≤ b), ?_, ?_, fun k => ?_⟩
  · rw [Library.names, textKeys?_eq_some hnames.symm]
  · rw [← hnames] at hdistinct
    exact pairwise_lt_mergeSort (List.Nodup.of_map _ hdistinct)
  · rw [List.mem_mergeSort, ← hnames]
    simp

/-! ## All answers -/

/-- Of the library of the built-in checks and of functions that are added under names, however the
functions are named themselves, all answers about a kind agree: whether it is known, whether it has
a check, whether anything is listed for it, and whether its name is among the names. The check of
a kind is the function added under its name, even if a built-in kind has this name, and otherwise that
of the built-in kind, if there is one. The names are those of the built-in kinds and those that functions
are added under, in order and each once. -/
theorem lookups_agree {extra : Mapping} (h : IsAddition extra) :
    ∃ lib names, extend (.mapping extra) = .ok lib ∧ lib.names = .ok names ∧
      (∀ key, List.TFAE [lib.contains key = true, (lib.check? key).isSome = true,
          (lib.listing? key).isSome = true, ∃ k ∈ names, key = .text k] ∧
        lib.check? key = (lib.listing? key).map Listing.check) ∧
      (∀ k item f, (.text k, item) ∈ extra → item.Adds f →
        lib.check? (.text k) = some (.supplied (.function f))) ∧
      (∀ k, .text k ∉ Mapping.keys extra →
        lib.check? (.text k) = (Kind.ofName? k).map .builtin) ∧
      names.Pairwise (· < ·) ∧
      ∀ k, k ∈ names ↔ (∃ kind : Kind, kind.name = k) ∨ .text k ∈ Mapping.keys extra := by
  have husable : (standard.add extra).IsUsable := isUsable_standard.add h.adds
  have hdistinct : (Mapping.keys (standard.add extra).listings).Nodup :=
    nodup_keys_add nodup_keys_standard fun item hitem => by
      obtain ⟨name, f, hname, -⟩ := h.adds item hitem
      exact ⟨name, hname⟩
  obtain ⟨names, hnames, hsorted, hmem⟩ := husable.exists_names hdistinct
  refine ⟨_, names, extend_mapping extra, hnames, fun key => ?_,
    fun k item f => check?_add_of_mem h, fun k hk => ?_, hsorted, fun k => ?_⟩
  · refine ⟨?_, husable.check?_eq key⟩
    have hlisted := contains_eq_isSome_listing? (standard.add extra) key
    tfae_have 1 ↔ 2 := by rw [husable.contains_eq_isSome_check?]
    tfae_have 1 ↔ 3 := by rw [hlisted]
    tfae_have 1 → 4 := by
      intro hknown
      obtain ⟨k, rfl⟩ := husable.exists_text_of_contains hknown
      exact ⟨k, (hmem k).mpr (mem_keys_iff.mpr hknown), rfl⟩
    tfae_have 4 → 1 := by
      rintro ⟨k, hk, rfl⟩
      exact mem_keys_iff.mp ((hmem k).mp hk)
    tfae_finish
  · rw [check?_add_of_not_mem h hk, check?_standard]
  · rw [hmem, mem_keys_add h.distinct, mem_keys_standard]

/-- A function that replaces the upper bound, under another name of its own, and one that is added. -/
def shadowedMax : Mapping :=
  [(.text "max", .named (.text "largest") (.function 1)), (.text "even", .function 0)]

/-- The function is found in place of the upper bound and not by its own name; the lower bound is as
before. -/
theorem lookups_agree_shadowedMax :
    ∃ lib names, extend (.mapping shadowedMax) = .ok lib ∧ lib.names = .ok names ∧
      lib.check? (.text "max") = some (.supplied (.function 1)) ∧
      lib.check? (.text "min") = some (.builtin .min) ∧
      "max" ∈ names ∧ "even" ∈ names ∧ "largest" ∉ names ∧
      lib.contains (.text "largest") = false := by
  have h : IsAddition shadowedMax := by
    refine ⟨?_, by simp [shadowedMax]⟩
    simp only [shadowedMax, List.forall_mem_cons]
    exact ⟨⟨_, _, rfl, .named⟩, ⟨_, _, rfl, .function⟩, by simp⟩
  obtain ⟨lib, names, hlib, hnames, hagree, hadded, hbuiltin, -, hmem⟩ := lookups_agree h
  have hlargest : "largest" ∉ names := by
    rw [hmem]
    rintro (⟨kind, hkind⟩ | hkey)
    · cases kind <;> simp [Kind.name] at hkind
    · simp [shadowedMax] at hkey
  refine ⟨lib, names, hlib, hnames, hadded "max" _ 1 List.mem_cons_self .named, ?_,
    (hmem _).mpr (.inl ⟨.max, rfl⟩), (hmem _).mpr (.inr (by simp [shadowedMax])), hlargest, ?_⟩
  · rw [hbuiltin "min" (by simp [shadowedMax])]
    rfl
  · rw [Bool.eq_false_iff]
    intro hknown
    obtain ⟨k, hk, hkey⟩ := ((hagree (.text "largest")).1.out 0 3).mp hknown
    exact hlargest (Value.text.inj hkey ▸ hk)

end Library

end FieldRules
