import FieldRules.Check.Judgement
import FieldRules.Proofs.CharacterRuns
import FieldRules.Proofs.Trials

/-!
# Web addresses

After a protocol that may be missing, the shape of a web address has five parts, and each may hold what the
next one starts with: a letter or a point after the name of the host fits into the name, the ending and the
path, and a slash at the end fits into the path. So there are many ways to split one text. They all come
to one: the ending gives all but its first two characters to the path, and so does the last part. Hence it
takes one point to tell an address, with characters of a host before it, two characters of an ending after
it, and characters of a path after these. How long an ending may be, and whether a slash may follow the path,
makes no difference.

Only a protocol has a colon, so an address that starts with one cannot do without it.

## Main definitions

* `Pattern.withoutProtocol` — a text after its protocol
* `Pattern.EndsHostAt`, `Pattern.IsWebAddress` — the texts with such a point
* `Pattern.urlOf` — the shape of a web address for any shapes of its ending and of its last part

## Main statements

* `Pattern.urlOf_fits_iff` — all these shapes describe the same texts
* `Kind.web_addresses_decided` — the check of web addresses
-/

namespace FieldRules

open Text

namespace Pattern

variable {cs : List Char}

/-! ## One point tells an address -/

/-- A text after the protocol that it starts with, if it starts with one. -/
def withoutProtocol (cs : List Char) : List Char :=
  if "http://".toList <+: cs then cs.drop 7
  else if "https://".toList <+: cs then cs.drop 8
  else cs

/-- The point at a position ends the name of a host: two characters of an ending follow, and then a path. -/
structure EndsHostAt (cs : List Char) (i : Nat) : Prop where
  one_le : 1 ≤ i
  point : cs[i]? = some '.'
  host_chars : ∀ c ∈ cs.take i, c.isLower = true ∨ c.isDigit = true ∨ c ∈ ".-".toList
  ending_chars : ∀ j ∈ [i + 1, i + 2], ∃ c, cs[j]? = some c ∧ (c.isLower = true ∨ c = '.')
  path_chars : ∀ c ∈ cs.drop (i + 3), c.isAlphanum = true ∨ c ∈ "/_ .-".toList

/-- A text with a point that ends the name of a host, a protocol at the start left aside. -/
def IsWebAddress (cs : List Char) : Prop :=
  ∃ i, EndsHostAt (withoutProtocol cs) i

/-- Characters of a host may stand in a path. -/
theorem has_pathChar_of_hostChar {c : Char} (h : hostChar.has c = true) : pathChar.has c = true := by
  have halpha : c.isAlphanum = (c.isUpper || c.isLower || c.isDigit) := rfl
  rw [has_hostChar_iff] at h
  rw [has_pathChar_iff, halpha]
  rcases h with hlower | hdigit | hmark
  · exact .inl (by simp [hlower])
  · exact .inl (by simp [hdigit])
  · exact .inr ((by decide : ".-".toList ⊆ "/_ .-".toList) hmark)

/-- Characters of an ending may stand in the name of a host. -/
theorem has_hostChar_of_endingChar {c : Char} (h : endingChar.has c = true) :
    hostChar.has c = true := by
  rw [has_hostChar_iff]
  rcases has_endingChar_iff c |>.mp h with hlower | rfl
  · exact .inl hlower
  · exact .inr (.inr (by decide))

/-- Such a point splits a text into the name of a host, two characters of an ending, and a path. -/
theorem exists_endsHostAt_iff : (∃ i, EndsHostAt cs i) ↔
    ∃ name c d rest, cs = name ++ '.' :: c :: d :: rest ∧
      (name ≠ [] ∧ ∀ a ∈ name, hostChar.has a = true) ∧
      (endingChar.has c = true ∧ endingChar.has d = true) ∧ ∀ a ∈ rest, pathChar.has a = true := by
  simp only [has_hostChar_iff, has_endingChar_iff, has_pathChar_iff]
  constructor
  · rintro ⟨i, h⟩
    obtain ⟨c, hc, hcEnding⟩ := h.ending_chars (i + 1) (by simp)
    obtain ⟨d, hd, hdEnding⟩ := h.ending_chars (i + 2) (by simp)
    have hdrop : cs.drop i = '.' :: c :: d :: cs.drop (i + 3) := by
      rw [List.drop_eq_getElem?_toList_append, h.point, List.drop_eq_getElem?_toList_append, hc,
        List.drop_eq_getElem?_toList_append, hd]
      rfl
    obtain ⟨hinside, -⟩ := List.getElem?_eq_some_iff.mp h.point
    have hname : cs.take i ≠ [] := by
      rw [← List.length_pos_iff, List.length_take]
      exact Nat.lt_min.mpr ⟨h.one_le, Nat.zero_lt_of_lt hinside⟩
    exact ⟨cs.take i, c, d, cs.drop (i + 3), by rw [← hdrop, List.take_append_drop],
      ⟨hname, h.host_chars⟩, ⟨hcEnding, hdEnding⟩, h.path_chars⟩
  · rintro ⟨name, c, d, rest, rfl, ⟨hne, hname⟩, ⟨hc, hd⟩, hrest⟩
    refine ⟨name.length, List.length_pos_iff.mpr hne, by simp, by simpa using hname, ?_, ?_⟩
    · simp [List.getElem?_append, hc, hd]
    · have hdrop : (name ++ '.' :: c :: d :: rest).drop (name.length + 3) = rest := by
        rw [List.drop_append, List.drop_of_length_le (Nat.le_add_right ..)]
        simp
      rwa [hdrop]

/-! ## The protocol -/

theorem describes_maybe_protocol_iff : Shape.Describes (.maybe protocol) cs ↔
    cs = [] ∨ cs = "http://".toList ∨ cs = "https://".toList := by
  have hplain : "http://".toList = ['h', 't', 't', 'p', ':', '/', '/'] := rfl
  have hsafe : "https://".toList = ['h', 't', 't', 'p', 's', ':', '/', '/'] := rfl
  simp only [Shape.maybe, protocol, Shape.all, Shape.describes_or_iff, Shape.describes_seq_iff,
    Shape.describes_literal_iff, Shape.describes_empty_iff, hplain, hsafe]
  constructor
  · rintro (⟨_, _, rfl, rfl, _, _, rfl, rfl | rfl, _, _, rfl, rfl, rfl⟩ | rfl) <;> simp
  · rintro (rfl | rfl | rfl)
    · exact .inr rfl
    · exact .inl ⟨_, _, rfl, rfl, [], _, rfl, .inr rfl, _, [], rfl, rfl, rfl⟩
    · exact .inl ⟨_, _, rfl, rfl, ['s'], _, rfl, .inl rfl, _, [], rfl, rfl, rfl⟩

/-- Whatever is taken off the start of a text is a protocol or nothing. -/
theorem exists_protocol_append (cs : List Char) :
    ∃ start, Shape.Describes (.maybe protocol) start ∧ cs = start ++ withoutProtocol cs := by
  simp only [describes_maybe_protocol_iff]
  unfold withoutProtocol
  split
  · rename_i hplain
    obtain ⟨rest, rfl⟩ := hplain
    exact ⟨_, .inr (.inl rfl), rfl⟩
  · split
    · rename_i hsafe
      obtain ⟨rest, rfl⟩ := hsafe
      exact ⟨_, .inr (.inr rfl), rfl⟩
    · exact ⟨[], .inl rfl, rfl⟩

/-- A text without a colon starts with no protocol. -/
theorem withoutProtocol_of_no_colon (h : ':' ∉ cs) : withoutProtocol cs = cs := by
  have hplain : ¬ "http://".toList <+: cs := fun hstart => h (hstart.subset (by decide))
  have hsafe : ¬ "https://".toList <+: cs := fun hstart => h (hstart.subset (by decide))
  rw [withoutProtocol, if_neg hplain, if_neg hsafe]

/-- All characters next to a point that ends the name of a host may stand in a path. -/
theorem EndsHostAt.has_pathChar {i : Nat} (h : EndsHostAt cs i) :
    ∀ c ∈ cs, pathChar.has c = true := by
  obtain ⟨name, c, d, rest, rfl, ⟨-, hname⟩, ⟨hc, hd⟩, hrest⟩ := exists_endsHostAt_iff.mp ⟨i, h⟩
  simp only [List.forall_mem_append, List.forall_mem_cons]
  exact ⟨fun a ha => has_pathChar_of_hostChar (hname a ha), by decide,
    has_pathChar_of_hostChar (has_hostChar_of_endingChar hc),
    has_pathChar_of_hostChar (has_hostChar_of_endingChar hd), hrest⟩

/-- A text is an address exactly if it has such a point after a protocol, or without one. -/
theorem isWebAddress_iff : IsWebAddress cs ↔
    ∃ start rest, cs = start ++ rest ∧ Shape.Describes (.maybe protocol) start ∧
      ∃ i, EndsHostAt rest i := by
  constructor
  · intro h
    obtain ⟨start, hstart, hcs⟩ := exists_protocol_append cs
    exact ⟨start, withoutProtocol cs, hcs, hstart, h⟩
  · rintro ⟨start, rest, rfl, hstart, i, h⟩
    have hrest : withoutProtocol rest = rest := by
      refine withoutProtocol_of_no_colon fun hcolon => ?_
      exact absurd (h.has_pathChar ':' hcolon) (by decide)
    refine ⟨i, ?_⟩
    rcases describes_maybe_protocol_iff.mp hstart with rfl | rfl | rfl
    · exact hrest.symm ▸ h
    · exact h
    · exact h

/-! ## What the ending and the last part may be -/

/-- The shape of a web address whose ending and last part have the given shapes. -/
def urlOf (ending last : Shape) : Shape :=
  .all [.maybe protocol, .all [.oneOrMore (.one hostChar), .literal ['.'], ending],
    .many (.one pathChar), last]

theorem url_eq : url = urlOf ((Shape.one endingChar).between 2 4) (.maybe (.literal ['/'])) := rfl

/-- The shape describes all pairs of characters of an ending, and besides only longer runs of them. -/
structure IsEnding (ending : Shape) : Prop where
  pairs : ∀ c d, endingChar.has c = true → endingChar.has d = true → Shape.Describes ending [c, d]
  two_le : ∀ cs, Shape.Describes ending cs → 2 ≤ cs.length
  chars : ∀ cs, Shape.Describes ending cs → ∀ c ∈ cs, endingChar.has c = true

/-- The shape describes the empty text, and besides only texts that may end a path. -/
structure IsPathEnd (last : Shape) : Prop where
  nothing : Shape.Describes last []
  chars : ∀ cs, Shape.Describes last cs → ∀ c ∈ cs, pathChar.has c = true

theorem isEnding_between (extra : Nat) : IsEnding ((Shape.one endingChar).between 2 extra) where
  pairs c d hc hd := Shape.describes_between_one_iff.mpr (by simp [hc, hd])
  two_le cs h := (Shape.describes_between_one_iff.mp h).1
  chars cs h := (Shape.describes_between_one_iff.mp h).2.2

theorem isEnding_unbounded :
    IsEnding (.seq (.one endingChar) (.oneOrMore (.one endingChar))) where
  pairs c d hc hd := by
    simp [Shape.describes_one_seq_cons_iff, Shape.describes_oneOrMore_one_iff, hc, hd]
  two_le cs h := by
    obtain ⟨c, rest, rfl, -, hrest⟩ := Shape.describes_one_seq_iff.mp h
    obtain ⟨hne, -⟩ := Shape.describes_oneOrMore_one_iff.mp hrest
    exact Nat.succ_le_succ (List.length_pos_iff.mpr hne)
  chars cs h := by
    obtain ⟨c, rest, rfl, hc, hrest⟩ := Shape.describes_one_seq_iff.mp h
    exact List.forall_mem_cons.mpr ⟨hc, (Shape.describes_oneOrMore_one_iff.mp hrest).2⟩

theorem isPathEnd_empty : IsPathEnd .empty where
  nothing := .empty
  chars cs h := by simp [Shape.describes_empty_iff.mp h]

theorem isPathEnd_slash : IsPathEnd (.maybe (.literal ['/'])) where
  nothing := .right .empty
  chars cs h := by
    rw [Shape.maybe, Shape.describes_or_iff, Shape.describes_literal_iff,
      Shape.describes_empty_iff] at h
    rcases h with rfl | rfl
    · exact List.forall_mem_singleton.mpr (by decide)
    · exact List.forall_mem_nil _

/-- Whatever an ending holds beyond two characters, and whatever ends a path, belongs to the path. -/
theorem describes_urlOf_iff {ending last : Shape} (hending : IsEnding ending)
    (hlast : IsPathEnd last) : Shape.Describes (urlOf ending last) cs ↔ IsWebAddress cs := by
  rw [isWebAddress_iff]
  simp only [urlOf, Shape.all, Shape.describes_seq_iff, Shape.describes_oneOrMore_one_iff,
    Shape.describes_literal_iff, Shape.describes_many_one_iff, Shape.describes_empty_iff,
    exists_endsHostAt_iff]
  constructor
  · rintro ⟨start, _, rfl, hstart, _, _, rfl,
      ⟨name, _, rfl, hname, _, _, rfl, rfl, long, _, rfl, hlong, rfl⟩, path, _, rfl, hpath,
      slash, _, rfl, hslash, rfl⟩
    have htwo : 2 ≤ long.length := hending.two_le long hlong
    rcases long with _ | ⟨c, _ | ⟨d, more⟩⟩
    · simp at htwo
    · simp at htwo
    · have hchars := hending.chars _ hlong
      simp only [List.forall_mem_cons] at hchars
      obtain ⟨hc, hd, hmore⟩ := hchars
      refine ⟨start, _, rfl, hstart, name, c, d, more ++ (path ++ slash), by simp, hname, ⟨hc, hd⟩, ?_⟩
      simp only [List.forall_mem_append]
      exact ⟨fun a ha => has_pathChar_of_hostChar (has_hostChar_of_endingChar (hmore a ha)), hpath,
        hlast.chars slash hslash⟩
  · rintro ⟨start, _, rfl, hstart, name, c, d, rest, rfl, hname, ⟨hc, hd⟩, hrest⟩
    exact ⟨start, _, rfl, hstart, name ++ '.' :: [c, d], rest, by simp,
      ⟨name, _, rfl, hname, ['.'], _, rfl, rfl, [c, d], [], by simp, hending.pairs c d hc hd, rfl⟩,
      rest, _, (List.append_nil rest).symm, hrest, [], [], rfl, hlast.nothing, rfl⟩

/-- All these shapes describe the addresses. -/
theorem urlOf_fits_iff {ending last : Shape} (hending : IsEnding ending) (hlast : IsPathEnd last) :
    (urlOf ending last).fits cs = true ↔ IsWebAddress cs := by
  rw [Shape.fits_iff, describes_urlOf_iff hending hlast]

/-- An address is made of characters of ASCII, and has no line breaks. -/
theorem IsWebAddress.chars (h : IsWebAddress cs) : ∀ c ∈ cs, c ≠ '\n' ∧ c.toNat < 128 := by
  obtain ⟨start, rest, rfl, hstart, i, hpoint⟩ := isWebAddress_iff.mp h
  rw [List.forall_mem_append]
  constructor
  · rcases describes_maybe_protocol_iff.mp hstart with rfl | rfl | rfl <;> simp
  · intro c hc
    have hpath : pathChar.has c = true := hpoint.has_pathChar c hc
    refine ⟨?_, CharClass.toNat_lt_of_has (by decide) hpath⟩
    rintro rfl
    exact absurd hpath (by decide)

end Pattern

namespace Kind

theorem judge_url_text (around : Surroundings) {s : String} (hs : s ≠ "") (given fields : Value) :
    url.judge around (.text s) given fields = .ok (some (Pattern.url.fits s.toList)) := by
  have htruthy : (Value.text s).isFalsy = false := by simp [Value.isFalsy, Value.isTruthy, hs]
  simp [judge, unlessEmpty, htruthy, Value.hasShape, Except.map]

/-- The check of web addresses says yes to a text that is not empty if it is an address, and no if it is
none. It would say the same if an ending had any other greatest length, or none, and if no slash could
follow the path. What it says yes to has no line break and no character outside ASCII. -/
theorem web_addresses_decided (around : Surroundings) {s : String} (hs : s ≠ "") (given fields : Value) :
    ∃ b, url.judge around (.text s) given fields = .ok (some b) ∧
      (b = true ↔ Pattern.IsWebAddress s.toList) ∧
      (∀ extra, (Pattern.urlOf ((Shape.one Pattern.endingChar).between 2 extra) .empty).fits s.toList =
        b) ∧
      (Pattern.urlOf (.seq (.one Pattern.endingChar) (.oneOrMore (.one Pattern.endingChar)))
        .empty).fits s.toList = b ∧
      (b = true → ∀ c ∈ s.toList, c ≠ '\n' ∧ c.toNat < 128) := by
  have hurl : Pattern.url.fits s.toList = true ↔ Pattern.IsWebAddress s.toList := by
    rw [Pattern.url_eq]
    exact Pattern.urlOf_fits_iff (Pattern.isEnding_between 4) Pattern.isPathEnd_slash
  have hsame : ∀ ending, Pattern.IsEnding ending →
      (Pattern.urlOf ending .empty).fits s.toList = Pattern.url.fits s.toList := by
    intro ending hending
    rw [Bool.eq_iff_iff, hurl, Pattern.urlOf_fits_iff hending Pattern.isPathEnd_empty]
  exact ⟨Pattern.url.fits s.toList, judge_url_text around hs given fields, hurl,
    fun extra => hsame _ (Pattern.isEnding_between extra), hsame _ Pattern.isEnding_unbounded,
    fun h => (hurl.mp h).chars⟩

/-- Three points in a row, the first of which ends the name of the host, and two slashes after a blank. -/
theorem web_addresses_decided_points :
    "https://x...c/a b//" ≠ "" ∧
      url.judge .silent (.text "https://x...c/a b//") .null .null = .ok (some true) := by
  have hs : "https://x...c/a b//" ≠ "" := by decide
  have hpoint : Pattern.EndsHostAt "x...c/a b//".toList 1 :=
    { one_le := by decide
      point := by decide
      host_chars := by simp
      ending_chars := by
        simp only [List.forall_mem_cons]
        exact ⟨⟨'.', by decide, .inr rfl⟩, ⟨'.', by decide, .inr rfl⟩, by simp⟩
      path_chars := by simp }
  obtain ⟨b, hjudge, hb, -⟩ := web_addresses_decided .silent hs .null .null
  obtain rfl : b = true := hb.mpr ⟨1, hpoint⟩
  exact ⟨hs, hjudge⟩

end Kind

end FieldRules
