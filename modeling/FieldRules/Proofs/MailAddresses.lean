import FieldRules.Check.Judgement
import FieldRules.Proofs.CharacterRuns
import FieldRules.Proofs.Trials

/-!
# Mail addresses

The shape of a mail address has three runs that border on each other: a point may end the name of the host,
and it may as well stand in that name or in the ending after it. So one text can be split in more than one
way, and it is an address if any of these ways keeps the lengths. The at sign alone tells where the mailbox
ends, since no run may hold it; for the same reason an address has just one.

## Main definitions

* `Pattern.AreMailParts` — what the three parts of an address are made of
* `Pattern.IsMailAddress` — the texts that can be split into such parts

## Main statements

* `Pattern.email_fits_iff` — the shape describes these texts
* `Kind.mail_addresses_decided` — the checks of addresses and of names of users
-/

namespace FieldRules

open Text

namespace Pattern

/-- The parts of a mail address: a mailbox, the name of a host, and the ending of that name. -/
structure AreMailParts (mailbox host ending : List Char) : Prop where
  mailbox_ne_nil : mailbox ≠ []
  mailbox_chars : ∀ c ∈ mailbox, c.isAlphanum = true ∨ c ∈ "_.+-".toList
  host_ne_nil : host ≠ []
  host_chars : ∀ c ∈ host, c.isLower = true ∨ c.isDigit = true ∨ c ∈ ".-".toList
  two_le_ending : 2 ≤ ending.length
  ending_le_six : ending.length ≤ 6
  ending_chars : ∀ c ∈ ending, c.isLower = true ∨ c = '.'

/-- A text with a single at sign is a mailbox before it, and after it the name of a host, a point, and an
ending. -/
def IsMailAddress (cs : List Char) : Prop :=
  cs.count '@' = 1 ∧ ∃ mailbox host ending,
    cs = mailbox ++ '@' :: (host ++ '.' :: ending) ∧ AreMailParts mailbox host ending

variable {cs mailbox name ending : List Char}

theorem describes_host_iff : Shape.Describes host cs ↔
    ∃ name ending, cs = name ++ '.' :: ending ∧ (name ≠ [] ∧ ∀ c ∈ name, hostChar.has c = true) ∧
      2 ≤ ending.length ∧ ending.length ≤ 6 ∧ ∀ c ∈ ending, endingChar.has c = true := by
  simp only [host, Shape.all, Shape.describes_seq_iff, Shape.describes_oneOrMore_one_iff,
    Shape.describes_literal_iff, Shape.describes_between_one_iff, Shape.describes_empty_iff]
  constructor
  · rintro ⟨name, _, rfl, hname, _, _, rfl, rfl, ending, _, rfl, hending, rfl⟩
    exact ⟨name, ending, by simp, hname, hending⟩
  · rintro ⟨name, ending, rfl, hname, hending⟩
    exact ⟨name, _, rfl, hname, ['.'], ending, rfl, rfl, ending, [], by simp, hending, rfl⟩

theorem describes_email_iff : Shape.Describes email cs ↔
    ∃ mailbox name ending, cs = mailbox ++ '@' :: (name ++ '.' :: ending) ∧
      AreMailParts mailbox name ending := by
  simp only [email, Shape.all, Shape.describes_seq_iff, Shape.describes_oneOrMore_one_iff,
    Shape.describes_literal_iff, Shape.describes_empty_iff, describes_host_iff, has_mailboxChar_iff,
    has_hostChar_iff, has_endingChar_iff]
  constructor
  · rintro ⟨mailbox, _, rfl, ⟨hne, hmailbox⟩, _, _, rfl, rfl, _, _, rfl,
      ⟨name, ending, rfl, ⟨hne', hname⟩, hlow, hhigh, hending⟩, rfl⟩
    exact ⟨mailbox, name, ending, by simp, hne, hmailbox, hne', hname, hlow, hhigh, hending⟩
  · rintro ⟨mailbox, name, ending, rfl, h⟩
    exact ⟨mailbox, _, rfl, ⟨h.mailbox_ne_nil, h.mailbox_chars⟩, ['@'], _, rfl, rfl, _, [], by simp,
      ⟨name, ending, rfl, ⟨h.host_ne_nil, h.host_chars⟩, h.two_le_ending, h.ending_le_six,
        h.ending_chars⟩, rfl⟩

/-- No part of an address holds an at sign, so the sign between them is the only one. -/
theorem AreMailParts.count_at (h : AreMailParts mailbox name ending) :
    (mailbox ++ '@' :: (name ++ '.' :: ending)).count '@' = 1 := by
  have hmailbox : '@' ∉ mailbox := by
    intro hmem
    exact absurd (h.mailbox_chars '@' hmem) (by decide)
  have hname : '@' ∉ name := by
    intro hmem
    exact absurd (h.host_chars '@' hmem) (by decide)
  have hending : '@' ∉ ending := by
    intro hmem
    exact absurd (h.ending_chars '@' hmem) (by decide)
  simp [List.count_append, List.count_eq_zero_of_not_mem, hmailbox, hname, hending]

/-- The shape of an address describes the addresses. -/
theorem email_fits_iff : email.fits cs = true ↔ IsMailAddress cs := by
  rw [Shape.fits_iff, describes_email_iff, IsMailAddress, iff_and_self]
  rintro ⟨mailbox, name, ending, rfl, h⟩
  exact h.count_at

end Pattern

namespace Kind

variable {value : Value}

theorem hasShape_email_iff : value.hasShape Pattern.email = true ↔
    ∃ s, value = .text s ∧ Pattern.IsMailAddress s.toList := by
  cases value <;> simp [Value.hasShape, Pattern.email_fits_iff]

/-- A mail address is not empty and holds an at sign. -/
theorem isTruthy_and_holdsChar_of_email (h : value.hasShape Pattern.email = true) :
    value.isTruthy = true ∧ value.holdsChar '@' = true := by
  obtain ⟨s, rfl, hcount, -⟩ := hasShape_email_iff.mp h
  have hat : '@' ∈ s.toList := List.count_pos_iff.mp (by omega)
  constructor
  · rw [Value.isTruthy, bne_iff_ne]
    rintro rfl
    exact absurd hat (by decide)
  · simpa [Value.holdsChar] using hat

/-- The check of addresses says yes to texts that are mail addresses and no to every other value, whatever
it is given. The check of names of users says yes to the same texts at least. -/
theorem mail_addresses_decided (s : Surroundings) (value given fields : Value) :
    (∃ b, email.judge s value given fields = .ok (some b) ∧
      (b = true ↔ ∃ s, value = .text s ∧ Pattern.IsMailAddress s.toList)) ∧
    (email.judge s value given fields = .ok (some true) →
      username.judge s value given fields = .ok (some true)) := by
  constructor
  · exact ⟨value.hasShape Pattern.email, rfl, hasShape_email_iff⟩
  · intro haccepted
    have hshape : value.hasShape Pattern.email = true := by simpa [judge] using haccepted
    obtain ⟨htruthy, hat⟩ := isTruthy_and_holdsChar_of_email hshape
    simp [judge, unlessEmpty, Value.isFalsy, htruthy, hat, hshape, Except.map]

/-- A mailbox with a plus sign, and a host whose name is followed by two points. -/
theorem mail_addresses_decided_points :
    email.judge .silent (.text "jan+k@x..co") .null .null = .ok (some true) ∧
      username.judge .silent (.text "jan+k@x..co") .null .null = .ok (some true) := by
  have hshape : (Value.text "jan+k@x..co").hasShape Pattern.email = true := by decide +kernel
  have haccepted : email.judge .silent (.text "jan+k@x..co") .null .null =
      .ok (some true) := by rw [judge, hshape]
  obtain ⟨-, husername⟩ :=
    mail_addresses_decided .silent (.text "jan+k@x..co") .null .null
  exact ⟨haccepted, husername haccepted⟩

end Kind

end FieldRules
