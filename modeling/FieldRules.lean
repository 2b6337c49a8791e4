import FieldRules.Behaviour
import FieldRules.Proofs.Answers
import FieldRules.Proofs.BirthDates
import FieldRules.Proofs.CallOrder
import FieldRules.Proofs.CombinedBounds
import FieldRules.Proofs.EmptyValues
import FieldRules.Proofs.Flags
import FieldRules.Proofs.GivenReports
import FieldRules.Proofs.KeptGroups
import FieldRules.Proofs.LibraryLookups
import FieldRules.Proofs.MailAddresses
import FieldRules.Proofs.Messages
import FieldRules.Proofs.NumericDates
import FieldRules.Proofs.NumericTexts
import FieldRules.Proofs.RawReading
import FieldRules.Proofs.ReadBack
import FieldRules.Proofs.RelatedFields
import FieldRules.Proofs.RestrictedSchemas
import FieldRules.Proofs.Revalidation
import FieldRules.Proofs.SameData
import FieldRules.Proofs.SealedReports
import FieldRules.Proofs.SingleField
import FieldRules.Proofs.UnreadFields
import FieldRules.Proofs.WebAddresses
import FieldRules.Proofs.WrittenBounds
import FieldRules.Service
import FieldRules.Proofs.Coercion
