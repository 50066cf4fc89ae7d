import MessageSchema.Descriptor.Encoding
import MessageSchema.Descriptor.Construction
import MessageSchema.Schema.Cache
import MessageSchema.Main
import MessageSchema.Proofs.Resolution
import MessageSchema.Proofs.Locality
import MessageSchema.Proofs.Siblings
import MessageSchema.Proofs.Agreement
import MessageSchema.Proofs.LiteralPattern
import MessageSchema.Proofs.Rounding
import MessageSchema.Proofs.RuleFaults
import MessageSchema.Proofs.Flaws
import MessageSchema.Proofs.Extension
import MessageSchema.Proofs.LeadingDots
import MessageSchema.Proofs.Occurrence
import MessageSchema.Proofs.ReferenceKeys
import MessageSchema.Proofs.SharedCalls
import MessageSchema.Proofs.Collisions
import MessageSchema.Proofs.AllOrNothing
import MessageSchema.Proofs.DescriptorTexts
import MessageSchema.Proofs.RuleEffects
import MessageSchema.Proofs.Objects
import MessageSchema.Proofs.Admission
import MessageSchema.Proofs.WellKnownTypes
import MessageSchema.Proofs.Bounds
import MessageSchema.Proofs.Representation
import MessageSchema.Proofs.Nullability
import MessageSchema.Proofs.Annotations
import MessageSchema.Proofs.Matching
import MessageSchema.Proofs.RequiredFields
import MessageSchema.Proofs.EnumNames
import MessageSchema.Proofs.Wrappers
import MessageSchema.Proofs.Reapplication
import MessageSchema.Proofs.NameSegments
import MessageSchema.Proofs.BytesConstants
import MessageSchema.Proofs.PrintedDocuments
