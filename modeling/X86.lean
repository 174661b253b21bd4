import X86.Main
import X86.Proofs.AddressTables
import X86.Proofs.AttWidths
import X86.Proofs.BranchTargets
import X86.Proofs.ChunkedSweep
import X86.Proofs.ClassFilter
import X86.Proofs.DispatchGuards
import X86.Proofs.ErrorCounts
import X86.Proofs.Forecasts
import X86.Proofs.ForeignBytes
import X86.Proofs.GeneratedCode
import X86.Proofs.IgnoredBits
import X86.Proofs.ImageLoading
import X86.Proofs.IntelNames
import X86.Proofs.LegacyPrefixes
import X86.Proofs.Legibility
import X86.Proofs.ListingLines
import X86.Proofs.ModeDuality
import X86.Proofs.NumberForms
import X86.Proofs.OperandKinds
import X86.Proofs.PrefixRoles
import X86.Proofs.PrefixStability
import X86.Proofs.RegisterNamespace
import X86.Proofs.Sinks
import X86.Proofs.SizeFamilies
import X86.Proofs.StrictLock
import X86.Proofs.Survey
import X86.Proofs.TransparentPrefixes
import X86.Proofs.VexForms
import X86.Proofs.VexPrefixes
import X86.Proofs.WellFormed
import X86.Stream
import X86.Text.Token
