import NamedSchema.Main
import NamedSchema.Storage.Cache
import NamedSchema.Storage.FileTree
import NamedSchema.Proofs.Acceptance
import NamedSchema.Proofs.BatchRun
import NamedSchema.Proofs.CacheHistory
import NamedSchema.Proofs.Conformance
import NamedSchema.Proofs.CycleSearch
import NamedSchema.Proofs.DeclarationOrder
import NamedSchema.Proofs.DeclaredFields
import NamedSchema.Proofs.FirstFailure
import NamedSchema.Proofs.FirstViolation
import NamedSchema.Proofs.IntegerPolicies
import NamedSchema.Proofs.Invalidation
import NamedSchema.Proofs.ListPolicies
import NamedSchema.Proofs.Loosening
import NamedSchema.Proofs.Reachability
import NamedSchema.Proofs.ReportsReadBack
import NamedSchema.Proofs.ResultTable
import NamedSchema.Proofs.RootEquivalence
import NamedSchema.Proofs.Safeguards
import NamedSchema.Proofs.ShownReferences
import NamedSchema.Proofs.UnambiguousPaths
import NamedSchema.Proofs.WalkDepth
