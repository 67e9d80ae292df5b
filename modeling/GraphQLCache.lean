import GraphQLCache.Main
import GraphQLCache.Proofs.Builder
import GraphQLCache.Proofs.Conformance
import GraphQLCache.Proofs.Entries
import GraphQLCache.Proofs.MemberChain
import GraphQLCache.Proofs.Regular
import GraphQLCache.Proofs.Synthesis
import GraphQLCache.Proofs.Termination
import GraphQLCache.Proofs.Coverage
import GraphQLCache.Proofs.SelectedKeys
import GraphQLCache.Proofs.EntryLoop
import GraphQLCache.Proofs.IntrospectionRoundTrip
import GraphQLCache.Proofs.DocumentTokens
import GraphQLCache.Proofs.ReaderRuns
import GraphQLCache.Proofs.DocumentReading
import GraphQLCache.Proofs.EntityListing
import GraphQLCache.Proofs.DeclaredTypes
import GraphQLCache.Proofs.Pruning
import GraphQLCache.Proofs.AsciiText
import GraphQLCache.Proofs.CommandLines
import GraphQLCache.Proofs.EntryGroups
import GraphQLCache.Proofs.JsonFiles
import GraphQLCache.Proofs.JsonRoundTrip
import GraphQLCache.Proofs.MockRuns
import GraphQLCache.Proofs.GroupedEntities
import GraphQLCache.Proofs.SwitchedMembers
import GraphQLCache.Proofs.AlikeTrees
import GraphQLCache.Proofs.Branches
import GraphQLCache.Proofs.DocumentDepth
import GraphQLCache.Proofs.EntityOrder
import GraphQLCache.Proofs.HopBudget
import GraphQLCache.Proofs.EntryAccount
import GraphQLCache.Proofs.FoundNames
import GraphQLCache.Proofs.SearchedListing
import GraphQLCache.Proofs.FoundText
import GraphQLCache.Proofs.MissingShape
import GraphQLCache.Proofs.UnknownKeys
import GraphQLCache.Proofs.TypeGroups
import GraphQLCache.Proofs.ReadFields
import GraphQLCache.Proofs.OneLine
import GraphQLCache.Proofs.TypeSpelling
import GraphQLCache.Proofs.EntityLabels
import GraphQLCache.Proofs.BareReferences
