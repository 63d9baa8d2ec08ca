import TravelModel.CommandLine.Run
import TravelModel.Main
import TravelModel.Generation.Session
import TravelModel.Proofs.Keyed
import TravelModel.Proofs.References
import TravelModel.Proofs.Arena
import TravelModel.Proofs.SymbolTable
import TravelModel.Proofs.Contributions
import TravelModel.Proofs.Merging
import TravelModel.Proofs.Declarations
import TravelModel.Proofs.Faithful
import TravelModel.Proofs.Search
import TravelModel.Proofs.Refresh
import TravelModel.Proofs.RootScope
import TravelModel.Proofs.Collisions
import TravelModel.Proofs.Ownership
import TravelModel.Proofs.Binding
import TravelModel.Proofs.Linking
import TravelModel.Proofs.LibraryOrder
import TravelModel.Proofs.Needs
import TravelModel.Proofs.ClosedScope
import TravelModel.Proofs.SchemaClosure
import TravelModel.Proofs.ServiceSchemas
import TravelModel.Proofs.JsonRefs
import TravelModel.Proofs.JsonDefinitions
import TravelModel.Proofs.JsonClosure
import TravelModel.Proofs.LinkedSchemas
import TravelModel.Proofs.EmissionOrder
import TravelModel.Proofs.SchemaAgreement
import TravelModel.Proofs.Loading
import TravelModel.Proofs.Reading
import TravelModel.Proofs.StrictReading
import TravelModel.Proofs.GrammarTags
import TravelModel.Proofs.OlderGrammars
import TravelModel.Proofs.RoundTrip
import TravelModel.Proofs.FileTrees
import TravelModel.Proofs.LinkTargets
import TravelModel.Proofs.HostIncludes
import TravelModel.Proofs.WrittenFiles
import TravelModel.Proofs.CleanNames
import TravelModel.Proofs.ComponentNames
import TravelModel.Proofs.NameClashes
import TravelModel.Proofs.Overwriting
import TravelModel.Proofs.ApiSchemas
import TravelModel.Proofs.ApiOperations
import TravelModel.Proofs.ResolverAnswers
import TravelModel.Proofs.ProjectWaves
import TravelModel.Proofs.ResolverCache
import TravelModel.Proofs.VersionedNamespaces
import TravelModel.Proofs.XmlTokens
import TravelModel.Proofs.XmlReading
import TravelModel.Proofs.SchemaMarkup
import TravelModel.Proofs.SchemaReading
import TravelModel.Proofs.RunPrefixes
import TravelModel.Proofs.ScopeComposition
import TravelModel.Proofs.UnrelatedLibrary
import TravelModel.Proofs.ModelPrefixes
import TravelModel.Proofs.NativeNames
import TravelModel.Proofs.OperationNames
import TravelModel.Proofs.Hosting
import TravelModel.Proofs.AllOrNothing
import TravelModel.Proofs.OutputPlaces
import TravelModel.Proofs.ConfinedOutput
import TravelModel.Proofs.ExtensionChain
import TravelModel.Proofs.InheritedFacets
import TravelModel.Proofs.EnumerationLiterals
import TravelModel.Proofs.FlatContent
import TravelModel.Proofs.JoinedPaths
import TravelModel.Proofs.ReferencesInPlace
import TravelModel.Proofs.OwnNames
import TravelModel.Proofs.ExtensionPoints
