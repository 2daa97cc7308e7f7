import ScriptGlue.Main
import ScriptGlue.Proofs.Clash
import ScriptGlue.Proofs.Conversion
import ScriptGlue.Proofs.Rendering
import ScriptGlue.Proofs.Listing
import ScriptGlue.Proofs.Generation
import ScriptGlue.Proofs.WrapperNames
import ScriptGlue.Proofs.Delivery
import ScriptGlue.Proofs.WellTyped
import ScriptGlue.Proofs.Emission
import ScriptGlue.Proofs.Exposure
import ScriptGlue.Proofs.Agreement
import ScriptGlue.Proofs.DeclaredNames
import ScriptGlue.Proofs.StringLiteral
import ScriptGlue.Proofs.Respelling
import ScriptGlue.Proofs.DefaultNamespace
import ScriptGlue.Proofs.InertText
import ScriptGlue.Proofs.Preprocessing
import ScriptGlue.Proofs.ConditionalCode
import ScriptGlue.Proofs.Revisit
import ScriptGlue.Proofs.Gathered
import ScriptGlue.Proofs.ExitCode
import ScriptGlue.Proofs.WriteHistory
import ScriptGlue.Proofs.Operand
import ScriptGlue.Proofs.Lookup
import ScriptGlue.Proofs.Locality
import ScriptGlue.Proofs.Reordering
import ScriptGlue.Proofs.DefaultArgument
import ScriptGlue.Proofs.Lineage
import ScriptGlue.Proofs.KeptClass
import ScriptGlue.Proofs.Enclosure
import ScriptGlue.Proofs.Reprinting
import ScriptGlue.Proofs.Classification
import ScriptGlue.Proofs.CatalogIndex
import ScriptGlue.Proofs.Substitution
import ScriptGlue.Proofs.WrapperIdentifier
import ScriptGlue.Proofs.UniqueReading
import ScriptGlue.Proofs.HeaderGuard
import ScriptGlue.Proofs.NameToken
import ScriptGlue.Proofs.HeaderPath
import ScriptGlue.Proofs.Discovery
import ScriptGlue.Proofs.Qualifier
