import EventHeader.Main
import EventHeader.Schema.ByHand
import EventHeader.Proofs.PayloadUnfolding
import EventHeader.Proofs.DeclarationOrder
import EventHeader.Proofs.StrictLockstep
import EventHeader.Proofs.EnumLabels
import EventHeader.Proofs.SettlingFaults
import EventHeader.Proofs.GenerationFaults
import EventHeader.Proofs.LastContents
import EventHeader.Proofs.TextLines
import EventHeader.Proofs.DeclarationLines
import EventHeader.Proofs.EnumLookup
import EventHeader.Proofs.CheckedDecisions
import EventHeader.Proofs.SchemaAcceptance
import EventHeader.Proofs.RegularSchemas
import EventHeader.Proofs.SchemaEncoding
import EventHeader.Proofs.DocumentEdits
import EventHeader.Proofs.RewordedLines
import EventHeader.Proofs.CheckedFaults
import EventHeader.Proofs.DocumentPlaces
import EventHeader.Proofs.FaultBlocks
import EventHeader.Proofs.FaultOrigins
import EventHeader.Proofs.ReferenceChains
import EventHeader.Proofs.IncludeSets
import EventHeader.Proofs.HeaderContents
import EventHeader.Proofs.OrderIndependence
import EventHeader.Proofs.ComponentIsolation
import EventHeader.Proofs.Utf8Sequences
import EventHeader.Proofs.FilePlaces
import EventHeader.Proofs.QuietRuns
import EventHeader.Proofs.OutputChecks
import EventHeader.Proofs.GenerateCommand
import EventHeader.Proofs.CarriageReturns
import EventHeader.Proofs.FreshHeaders
import EventHeader.Proofs.NeededIncludes
import EventHeader.Proofs.RegistryCalls
import EventHeader.Proofs.EnumRegistration
import EventHeader.Proofs.UnfinishedStructs
import EventHeader.Proofs.Nesting
import EventHeader.Proofs.ReaderStops
import EventHeader.Proofs.SchemaLoading
import EventHeader.Proofs.KeptCharacters
import EventHeader.Proofs.OutlineReading
import EventHeader.Proofs.EmptySettings
import EventHeader.Proofs.MemberNames
import EventHeader.Proofs.PathNames
import EventHeader.Proofs.LiteralBodies
import EventHeader.Proofs.Indentation
