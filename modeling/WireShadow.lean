import WireShadow.Disk.FileTree
import WireShadow.Log.Filter
import WireShadow.Main
import WireShadow.Proofs.WordCursor
import WireShadow.Proofs.Description
import WireShadow.Proofs.MemberTags
import WireShadow.Proofs.Placement
import WireShadow.Proofs.Revision
import WireShadow.Proofs.Marker
import WireShadow.Proofs.MemberStability
import WireShadow.Proofs.ElementTypes
import WireShadow.Proofs.Report
import WireShadow.Proofs.Walk
import WireShadow.Proofs.RuleReports
import WireShadow.Proofs.PropertyFates
import WireShadow.Proofs.Earlier
import WireShadow.Proofs.TagReports
import WireShadow.Proofs.MemberNames
import WireShadow.Proofs.Course
import WireShadow.Proofs.Crew
import WireShadow.Proofs.Nesting
import WireShadow.Proofs.Representation
import WireShadow.Proofs.Visibility
import WireShadow.Proofs.Listing
import WireShadow.Proofs.Reordering
import WireShadow.Proofs.FileTree
import WireShadow.Proofs.WrittenFiles
import WireShadow.Proofs.OutputKeys
import WireShadow.Proofs.NodeMap
import WireShadow.Proofs.NormalNames
import WireShadow.Proofs.UnrootedGraph
import WireShadow.Proofs.UnrootedResults
import WireShadow.Proofs.RootAlias
import WireShadow.Proofs.FilterLevels
import WireShadow.Proofs.OutputPlaces
import WireShadow.Proofs.Resolution
import WireShadow.Proofs.Scanning
import WireShadow.Proofs.Decoding
import WireShadow.Proofs.Documents
import WireShadow.Proofs.BaseChain
import WireShadow.Proofs.Families
import WireShadow.Proofs.IncludeSlots
import WireShadow.Proofs.DocumentOrder
import WireShadow.Proofs.OpenNesting
import WireShadow.Proofs.UnitText
import WireShadow.Proofs.Classification
import WireShadow.Proofs.TypeText
import WireShadow.Proofs.InterfaceNames
import WireShadow.Proofs.MissingElements
import WireShadow.Proofs.OpenBlocks
import WireShadow.Proofs.OwnMarker
