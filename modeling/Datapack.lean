import Datapack.Disk.Listing
import Datapack.Main
import Datapack.Scene
import Datapack.Store.Recorder
import Datapack.Proofs.LastBlock
import Datapack.Proofs.Grammar
import Datapack.Proofs.RuleForms
import Datapack.Proofs.Backtracking
import Datapack.Proofs.PatternTable
import Datapack.Proofs.LineTexts
import Datapack.Proofs.PackPaths
import Datapack.Proofs.Confinement
import Datapack.Proofs.LineEnds
import Datapack.Proofs.LineScan
import Datapack.Proofs.SectionBounds
import Datapack.Proofs.Warnings
import Datapack.Proofs.FunctionFiles
import Datapack.Proofs.RoundTrip
import Datapack.Proofs.IgnoredEdits
import Datapack.Proofs.Emission
import Datapack.Proofs.PackOnDisk
import Datapack.Proofs.Outcome
import Datapack.Proofs.Continuation
import Datapack.Proofs.Concatenation
import Datapack.Proofs.LocalEdits
import Datapack.Proofs.Outlines
import Datapack.Proofs.Parents
import Datapack.Proofs.Repetition
import Datapack.Proofs.Directories
import Datapack.Proofs.Recompilation
import Datapack.Proofs.SelectorPass
import Datapack.Proofs.Seams
import Datapack.Proofs.RuleOrder
import Datapack.Proofs.Spacing
import Datapack.Proofs.Dialogue
import Datapack.Proofs.Rendering
import Datapack.Proofs.TreeShape
import Datapack.Proofs.Histories
