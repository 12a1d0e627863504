import LS8.Arithmetic
import LS8.CommandLine.Arguments
import LS8.CommandLine.Options
import LS8.CommandLine.Session
import LS8.Event
import LS8.Fault
import LS8.Files
import LS8.Flags
import LS8.Image
import LS8.Listing
import LS8.Main
import LS8.Memory
import LS8.Numeral
import LS8.Opcode
import LS8.Processor.Basic
import LS8.Processor.Execute
import LS8.Processor.Machine
import LS8.Processor.Run
import LS8.Processor.Step
import LS8.Processor.Summary
import LS8.Record
import LS8.Registers
import LS8.Sink
import LS8.Text.Blank
import LS8.Text.Fields
import LS8.Text.Hidden
import LS8.Text.Quoted
import LS8.Proofs.InstructionTable
import LS8.Proofs.Stepping
import LS8.Proofs.Loop
import LS8.Proofs.Slices
import LS8.Proofs.FaultAtomicity
import LS8.Proofs.StackDiscipline
import LS8.Proofs.FaultConditions
import LS8.Proofs.ImageGrammar
import LS8.Proofs.ImageJoining
import LS8.Proofs.Reachability
import LS8.Proofs.ListingBlocks
import LS8.Proofs.ListingText
import LS8.Proofs.Executing
import LS8.Proofs.ListingExecution
import LS8.Proofs.LimitedSink
import LS8.Proofs.AlikeSteps
import LS8.Proofs.UsedCells
import LS8.Proofs.SessionOutcome
import LS8.Proofs.ImageRendering
import LS8.Proofs.LastWriter
import LS8.Proofs.HaltedProcessor
import LS8.Proofs.RunRecords
import LS8.Proofs.ShownEvents
import LS8.Proofs.FullOutput
import LS8.Proofs.ArgumentForms
import LS8.Proofs.LogOptions
import LS8.Proofs.LogOptionReading
import LS8.Proofs.AcceptedArguments
import LS8.Proofs.LogTransparency
import LS8.Proofs.RunCounts
import LS8.Proofs.RecordTexts
import LS8.Proofs.EqualFlag
import LS8.Proofs.ListingGrowth
import LS8.Proofs.FaultWarnings
import LS8.Proofs.FileText
import LS8.Proofs.QuotedMessage
import LS8.Proofs.SummaryFields
import LS8.Proofs.BoundedStores
