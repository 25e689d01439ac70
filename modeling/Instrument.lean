import Instrument.Main
import Instrument.Proofs.PinCustody
import Instrument.Proofs.PinIndependence
import Instrument.Proofs.PinGroups
import Instrument.Proofs.Holdings
import Instrument.Proofs.HoldingLines
import Instrument.Proofs.FanOut
import Instrument.Proofs.Interleaving
import Instrument.Proofs.Ownership
import Instrument.Proofs.QueueRefinement
import Instrument.Proofs.LineGrammar
import Instrument.Proofs.Manner
import Instrument.Proofs.RolledBack
import Instrument.Proofs.CommandReplies
import Instrument.Proofs.StationReplies
import Instrument.Proofs.FailedLines
import Instrument.Proofs.DispatchedLines
import Instrument.Proofs.SessionFrames
import Instrument.Proofs.StandingNotes
import Instrument.Proofs.HeldPins
import Instrument.Proofs.StartToStop
import Instrument.Proofs.LineRoundTrip
import Instrument.Proofs.PoolHistory
import Instrument.Proofs.CommandNames
import Instrument.Proofs.OnePass
import Instrument.Proofs.LongLines
import Instrument.Proofs.PowerOn
import Instrument.Proofs.FoldedLines
import Instrument.Proofs.TwinRuns
import Instrument.Proofs.FoldedCommands
import Instrument.Proofs.CaseBlind
import Instrument.Proofs.Exhaustion
import Instrument.Proofs.SequenceGaps
import Instrument.Proofs.NumeralGrammar
import Instrument.Proofs.RegistrationFrame
import Instrument.Proofs.Effects
import Instrument.Proofs.ConverterStart
import Instrument.Proofs.SentReplies
import Instrument.Proofs.ConverterLines
import Instrument.Proofs.GpioLines
import Instrument.Proofs.Crashes
import Instrument.Proofs.ConverterCycle
import Instrument.Proofs.DacCodes
import Instrument.Proofs.Admission
import Instrument.Proofs.OneConversion
import Instrument.Proofs.Periods
import Instrument.Proofs.Memoryless
import Instrument.Proofs.FramedLines
import Instrument.Proofs.DataLines
import Instrument.Proofs.FlatStore
import Instrument.Proofs.PinNames
