import SpeechWire.Lines
import SpeechWire.Text.Utf8
import SpeechWire.Text.Blank
import SpeechWire.Text.Quoted
import SpeechWire.Block
import SpeechWire.Command
import SpeechWire.Reply.Parse
import SpeechWire.Reply.Render
import SpeechWire.Reply.Frame
import SpeechWire.Settings
import SpeechWire.Fault
import SpeechWire.Reply.Verdict
import SpeechWire.Request
import SpeechWire.Event
import SpeechWire.Transport
import SpeechWire.Outcome
import SpeechWire.Assembler
import SpeechWire.Connection
import SpeechWire.Session
import SpeechWire.Pool
import SpeechWire.Sharing
import SpeechWire.Version
import SpeechWire.Proofs.Bytes
import SpeechWire.Proofs.Escaping
import SpeechWire.Proofs.Doubling
import SpeechWire.Proofs.Overlaps
import SpeechWire.Proofs.BlockEnd
import SpeechWire.Proofs.Framing
import SpeechWire.Proofs.LastLine
import SpeechWire.Proofs.Reading
import SpeechWire.Proofs.Settling
import SpeechWire.Proofs.Grammar
import SpeechWire.Proofs.Offsets
import SpeechWire.Proofs.Pairing
import SpeechWire.Proofs.Receiving
import SpeechWire.Proofs.Rounds
import SpeechWire.Proofs.Bounds
import SpeechWire.Proofs.Progress
import SpeechWire.Proofs.Aftermath
import SpeechWire.Proofs.Alignment
import SpeechWire.Proofs.Meaning
import SpeechWire.Proofs.Agreement
import SpeechWire.Proofs.Transmission
import SpeechWire.Proofs.Verdicts
import SpeechWire.Proofs.Renewal
import SpeechWire.Proofs.Handles
import SpeechWire.Proofs.Recovery
import SpeechWire.Proofs.Sharing
import SpeechWire.Proofs.Choices
import SpeechWire.Proofs.Introduction
import SpeechWire.Proofs.Words
import SpeechWire.Proofs.Logging
