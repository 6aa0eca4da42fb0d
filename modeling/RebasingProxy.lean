import RebasingProxy.Backend
import RebasingProxy.Bases
import RebasingProxy.Binary64
import RebasingProxy.BodyStream
import RebasingProxy.Bytes
import RebasingProxy.CommandLine
import RebasingProxy.CommandLine.Similarity
import RebasingProxy.CommandLine.Switch
import RebasingProxy.CommandLine.Usage
import RebasingProxy.Config
import RebasingProxy.Config.ContentTypes
import RebasingProxy.Config.Error
import RebasingProxy.Config.Fault
import RebasingProxy.Config.File
import RebasingProxy.Config.Layer
import RebasingProxy.Duration
import RebasingProxy.Event
import RebasingProxy.Event.Filter
import RebasingProxy.Event.Pattern
import RebasingProxy.Exchange
import RebasingProxy.Failure
import RebasingProxy.Headers
import RebasingProxy.Headers.HopByHop
import RebasingProxy.Headers.Request
import RebasingProxy.Headers.Response
import RebasingProxy.IpAddress
import RebasingProxy.LineBuffer
import RebasingProxy.Main
import RebasingProxy.Numeral
import RebasingProxy.Occurrence
import RebasingProxy.Path
import RebasingProxy.Reply
import RebasingProxy.Startup
import RebasingProxy.Status
import RebasingProxy.Text.Alphanumeric
import RebasingProxy.Text.Indented
import RebasingProxy.Text.Plain
import RebasingProxy.Text.Quoted
import RebasingProxy.Text.Visible
import RebasingProxy.Text.WhiteSpace
import RebasingProxy.Toml.Document
import RebasingProxy.Toml.Excerpt
import RebasingProxy.Toml.Line
import RebasingProxy.Toml.Number
import RebasingProxy.Toml.Placement
import RebasingProxy.Toml.Text
import RebasingProxy.Toml.Value
import RebasingProxy.Uri
import RebasingProxy.Uri.Authority
import RebasingProxy.Proofs.Occurrence.Pieces
import RebasingProxy.Proofs.Bases
import RebasingProxy.Proofs.Bases.Lines
import RebasingProxy.Proofs.Bases.External
import RebasingProxy.Proofs.Bases.Places
import RebasingProxy.Proofs.LineBuffer
import RebasingProxy.Proofs.LineBuffer.Rounds
import RebasingProxy.Proofs.LineBuffer.Held
import RebasingProxy.Proofs.LineBuffer.Whole
import RebasingProxy.Proofs.BodyStream
import RebasingProxy.Proofs.BodyStream.Delivery
import RebasingProxy.Proofs.BodyStream.Whole
import RebasingProxy.Proofs.BodyStream.Ending
import RebasingProxy.Proofs.BodyStream.Frames
import RebasingProxy.Proofs.BodyStream.Interruption
import RebasingProxy.Proofs.FieldText
import RebasingProxy.Proofs.Headers
import RebasingProxy.Proofs.Headers.HopByHop
import RebasingProxy.Proofs.Headers.Request
import RebasingProxy.Proofs.Headers.AddressChain
import RebasingProxy.Proofs.Headers.Response
import RebasingProxy.Proofs.Uri.Authority
import RebasingProxy.Proofs.Path
import RebasingProxy.Proofs.Uri
import RebasingProxy.Proofs.Config
import RebasingProxy.Proofs.Backend
import RebasingProxy.Proofs.Exchange
import RebasingProxy.Proofs.Exchange.Answer
import RebasingProxy.Proofs.Exchange.Destination
import RebasingProxy.Proofs.Exchange.Network
import RebasingProxy.Proofs.Exchange.Links
import RebasingProxy.Proofs.Exchange.Target
import RebasingProxy.Proofs.Exchange.Verdict
import RebasingProxy.Proofs.CommandLine
import RebasingProxy.Proofs.Toml.Document
import RebasingProxy.Proofs.Config.Setting
import RebasingProxy.Proofs.Config.Requirement
import RebasingProxy.Proofs.Startup
import RebasingProxy.Proofs.Startup.Check
