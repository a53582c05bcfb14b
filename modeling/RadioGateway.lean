import RadioGateway.Attributes
import RadioGateway.Bytes
import RadioGateway.CommandLine.Arguments
import RadioGateway.CommandLine.Launch
import RadioGateway.Configuration.Folder
import RadioGateway.Configuration.LogLevel
import RadioGateway.Configuration.Settings
import RadioGateway.Configuration.SocketAddress
import RadioGateway.Configuration.Source
import RadioGateway.EnOcean.Crc8
import RadioGateway.EnOcean.Network
import RadioGateway.EnOcean.Packet
import RadioGateway.EnOcean.Session
import RadioGateway.Http.Gateway
import RadioGateway.Http.Message
import RadioGateway.Link.Backlog
import RadioGateway.Link.Decoding
import RadioGateway.Link.Event
import RadioGateway.Link.Failure
import RadioGateway.Link.Network
import RadioGateway.Link.OsFault
import RadioGateway.Link.Worker
import RadioGateway.Main
import RadioGateway.SortedMap
import RadioGateway.Text.Numeral
import RadioGateway.Text.PercentCoding
import RadioGateway.Text.Utf8
import RadioGateway.Toml.Document
import RadioGateway.Toml.Moment
import RadioGateway.Toml.Quoted
import RadioGateway.Toml.Scalar
import RadioGateway.Toml.Spacing
import RadioGateway.Toml.Table
import RadioGateway.Toml.Value
import RadioGateway.ZWave.CommandClass
import RadioGateway.ZWave.Feature
import RadioGateway.ZWave.Feature.Identification
import RadioGateway.ZWave.Feature.Level
import RadioGateway.ZWave.Feature.Registers
import RadioGateway.ZWave.Feature.Shutter
import RadioGateway.ZWave.Frame
import RadioGateway.ZWave.Network
import RadioGateway.ZWave.Node
import RadioGateway.ZWave.Request
import RadioGateway.ZWave.Session
import RadioGateway.Proofs.Attributes.View
import RadioGateway.Proofs.Checked.Decimal
import RadioGateway.Proofs.Checked.EnOceanNetwork
import RadioGateway.Proofs.Checked.EnOceanPacket
import RadioGateway.Proofs.Checked.EnOceanSession
import RadioGateway.Proofs.Checked.Gateway
import RadioGateway.Proofs.Checked.Link
import RadioGateway.Proofs.Checked.Machine
import RadioGateway.Proofs.Checked.Octets
import RadioGateway.Proofs.Checked.ZWaveFrame
import RadioGateway.Proofs.Checked.ZWaveNetwork
import RadioGateway.Proofs.Checked.ZWaveNode
import RadioGateway.Proofs.Checked.ZWaveSession
import RadioGateway.Proofs.CommandLine.Override
import RadioGateway.Proofs.EnOcean.Burst
import RadioGateway.Proofs.EnOcean.Chronicle
import RadioGateway.Proofs.EnOcean.Division
import RadioGateway.Proofs.EnOcean.Effect
import RadioGateway.Proofs.EnOcean.Framing
import RadioGateway.Proofs.EnOcean.Operation
import RadioGateway.Proofs.EnOcean.Recognition
import RadioGateway.Proofs.EnOcean.Remainder
import RadioGateway.Proofs.EnOcean.Run
import RadioGateway.Proofs.EnOcean.Switches
import RadioGateway.Proofs.Http.Address
import RadioGateway.Proofs.Http.Setting
import RadioGateway.Proofs.Link.Discipline
import RadioGateway.Proofs.Link.Exchange
import RadioGateway.Proofs.Link.Incremental
import RadioGateway.Proofs.Link.Pieces
import RadioGateway.Proofs.Link.Recorded
import RadioGateway.Proofs.Link.Retention
import RadioGateway.Proofs.Link.Rounds
import RadioGateway.Proofs.Link.Usage
import RadioGateway.Proofs.Text.Decimal
import RadioGateway.Proofs.ZWave.Acknowledgement
import RadioGateway.Proofs.ZWave.Alteration
import RadioGateway.Proofs.ZWave.Appending
import RadioGateway.Proofs.ZWave.Attribution
import RadioGateway.Proofs.ZWave.Batch
import RadioGateway.Proofs.ZWave.Brevity
import RadioGateway.Proofs.ZWave.Capacity
import RadioGateway.Proofs.ZWave.Completion
import RadioGateway.Proofs.ZWave.Consequence
import RadioGateway.Proofs.ZWave.Conservation
import RadioGateway.Proofs.ZWave.Content
import RadioGateway.Proofs.ZWave.Course
import RadioGateway.Proofs.ZWave.Dialogue
import RadioGateway.Proofs.ZWave.Effect
import RadioGateway.Proofs.ZWave.Existence
import RadioGateway.Proofs.ZWave.Framing
import RadioGateway.Proofs.ZWave.Heard
import RadioGateway.Proofs.ZWave.Influence
import RadioGateway.Proofs.ZWave.Ledger
import RadioGateway.Proofs.ZWave.Listing
import RadioGateway.Proofs.ZWave.Noise
import RadioGateway.Proofs.ZWave.Operation
import RadioGateway.Proofs.ZWave.Reception
import RadioGateway.Proofs.ZWave.Recognition
import RadioGateway.Proofs.ZWave.Registers
import RadioGateway.Proofs.ZWave.Renewal
import RadioGateway.Proofs.ZWave.Reporting
import RadioGateway.Proofs.ZWave.Run
import RadioGateway.Proofs.ZWave.Separation
import RadioGateway.Proofs.ZWave.Showing
import RadioGateway.Proofs.ZWave.Shutters
import RadioGateway.Proofs.ZWave.Silence
import RadioGateway.Proofs.ZWave.Specialisation
import RadioGateway.Proofs.ZWave.Ticket
import RadioGateway.Proofs.ZWave.Timer
import RadioGateway.Proofs.ZWave.Tracking
import RadioGateway.Proofs.ZWave.Watched
